import TaskLoop.Proofs.ErrorIndex
import TaskLoop.Proofs.OrderedMap
import TaskLoop.Proofs.Similarity
import TaskLoop.Proofs.Sorting

/-!
The search for records like a text as a ranking. Records that score high enough stand in one order,
in which no two are level, so a search is settled by what it returns, and asking for fewer or for
higher scores returns the start of the same list. A failure that occurs once more in another
spelling is found with the highest score, unless one of its words, in its own spelling or in that of
the record, ends in a capital I with a dot.
-/

set_option autoImplicit false

namespace TaskLoop.ErrorIndex

open Similarity Text

/-! ### Spellings of one failure -/

section Ranking

variable {α : Type} [Arithmetic α] {index : ErrorIndex α} {text : String} {threshold : α}

theorem mem_rank {entry : ScoredError α} : entry ∈ index.rank text threshold ↔
    ∃ record ∈ index.records.values,
      entry = ⟨record, overlap (tokenize text) (tokenize record.text)⟩ ∧
        Arithmetic.atMost threshold entry.score = true := by
  rw [rank, List.mem_mergeSort, List.mem_filter, List.mem_map]
  constructor
  · rintro ⟨⟨record, member, rfl⟩, high⟩
    exact ⟨record, member, rfl, high⟩
  · rintro ⟨record, member, rfl, high⟩
    exact ⟨⟨record, member, rfl⟩, high⟩

theorem length_rank_le : (index.rank text threshold).length ≤ index.records.size := by
  rw [rank, List.length_mergeSort]
  refine (List.length_filter_le _ _).trans ?_
  rw [List.length_map, OrderedMap.values, List.length_map, OrderedMap.size]

/-- When as many are asked for as there are records, all that score high enough are returned. -/
theorem findSimilarAt_of_size_le {top : Nat} (all : index.records.size ≤ top) :
    index.findSimilarAt text top threshold = index.rank text threshold :=
  List.take_of_length_le (length_rank_le.trans all)

end Ranking

section Recurrence

variable {α : Type} {index : ErrorIndex α}

theorem recordError_mem_values (index : ErrorIndex α) (text : String) (now : Timestamp) :
    (index.recordError text now).1 ∈ (index.recordError text now).2.records.values := by
  have found := find?_recordError index text now (errorHash text)
  rw [if_pos rfl] at found
  exact List.mem_map.mpr ⟨_, OrderedMap.mem_entries_iff.mpr found, rfl⟩

/-- A text has the settled form of another and no word that ends dotted. -/
structure Spells (text other : String) : Prop where
  same : normalize text.toList = normalize other.toList
  undotted : ∀ word ∈ words text.toList, ¬ EndsDotted word

theorem Spells.tokenize_eq {left right other : String} (spells : Spells left other)
    (spells' : Spells right other) : tokenize left = tokenize right :=
  tokenize_eq_of_normalize (spells.same.trans spells'.same.symm) spells.undotted spells'.undotted

/-- The record of a failure has the failure's tokens when those known by its hash spell the same. -/
theorem tokenize_recordError {text : String} (plain : Spells text text)
    (known : ∀ record, index.records.find? (errorHash text) = some record →
      Spells record.text text) (now : Timestamp) :
    tokenize (index.recordError text now).1.text = tokenize text := by
  rw [recordError]
  cases found : index.records.find? (errorHash text) with
  | none => exact tokenize_trim text
  | some record => exact (known record found).tokenize_eq plain

end Recurrence

/-- A text has the tokens of its settled form just when none of its words, without the punctuation
around it, ends in a capital I with a dot. Spellings of one settled form without such words have
the same tokens, and after one of them was recorded the record is found for the other with the
score of one at any threshold, when as many are asked for as there are records and any record that
was there under the hash is of such a spelling. -/
theorem recurrence_scores_one (index : ErrorIndex Float) (first again : String) (now : Timestamp)
    (threshold : Float) (top : Nat) :
    (tokenize (String.ofList (normalize first.toList)) = tokenize first ↔
      ∀ word ∈ words first.toList, ¬ EndsDotted word) ∧
    (Spells first again → Spells again again →
      tokenize first = tokenize again ∧
      ((∀ record, index.records.find? (errorHash first) = some record →
          Spells record.text again) →
        again.toList.length ≤ powerOfTwo 64 → thresholdIsValid threshold = true →
        (index.recordError first now).2.records.size ≤ top →
        ∃ entry ∈ (index.recordError first now).2.findSimilarAt again top threshold,
          entry.record = (index.recordError first now).1 ∧ entry.score = Arithmetic.one)) := by
  refine ⟨tokenize_normalize_iff first, fun spells plain =>
    ⟨spells.tokenize_eq plain, fun known fits valid all => ?_⟩⟩
  have recorded : tokenize (index.recordError first now).1.text = tokenize again := by
    rw [← spells.tokenize_eq plain]
    refine tokenize_recordError ⟨rfl, spells.undotted⟩ (fun record found => ?_) now
    exact ⟨(known record found).same.trans spells.same.symm, (known record found).undotted⟩
  have whole : overlap (tokenize again) (tokenize (index.recordError first now).1.text) =
      (Arithmetic.one : Float) := by
    rw [recorded]
    exact overlap_self ((size_tokenize_le again).trans fits)
  rw [findSimilarAt_of_size_le all]
  refine ⟨⟨(index.recordError first now).1, Arithmetic.one⟩, mem_rank.mpr
    ⟨_, recordError_mem_values index first now, by rw [whole], ?_⟩, rfl, rfl⟩
  rw [thresholdIsValid, Bool.and_eq_true] at valid
  exact valid.2

end TaskLoop.ErrorIndex

namespace TaskLoop.Sample

open ErrorIndex Similarity Text

/-- In lower case the capital I with a dot is a letter and a dot, but a word is cut before it is put
in lower case, so the dot stays on one spelling and is cut off the other: two spellings of one
failure have no token in common. -/
theorem dotted_spellings_differ :
    normalize "İ".toList = normalize "i\u0307".toList ∧ EndsDotted "İ".toList ∧
      (tokenize "İ").keys = ["i\u0307"] ∧ (tokenize "i\u0307").keys = ["i"] := by
  decide +kernel

/-- A failure is found in another spelling. -/
theorem spelling_found :
    ∃ entry ∈ ((ErrorIndex.empty (Arithmetic.one : Float)).recordError "Bad\tTOKEN (x_İd)"
        ⟨1, 0⟩).2.findSimilarAt "bad token  (X_İD)" 1 Arithmetic.one,
      entry.score = Arithmetic.one := by
  obtain ⟨entry, found, -, score⟩ := ((recurrence_scores_one (ErrorIndex.empty Arithmetic.one)
    "Bad\tTOKEN (x_İd)" "bad token  (X_İD)" ⟨1, 0⟩ Arithmetic.one 1).2
    ⟨by decide +kernel, by decide +kernel⟩ ⟨rfl, by decide +kernel⟩).2
    (fun _ found => by cases found) (by decide) (by decide +kernel) (Nat.le_refl 1)
  exact ⟨entry, found, score⟩

end TaskLoop.Sample

namespace TaskLoop

namespace ErrorIndex

open Similarity

/-! ### The order -/

section Order

variable {α β : Type} [Arithmetic α]

/-- What an entry of an index scores against a text. -/
def scoreOf (text : String) (entry : String × ErrorRecord) : α :=
  overlap (tokenize text) (tokenize entry.2.text)

/-- A record with its score. -/
def scored (text : String) (entry : String × ErrorRecord) : ScoredError α :=
  ⟨entry.2, scoreOf text entry⟩

/-- The order of the ranking: by score and by occurrences, both descending, then by hash, and for
records with one hash, which only a file can hold, by the keys they stand under. -/
def RanksBefore (α : Type) [Arithmetic α] (text : String) (left right : String × ErrorRecord) :
    Prop :=
  Arithmetic.less (scoreOf text right : α) (scoreOf text left) = true ∨
    Arithmetic.less (scoreOf text left : α) (scoreOf text right) = false ∧
      (right.2.occurrences < left.2.occurrences ∨
        left.2.occurrences = right.2.occurrences ∧
          (left.2.hash < right.2.hash ∨ left.2.hash = right.2.hash ∧ left.1 < right.1))

instance (text : String) (left right : String × ErrorRecord) :
    Decidable (RanksBefore α text left right) :=
  inferInstanceAs (Decidable (_ ∨ _))

/-- Where an entry stands by what the records are sorted by. -/
def standing (place : α → β) (text : String) (entry : String × ErrorRecord) :
    βᵒᵈ ×ₗ ℕᵒᵈ ×ₗ String :=
  toLex (OrderDual.toDual (place (scoreOf text entry)),
    toLex (OrderDual.toDual entry.2.occurrences, entry.2.hash))

variable [LinearOrder β] {isNumber : α → Prop} {place : α → β} {text : String}
  {left right : String × ErrorRecord}

/-- What scores at least a threshold is a number. -/
theorem isNumber_of_atMost (ordered : Arithmetic.Ordered isNumber place) {least score : α}
    (high : Arithmetic.atMost least score = true) : isNumber score :=
  (ordered.atMost.mp high).2.1

theorem rankedBefore_iff (ordered : Arithmetic.Ordered isNumber place)
    (isLeft : isNumber (scoreOf text left)) (isRight : isNumber (scoreOf text right)) :
    rankedBefore (scored text left : ScoredError α) (scored text right) = true ↔
      standing place text left ≤ standing place text right := by
  simp only [rankedBefore, scored, ordered.less isLeft isRight, ordered.less isRight isLeft,
    standing, Prod.Lex.toLex_le_toLex, OrderDual.toDual_lt_toDual, OrderDual.toDual_inj]
  rcases lt_trichotomy (place (scoreOf text left)) (place (scoreOf text right)) with
    worse | same | better
  · simp [worse, worse.not_gt, worse.ne]
  · by_cases level : left.2.occurrences = right.2.occurrences
    · simp [same, level, compare_le_iff_le]
    · simp only [same, level, lt_irrefl, decide_false, Bool.false_eq_true, ↓reduceIte, bne_iff_ne,
        ne_eq, not_false_eq_true, false_or, true_and, false_and, or_false]
      exact decide_eq_true_iff
  · simp [better]

theorem ranksBefore_iff (ordered : Arithmetic.Ordered isNumber place)
    (isLeft : isNumber (scoreOf text left)) (isRight : isNumber (scoreOf text right)) :
    RanksBefore α text left right ↔
      toLex (standing place text left, left.1) < toLex (standing place text right, right.1) := by
  simp only [RanksBefore, ordered.less isLeft isRight, ordered.less isRight isLeft, standing,
    Prod.Lex.toLex_lt_toLex, OrderDual.toDual_lt_toDual, decide_eq_true_iff,
    decide_eq_false_iff_not, EmbeddingLike.apply_eq_iff_eq, Prod.mk.injEq]
  rcases lt_trichotomy (place (scoreOf text left)) (place (scoreOf text right)) with
    worse | same | better
  · simp only [worse, worse.not_gt, worse.ne, not_true_eq_false, false_and, or_self]
  · simp only [same, lt_irrefl, not_false_eq_true, true_and, false_or, and_or_left, and_assoc,
      or_assoc]
  · simp only [better, true_or]

end Order

/-! ### The ranking -/

section Ranking

variable {α β : Type} [Arithmetic α]

/-- The entries that score at least a threshold against a text, in the order of the ranking. -/
def ranking (index : ErrorIndex α) (text : String) (threshold : α) :
    List (String × ErrorRecord) :=
  (index.records.entries.filter fun entry =>
      Arithmetic.atMost threshold (scoreOf text entry)).mergeSort
    fun left right => rankedBefore (scored text left : ScoredError α) (scored text right)

variable [LinearOrder β] {isNumber : α → Prop} {place : α → β} {index : ErrorIndex α}
  {text : String} {threshold low high : α} {entry left right : String × ErrorRecord}

theorem rank_eq_map :
    index.rank text threshold = (index.ranking text threshold).map (scored text) := by
  have listed : index.records.values.map (fun record =>
      (⟨record, overlap (tokenize text) (tokenize record.text)⟩ : ScoredError α)) =
        index.records.entries.map (scored text) := by
    rw [OrderedMap.values, List.map_map]
    rfl
  rw [ranking, List.map_mergeSort (s := rankedBefore) fun _ _ _ _ => rfl, rank, listed,
    List.filter_map]
  rfl

theorem mem_ranking : entry ∈ index.ranking text threshold ↔
    entry ∈ index.records.entries ∧ Arithmetic.atMost threshold (scoreOf text entry) = true := by
  rw [ranking, List.mem_mergeSort, List.mem_filter]

theorem isNumber_of_mem (ordered : Arithmetic.Ordered isNumber place)
    (member : entry ∈ index.ranking text threshold) : isNumber (scoreOf text entry) :=
  isNumber_of_atMost ordered (mem_ranking.mp member).2

theorem pairwise_ranking (ordered : Arithmetic.Ordered isNumber place) :
    (index.ranking text threshold).Pairwise (RanksBefore α text) := by
  have sorted : index.ranking text threshold = (index.records.entries.filter fun entry =>
      Arithmetic.atMost threshold (scoreOf text entry)).mergeSort fun left right =>
        decide (standing place text left ≤ standing place text right) := by
    refine mergeSort_congr fun left isLeft right isRight => ?_
    rw [Bool.eq_iff_iff, decide_eq_true_iff]
    exact rankedBefore_iff ordered (isNumber_of_atMost ordered (List.mem_filter.mp isLeft).2)
      (isNumber_of_atMost ordered (List.mem_filter.mp isRight).2)
  have ascending : (index.records.entries.filter fun entry =>
      Arithmetic.atMost threshold (scoreOf text entry)).Pairwise
        fun left right => left.1 < right.1 :=
    (index.records.ascending.imp compare_lt_iff_lt.mp).filter _
  have stable := pairwise_mergeSort_key (standing place text) ascending
  rw [← sorted] at stable
  refine stable.imp_of_mem fun isLeft isRight inOrder => ?_
  rwa [ranksBefore_iff ordered (isNumber_of_mem ordered isLeft) (isNumber_of_mem ordered isRight),
    Prod.Lex.toLex_lt_toLex]

theorem RanksBefore.asymm (ordered : Arithmetic.Ordered isNumber place)
    (isLeft : isNumber (scoreOf text left)) (isRight : isNumber (scoreOf text right))
    (before : RanksBefore α text left right) : ¬ RanksBefore α text right left := by
  rw [ranksBefore_iff ordered isLeft isRight] at before
  rw [ranksBefore_iff ordered isRight isLeft]
  exact before.not_gt

theorem RanksBefore.place_le (ordered : Arithmetic.Ordered isNumber place)
    (isLeft : isNumber (scoreOf text left)) (isRight : isNumber (scoreOf text right))
    (before : RanksBefore α text left right) :
    place (scoreOf text right) ≤ place (scoreOf text left) := by
  rcases before with better | ⟨level, -⟩
  · rw [ordered.less isRight isLeft, decide_eq_true_iff] at better
    exact better.le
  · rw [ordered.less isLeft isRight, decide_eq_false_iff_not] at level
    exact not_lt.mp level

/-- Entries in the order of the ranking are settled by which they are. -/
theorem eq_of_ranked (ordered : Arithmetic.Ordered isNumber place)
    {entries others : List (String × ErrorRecord)}
    (numbers : ∀ entry ∈ entries, isNumber (scoreOf text entry))
    (ranked : entries.Pairwise (RanksBefore α text))
    (ranked' : others.Pairwise (RanksBefore α text)) (same : entries.Perm others) :
    entries = others := by
  refine List.Perm.eq_of_pairwise (fun left right isLeft isRight before behind => ?_) ranked ranked'
    same
  have isLeft' := numbers left isLeft
  have isRight' := numbers right (same.mem_iff.mpr isRight)
  exact absurd behind (before.asymm ordered isLeft' isRight')

/-- A higher threshold leaves the start of the ranking. -/
theorem prefix_ranking (ordered : Arithmetic.Ordered isNumber place)
    (raised : Arithmetic.atMost low high = true) :
    index.ranking text high <+: index.ranking text low := by
  have weaker (entry : String × ErrorRecord)
      (isHigh : Arithmetic.atMost high (scoreOf text entry) = true) :
      Arithmetic.atMost low (scoreOf text entry) = true := by
    rw [ordered.atMost] at raised isHigh ⊢
    exact ⟨raised.1, isHigh.2.1, raised.2.2.trans isHigh.2.2⟩
  have front : (index.ranking text low).Pairwise fun left right =>
      Arithmetic.atMost high (scoreOf text right) = true →
        Arithmetic.atMost high (scoreOf text left) = true := by
    refine (pairwise_ranking ordered).imp_of_mem fun isLeft isRight before isHigh => ?_
    have isLeft' := isNumber_of_mem ordered isLeft
    have least := before.place_le ordered isLeft' (isNumber_of_mem ordered isRight)
    rw [ordered.atMost] at isHigh ⊢
    exact ⟨isHigh.1, isLeft', isHigh.2.2.trans least⟩
  have same : (index.ranking text low).filter (fun entry =>
      Arithmetic.atMost high (scoreOf text entry)) = index.ranking text high := by
    refine eq_of_ranked ordered (fun entry member => isNumber_of_mem ordered
      (List.mem_filter.mp member).1) ((pairwise_ranking ordered).filter _)
      (pairwise_ranking ordered) ?_
    refine ((List.mergeSort_perm _ _).filter _).trans (.trans ?_ (List.mergeSort_perm _ _).symm)
    rw [List.filter_filter]
    refine .of_eq (List.filter_congr fun entry _ => ?_)
    rw [Bool.eq_iff_iff, Bool.and_eq_true]
    exact ⟨fun both => both.1, fun isHigh => ⟨isHigh, weaker entry isHigh⟩⟩
  rw [← same]
  exact filter_prefix front

end Ranking

/-! ### Searches -/

section Searches

variable {α β : Type} [Arithmetic α]

/-- The entries that a search is to return, whichever way it finds them: entries of the index that
score high enough, each once, in the order of the ranking and no more than were asked for; what
scores high enough as well is left out only when so many are returned, and ranks behind them all. -/
structure Finds (index : ErrorIndex α) (text : String) (top : Nat) (threshold : α)
    (found : List (String × ErrorRecord)) : Prop where
  stored : ∀ entry ∈ found, entry ∈ index.records.entries
  high : ∀ entry ∈ found, Arithmetic.atMost threshold (scoreOf text entry) = true
  distinct : (found.map (·.1)).Nodup
  ranked : found.Pairwise (RanksBefore α text)
  within : found.length ≤ top
  others : ∀ entry ∈ index.records.entries,
    Arithmetic.atMost threshold (scoreOf text entry) = true → entry ∉ found →
      found.length = top ∧ ∀ better ∈ found, RanksBefore α text better entry

/-- What is returned for a text: just what is to be found, and the start of it when the threshold
is raised or fewer are asked for. -/
structure Searches (index : ErrorIndex α) (text : String) : Prop where
  settled : ∀ top threshold, ∃ found,
    index.findSimilarAt text top threshold = found.map (scored text) ∧
      Finds index text top threshold found ∧
        ∀ other, Finds index text top threshold other → other = found
  raised : ∀ top low high, Arithmetic.atMost low high = true →
    index.findSimilarAt text top high <+: index.findSimilarAt text top low
  fewer : ∀ few many threshold, few ≤ many →
    index.findSimilarAt text few threshold <+: index.findSimilarAt text many threshold

variable [LinearOrder β] {isNumber : α → Prop} {place : α → β} {index : ErrorIndex α}
  {text : String} {top : Nat} {threshold : α} {found other : List (String × ErrorRecord)}

theorem findSimilarAt_eq_map : index.findSimilarAt text top threshold =
    ((index.ranking text threshold).take top).map (scored text) := by
  rw [findSimilarAt, rank_eq_map, List.map_take]

theorem finds_take (ordered : Arithmetic.Ordered isNumber place) :
    Finds index text top threshold ((index.ranking text threshold).take top) where
  stored entry member := (mem_ranking.mp (List.mem_of_mem_take member)).1
  high entry member := (mem_ranking.mp (List.mem_of_mem_take member)).2
  distinct := by
    have keys : ((index.ranking text threshold).map (·.1)).Perm
        ((index.records.entries.filter fun entry =>
          Arithmetic.atMost threshold (scoreOf text entry)).map (·.1)) :=
      (List.mergeSort_perm _ _).map _
    refine ((List.take_sublist _ _).map _).nodup (keys.nodup_iff.mpr ?_)
    exact (List.filter_sublist.map Prod.fst).nodup index.records.nodup_keys
  ranked := (pairwise_ranking ordered).sublist (List.take_sublist _ _)
  within := List.length_take_le _ _
  others entry stored high missing := by
    have listed : entry ∈ index.ranking text threshold := mem_ranking.mpr ⟨stored, high⟩
    have ranked : (index.ranking text threshold).Pairwise (RanksBefore α text) :=
      pairwise_ranking ordered
    rw [← List.take_append_drop top (index.ranking text threshold)] at listed ranked
    have behind := (List.mem_append.mp listed).resolve_left missing
    have more := List.length_pos_of_mem behind
    rw [List.length_drop] at more
    refine ⟨List.length_take_of_le (by omega), fun better isBetter => ?_⟩
    exact (List.pairwise_append.mp ranked).2.2 better isBetter entry behind

namespace Finds

theorem scores_number (ordered : Arithmetic.Ordered isNumber place)
    (finds : Finds index text top threshold found) {entry : String × ErrorRecord}
    (member : entry ∈ found) : isNumber (scoreOf text entry) :=
  isNumber_of_atMost ordered (finds.high entry member)

theorem nodup (finds : Finds index text top threshold found) : found.Nodup :=
  finds.distinct.of_map _

/-- What one list of what is to be found has, any other has. -/
theorem subset (ordered : Arithmetic.Ordered isNumber place)
    (finds : Finds index text top threshold found)
    (finds' : Finds index text top threshold other) : found ⊆ other := by
  intro entry isFound
  by_contra notOther
  obtain ⟨full, better⟩ := finds'.others entry (finds.stored entry isFound)
    (finds.high entry isFound) notOther
  -- As many are found in either, so an entry is found in the other only and ranks both ways.
  obtain ⟨missing, isOther, notFound⟩ : ∃ missing ∈ other, missing ∉ found := by
    by_contra none
    have all : entry :: other ⊆ found := by
      refine List.cons_subset.mpr ⟨isFound, fun missing isOther => ?_⟩
      by_contra notFound
      exact none ⟨missing, isOther, notFound⟩
    have longer := ((List.nodup_cons.mpr ⟨notOther, finds'.nodup⟩).subperm all).length_le
    have within := finds.within
    rw [List.length_cons] at longer
    omega
  have behind := (finds.others missing (finds'.stored missing isOther)
    (finds'.high missing isOther) notFound).2 entry isFound
  exact (better missing isOther).asymm ordered (finds'.scores_number ordered isOther)
    (finds.scores_number ordered isFound) behind

theorem unique (ordered : Arithmetic.Ordered isNumber place)
    (finds : Finds index text top threshold found)
    (finds' : Finds index text top threshold other) : found = other := by
  refine eq_of_ranked ordered (fun _ => finds.scores_number ordered) finds.ranked finds'.ranked ?_
  rw [List.perm_ext_iff_of_nodup finds.nodup finds'.nodup]
  exact fun entry => ⟨(finds.subset ordered finds' ·), (finds'.subset ordered finds ·)⟩

end Finds

/-- Where comparisons go by a linear order, a search is settled by what is to be found. -/
theorem searches (ordered : Arithmetic.Ordered isNumber place) (index : ErrorIndex α)
    (text : String) : Searches index text where
  settled top threshold :=
    ⟨_, findSimilarAt_eq_map, finds_take ordered, fun _ finds =>
      finds.unique ordered (finds_take ordered)⟩
  raised top low high raised := by
    rw [findSimilarAt_eq_map, findSimilarAt_eq_map]
    exact ((prefix_ranking ordered raised).take top).map _
  fewer few many threshold fewer := by
    rw [findSimilarAt_eq_map, findSimilarAt_eq_map]
    exact (List.take_prefix_take_left fewer).map _

end Searches

/-! ### Exact ratios -/

/-- With double-precision scores entries rank as they do with exact ratios, unless texts have
millions of different words. -/
theorem ranksBefore_double_iff {text : String} {left right : String × ErrorRecord}
    (fits : (tokenize text).size ≤ powerOfTwo 24)
    (fitsLeft : (tokenize left.2.text).size ≤ powerOfTwo 24)
    (fitsRight : (tokenize right.2.text).size ≤ powerOfTwo 24) :
    RanksBefore Float text left right ↔ RanksBefore ℚ text left right := by
  simp only [RanksBefore, scoreOf, less_overlap fits fitsLeft fitsRight,
    less_overlap fits fitsRight fitsLeft]

/-- The search for records like a text is settled by what it is to find, for exact ratios and for
double-precision numbers. An exact score is the share of the words of both texts that they have in
common, and double-precision scores rank records in the same order. -/
theorem similar_ranked :
    (∀ (index : ErrorIndex ℚ) (text : String), Searches index text) ∧
    (∀ (index : ErrorIndex Float) (text : String), Searches index text) ∧
    (∀ (text : String) (entry : String × ErrorRecord), (scoreOf text entry : ℚ) =
      if wordsOf (tokenize text) = ∅ ∧ wordsOf (tokenize entry.2.text) = ∅ then 1
      else ((wordsOf (tokenize text) ∩ wordsOf (tokenize entry.2.text)).card : ℚ) /
        (wordsOf (tokenize text) ∪ wordsOf (tokenize entry.2.text)).card) ∧
    ∀ (text : String) (left right : String × ErrorRecord),
      (tokenize text).size ≤ powerOfTwo 24 → (tokenize left.2.text).size ≤ powerOfTwo 24 →
        (tokenize right.2.text).size ≤ powerOfTwo 24 →
          (RanksBefore Float text left right ↔ RanksBefore ℚ text left right) :=
  ⟨searches Arithmetic.ordered_fractions, searches Decimal.ordered_doubles,
    fun _ _ => overlap_eq_ratio _ _, fun _ _ _ => ranksBefore_double_iff⟩

end ErrorIndex

end TaskLoop

namespace TaskLoop.Sample

open ErrorIndex Similarity

/-- A failure by hash, text, number of occurrences and note. -/
def failure (hash text : String) (occurrences : Nat) (note : Option String) : ErrorRecord where
  hash := hash
  text := text
  category := .unknown
  occurrences := occurrences
  resolved := note.isSome
  note := note
  firstSeen := ⟨1, 0⟩
  lastSeen := ⟨1, 0⟩

/-- Of two records that score the same the one that occurred more often is found when one is asked
for, and it is found first when a lower threshold and more are. -/
theorem often_found_first :
    let rare := ("a", failure "a" "Link error (main)" 1 none)
    let often := ("b", failure "b" "link error: main" 2 none)
    let index : ErrorIndex Float := ⟨.ofList [rare, often], defaultThreshold⟩
    (∃ entry ∈ index.findSimilarAt "main link error" 1 Arithmetic.one,
        entry.record = often.2) ∧
      index.findSimilarAt "main link error" 1 Arithmetic.one <+:
        index.findSimilarAt "main link error" 2 defaultThreshold := by
  intro rare often index
  obtain ⟨-, searches, -, ranks⟩ := similar_ranked
  have both : index.records.entries = [rare, often] := by decide +kernel
  have behind : ¬ RanksBefore Float "main link error" rare often := by
    rw [ranks _ _ _ (by decide +kernel) (by decide +kernel) (by decide +kernel)]
    decide +kernel
  constructor
  · obtain ⟨found, same, finds, -⟩ := (searches index "main link error").settled 1 Arithmetic.one
    rw [same]
    suffices isFound : often ∈ found from ⟨_, List.mem_map_of_mem isFound, rfl⟩
    by_contra missing
    obtain ⟨full, better⟩ := finds.others often (by rw [both]; decide) (by decide +kernel) missing
    obtain ⟨entry, rfl⟩ := List.length_eq_one_iff.mp full
    have stored := finds.stored entry List.mem_cons_self
    rw [both, List.mem_pair] at stored
    rcases stored with rfl | rfl
    · exact behind (better rare List.mem_cons_self)
    · exact missing List.mem_cons_self
  · have raised := (searches index "main link error").raised 1 defaultThreshold Arithmetic.one
      (by decide +kernel)
    exact raised.trans ((searches index "main link error").fewer 1 2 defaultThreshold (by decide))

end TaskLoop.Sample
