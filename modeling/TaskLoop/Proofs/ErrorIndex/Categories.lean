import TaskLoop.Proofs.Analytics.Summary
import TaskLoop.Proofs.Category
import TaskLoop.Proofs.ErrorIndex.Statistics

/-!
A record is in the category of the first failure with its hash, and so the occurrences by category
count each failure where the first of its hash belongs. They count the failures where these belong
themselves, in whatever order they come, just when failures of one hash are in one category.
-/

set_option autoImplicit false

namespace TaskLoop.ErrorIndex

open Analytics Category Similarity Text

variable {α : Type} {index other : ErrorIndex α} {seen : List String}

/-! ### The first failure of a hash -/

/-- The first of some failures that has a hash. -/
def firstOf (messages : List String) (hash : String) : Option String :=
  messages.find? fun message => errorHash message == hash

/-- The category of the first failure that has the hash of a given one. -/
def firstCategory (messages : List String) (message : String) : Category :=
  ((firstOf messages (errorHash message)).map classify).getD unknown

theorem firstOf_snoc (messages : List String) (message hash : String) :
    firstOf (messages ++ [message]) hash = (firstOf messages hash).or
      (if errorHash message = hash then some message else none) := by
  rw [firstOf, List.find?_append, firstOf, List.find?_singleton]
  simp only [beq_iff_eq]

theorem firstOf_isSome {messages : List String} {message : String} (member : message ∈ messages) :
    (firstOf messages (errorHash message)).isSome = true := by
  rw [firstOf, List.find?_isSome]
  exact ⟨message, member, beq_self_eq_true _⟩

/-- A failure that comes later is not the first of a hash that has come. -/
theorem firstCategory_snoc {messages : List String} {message : String} (later : String)
    (member : message ∈ messages) :
    firstCategory (messages ++ [later]) message = firstCategory messages message := by
  obtain ⟨first, found⟩ := Option.isSome_iff_exists.mp (firstOf_isSome member)
  rw [firstCategory, firstOf_snoc, found, Option.some_or, firstCategory, found]

/-- The first failure of a hash is one of the failures and has the hash. -/
theorem exists_firstCategory {messages : List String} {message : String}
    (member : message ∈ messages) : ∃ first ∈ messages, errorHash first = errorHash message ∧
      firstCategory messages message = classify first := by
  obtain ⟨first, found⟩ := Option.isSome_iff_exists.mp (firstOf_isSome member)
  refine ⟨first, List.mem_of_find?_eq_some found, beq_iff_eq.mp (List.find?_some found :), ?_⟩
  rw [firstCategory, found]
  rfl

/-! ### What recording leaves -/

/-- An index has sorted some failures: each record is in the category of the first failure of its
hash, and counts by category are over all of them. -/
structure Sorts (index : ErrorIndex α) (messages : List String) : Prop where
  records : ∀ hash, (index.records.find? hash).map (·.category) =
    (firstOf messages hash).map classify
  counts : index.statistics.byCategory = tally (messages.map (firstCategory messages))

theorem sorts_empty (threshold : α) : Sorts (⟨.empty, threshold⟩ : ErrorIndex α) [] :=
  ⟨fun _ => rfl, rfl⟩

namespace Sorts

theorem recordError (sorts : index.Sorts seen) (text : String) (now : Timestamp) :
    (index.recordError text now).2.Sorts (seen ++ [text]) := by
  have records : ∀ hash, ((index.recordError text now).2.records.find? hash).map (·.category) =
      (firstOf (seen ++ [text]) hash).map classify := by
    intro hash
    rw [find?_recordError, firstOf_snoc]
    by_cases same : hash = errorHash text
    · subst same
      have before := sorts.records (errorHash text)
      rw [if_pos rfl, if_pos rfl, ErrorIndex.recordError]
      cases found : index.records.find? (errorHash text) with
      | none =>
        rw [found] at before
        rw [Option.map_eq_none_iff.mp before.symm]
        rfl
      | some known =>
        rw [found] at before
        obtain ⟨first, isFirst, category⟩ := Option.map_eq_some_iff.mp before.symm
        rw [isFirst, Option.some_or, Option.map_some, Option.map_some, category]
    · rw [if_neg same, if_neg (Ne.symm same), Option.or_none]
      exact sorts.records hash
  refine ⟨records, ?_⟩
  have own : (index.recordError text now).1.category = firstCategory (seen ++ [text]) text := by
    have filed := records (errorHash text)
    rw [find?_recordError, if_pos rfl, Option.map_some] at filed
    rw [firstCategory, ← filed, Option.getD_some]
  have others : seen.map (firstCategory (seen ++ [text])) = seen.map (firstCategory seen) :=
    List.map_congr_left fun message member => firstCategory_snoc text member
  rw [byCategory_recordError, own, sorts.counts, addCount_eq_raise, List.map_append,
    List.map_singleton, tally_snoc, others]

theorem markResolved {record : ErrorRecord} {hash note : String} (sorts : index.Sorts seen)
    (marked : index.markResolved hash note = .ok (record, other)) : other.Sorts seen := by
  refine ⟨fun asked => ?_, (byCategory_markResolved marked).trans sorts.counts⟩
  obtain ⟨known, found, -, -, rfl⟩ := markResolved_eq_ok marked
  by_cases same : asked = hash
  · subst same
    rw [← sorts.records asked, found, OrderedMap.find?_insert_self]
    rfl
  · rw [OrderedMap.find?_insert_of_ne _ _ same]
    exact sorts.records asked

theorem answer (sorts : index.Sorts seen) (call : Call) :
    (index.answer call).2.Sorts (seen ++ call.message?.toList) := by
  cases call with
  | record text now => exact sorts.recordError text now
  | resolve hash note =>
    rw [ErrorIndex.answer, Call.message?, Option.toList_none, List.append_nil]
    cases marked : index.markResolved hash note with
    | ok both => exact sorts.markResolved marked
    | error failure => exact sorts

theorem run (sorts : index.Sorts seen) (calls : List Call) :
    (index.run calls).2.Sorts (seen ++ messages calls) := by
  induction calls generalizing index seen with
  | nil =>
    rw [messages, List.filterMap_nil, List.append_nil]
    exact sorts
  | cons call calls ih =>
    have next := ih (sorts.answer call)
    rwa [List.append_assoc, ← messages_cons] at next

end Sorts

/-! ### Failures of one hash -/

section Orders

variable {texts : List String}

/-- Where the failures of each hash are in one category, the first stands for them all. -/
theorem tally_firstCategory (uniform : ∀ left ∈ texts, ∀ right ∈ texts,
      errorHash left = errorHash right → classify left = classify right) :
    tally (texts.map (firstCategory texts)) = tally (texts.map classify) := by
  refine congrArg tally (List.map_congr_left fun message member => ?_)
  obtain ⟨first, isText, same, category⟩ := exists_firstCategory member
  rw [category, uniform first isText message member same]

/-- Of two failures of one hash in different categories the one that comes first draws the other
into its own category. -/
theorem count_firstCategory_lt {left right : String} (others : List String)
    (same : errorHash left = errorHash right) (apart : classify left ≠ classify right) :
    ((right :: left :: others).map (firstCategory (right :: left :: others))).count
        (classify left) <
      ((left :: right :: others).map (firstCategory (left :: right :: others))).count
        (classify left) := by
  -- A failure of this hash goes by the first of the list, and any other by what comes behind.
  have drawn {first second : String} (equal : errorHash first = errorHash second)
      (message : String) : firstCategory (first :: second :: others) message =
        if errorHash first = errorHash message then classify first
        else firstCategory others message := by
    rw [firstCategory, firstOf, List.find?_cons, List.find?_cons, ← equal]
    by_cases own : errorHash first = errorHash message
    · rw [if_pos own, beq_iff_eq.mpr own]
      rfl
    · rw [if_neg own, beq_eq_false_iff_ne.mpr own]
      rfl
  have fewer : (others.map (firstCategory (right :: left :: others))).count (classify left) ≤
      (others.map (firstCategory (left :: right :: others))).count (classify left) := by
    rw [List.count_eq_countP, List.countP_map, List.count_eq_countP, List.countP_map]
    refine List.countP_mono_left fun message _ counted => ?_
    simp only [Function.comp_apply, beq_iff_eq, drawn same, drawn same.symm] at counted ⊢
    rw [same]
    split at counted
    · exact absurd counted.symm apart
    · rename_i foreign
      rw [if_neg foreign]
      exact counted
  have none : ∀ message, errorHash message = errorHash right →
      (firstCategory (right :: left :: others) message == classify left) = false := by
    intro message own
    rw [drawn same.symm, if_pos own.symm]
    exact beq_eq_false_iff_ne.mpr (Ne.symm apart)
  have each : ∀ message, errorHash message = errorHash left →
      (firstCategory (left :: right :: others) message == classify left) = true := by
    intro message own
    rw [drawn same, if_pos own.symm]
    exact beq_self_eq_true _
  simp only [List.map_cons, List.count_cons, none left same, none right rfl, each left rfl,
    each right same.symm, ↓reduceIte, Bool.false_eq_true]
  omega

/-- In whatever order some failures come, the first of each hash stands for the others, just when
failures of one hash are in one category. -/
theorem tally_orders_iff : (∀ order : List String, order.Perm texts →
      tally (order.map (firstCategory order)) = tally (texts.map classify)) ↔
    ∀ left ∈ texts, ∀ right ∈ texts, errorHash left = errorHash right →
      classify left = classify right := by
  constructor
  · intro agrees left isLeft right isRight same
    by_contra apart
    have differ : right ≠ left := by
      rintro rfl
      exact apart rfl
    have isOther : right ∈ texts.erase left := (List.mem_erase_of_ne differ).mpr isRight
    have one : (left :: right :: (texts.erase left).erase right).Perm texts :=
      ((List.perm_cons_erase isOther).symm.cons left).trans (List.perm_cons_erase isLeft).symm
    have two := (List.Perm.swap left right ((texts.erase left).erase right)).trans one
    have fewer := count_firstCategory_lt ((texts.erase left).erase right) same apart
    rw [← find?_tally, ← find?_tally, agrees _ one, agrees _ two] at fewer
    exact Nat.lt_irrefl _ fewer
  · intro uniform order listed
    rw [tally_firstCategory fun left isLeft right isRight =>
      uniform left (listed.subset isLeft) right (listed.subset isRight)]
    exact tally_perm (listed.map classify)

end Orders

/-! ### The counts of an index -/

theorem byCategory_run [Arithmetic α] (threshold : α) (calls : List Call) :
    (run (empty threshold) calls).2.statistics.byCategory =
      tally ((messages calls).map (firstCategory (messages calls))) :=
  ((sorts_empty threshold).run calls).counts

theorem messages_record (texts : List String) (now : Timestamp) :
    messages (texts.map fun text => .record text now) = texts := by
  rw [messages, List.filterMap_map]
  exact List.filterMap_some

/-- Texts of one settled form are in one category when their words have single blanks between
them: other blanks can hide a keyword of the settled form's category, and then the text is in a
later one. An index counts each failure where the first one of its hash belongs, and so it counts
failures where they belong, in whatever order they came, just when those of one hash are in one
category. -/
theorem categories_of_failures [Arithmetic α] (threshold : α) :
    (∀ left right : String, normalize left.toList = normalize right.toList →
      EvenlySpaced left.toList → EvenlySpaced right.toList → classify left = classify right) ∧
    (∀ text, (ofSettled text).index ≤ (classify text).index ∧
      (classify text = ofSettled text ↔
        ofSettled text = unknown ∨ (ofSettled text).Selects (lower text.toList))) ∧
    (∀ calls, (run (empty threshold) calls).2.statistics.byCategory =
      tally ((messages calls).map (firstCategory (messages calls)))) ∧
    ∀ texts, (∀ calls, (messages calls).Perm texts →
        (run (empty threshold) calls).2.statistics.byCategory = tally (texts.map classify)) ↔
      ∀ left ∈ texts, ∀ right ∈ texts, errorHash left = errorHash right →
        classify left = classify right := by
  refine ⟨fun left right same even even' => classify_eq_of_evenlySpaced even even' same,
    fun text => ⟨index_ofSettled_le text, classify_eq_ofSettled_iff text⟩,
    byCategory_run threshold, fun texts => ?_⟩
  rw [← tally_orders_iff]
  constructor
  · intro agrees order listed
    have recorded := agrees (order.map fun text => .record text ⟨0, 0⟩)
    rw [byCategory_run, messages_record] at recorded
    exact recorded listed
  · intro agrees calls listed
    rw [byCategory_run]
    exact agrees _ listed

end TaskLoop.ErrorIndex

namespace TaskLoop.Sample

open Analytics ErrorIndex Category Similarity Text

/-- A second blank hides the keyword: two failures share a record, but are in two categories, and
the one recorded first decides where both are counted. -/
theorem spread_keyword_hidden :
    let spread := "syntax  error"
    let even := "syntax error"
    normalize spread.toList = normalize even.toList ∧ classify spread = unknown ∧
      classify even = syntactic ∧
      ((run (ErrorIndex.empty (defaultThreshold : Float)) [.record spread ⟨1, 0⟩,
        .record even ⟨2, 0⟩]).2.statistics.byCategory.find? syntactic).getD 0 = 0 := by
  intro spread even
  have same : normalize spread.toList = normalize even.toList := by decide +kernel
  have hidden : classify spread = unknown := by decide +kernel
  refine ⟨same, hidden, by decide +kernel, ?_⟩
  have first : firstCategory [spread, even] even = unknown := by
    rw [firstCategory, firstOf, List.find?_cons, errorHash_of_normalize same, beq_self_eq_true]
    exact hidden
  have own : firstCategory [spread, even] spread = unknown := by
    rw [firstCategory, firstOf, List.find?_cons, beq_self_eq_true]
    exact hidden
  have told : messages [.record spread ⟨1, 0⟩, .record even ⟨2, 0⟩] = [spread, even] := rfl
  rw [byCategory_run, told, find?_tally, List.map_cons, List.map_cons, own, first]
  decide

/-- Differently capitalized and indented, two failures of one settled form are in one category. -/
theorem indented_same_category : classify "  Parse Error\n" = classify "parse error" :=
  (categories_of_failures (defaultThreshold : Float)).1 _ _ (by decide +kernel) (by decide +kernel)
    (by decide +kernel)

end TaskLoop.Sample
