import TaskLoop.Similarity
import TaskLoop.Proofs.Decimal.Quotient
import TaskLoop.Proofs.Decimal.Rounding
import TaskLoop.Proofs.OrderedMap
import TaskLoop.Proofs.Text.Letters
import TaskLoop.Proofs.Text.Spacing

/-!
The settled form of a text: the words alone count for it, so that it is not changed by the blanks
around and between them. The punctuation around a word can be cut off before or after the word is
put in lower case, unless a capital I with a dot stands last: in lower case its dot is punctuation.

Scores are ratios: the words two texts share over the words they have together. Double-precision
scores are rounded, but not so far that they would be ordered otherwise, unless texts have millions
of different words.
-/

set_option autoImplicit false

namespace TaskLoop.Similarity

open Text

/-! ### The settled form -/

theorem normalize_trim (text : List Char) : normalize (trim text) = normalize text := by
  rw [normalize, words_trim, normalize]

theorem errorHash_trim (text : String) :
    errorHash (String.ofList (trim text.toList)) = errorHash text := by
  rw [errorHash, String.toList_ofList, normalize_trim, errorHash]

theorem normalize_eq (text : List Char) : normalize text = collapse (lower text) := by
  rw [normalize, collapse, words_lower]

theorem normalize_eq_lower (text : List Char) : normalize text = lower (collapse text) := by
  rw [normalize_eq, lower_collapse]

/-- A settled form is in lower case. -/
theorem lower_normalize (text : List Char) : lower (normalize text) = normalize text := by
  rw [normalize_eq_lower, lower_lower]

theorem errorHash_of_normalize {left right : String}
    (same : normalize left.toList = normalize right.toList) : errorHash left = errorHash right := by
  rw [errorHash, errorHash, same]

/-! ### Characters of words -/

variable {c d : Char} {word front back before rest : List Char}

theorem not_isAlphanumeric_of_not_token (other : isTokenChar c = false) :
    isAlphanumeric c = false := by
  rw [isTokenChar, Bool.or_eq_false_iff] at other
  exact other.1

/-- Punctuation has no case. -/
theorem isCased_of_not_token (other : isTokenChar c = false) : isCased c = false := by
  rw [Bool.eq_false_iff]
  intro cased
  rw [isTokenChar, isAlphanumeric_of_isCased cased] at other
  cases other

/-- A character of a word becomes such characters, unless it is the capital I with a dot. -/
theorem isTokenChar_of_mem_lowerAt (token : isTokenChar c = true) (undotted : c ≠ 'İ')
    (member : d ∈ lowerAt before c rest) : isTokenChar d = true := by
  rw [lowerAt] at member
  split at member
  · have small : isTokenChar 'ς' = true ∧ isTokenChar 'σ' = true := by decide +kernel
    rw [List.mem_singleton.mp member]
    split
    · exact small.1
    · exact small.2
  · rw [isTokenChar, Bool.or_eq_true, beq_iff_eq] at token
    rcases token with letter | rfl
    · rw [isTokenChar, isAlphanumeric_of_mem_lowerChar letter undotted member, Bool.true_or]
    · have same : lowerChar '_' = ['_'] := by decide
      rw [same] at member
      rw [List.mem_singleton.mp member]
      decide

theorem lowerAt_dotted (before rest : List Char) : lowerAt before 'İ' rest = ['i', '\u0307'] := by
  have apart : ('İ' == 'Σ') = false := by decide
  rw [lowerAt, apart]
  exact lowerChar_dotted.1

theorem isTokenChar_dot : isTokenChar '\u0307' = false := by
  rw [isTokenChar, lowerChar_dotted.2.2]
  decide

/-! ### Words between punctuation -/

theorem casedNext_of_uncased (uncased : ∀ c ∈ rest, isCased c = false) :
    casedNext rest = false := by
  rw [casedNext]
  split
  · rfl
  · rename_i c others kept
    exact uncased c ((List.dropWhile_suffix _).subset (kept ▸ List.mem_cons_self))

theorem lowerAfter_punctuation (others : ∀ c ∈ front, isTokenChar c = false) (before : List Char)
    (rest : List Char) : lowerAfter before (front ++ rest) =
      front ++ lowerAfter (front.reverse ++ before) rest := by
  induction front generalizing before with
  | nil => rfl
  | cons c front ih =>
    obtain ⟨first, behind⟩ := List.forall_mem_cons.mp others
    obtain ⟨same, notSigma⟩ := lowerChar_of_not_alphanumeric (not_isAlphanumeric_of_not_token first)
    have one : lowerAt before c (front ++ rest) = [c] := by
      rw [lowerAt, beq_eq_false_iff_ne.mpr notSigma]
      exact same
    rw [List.cons_append, lowerAfter_cons, one, ih behind, List.reverse_cons, List.append_assoc]
    rfl

/-- Punctuation around a word does not count for its lower case. -/
theorem lower_between (before : ∀ c ∈ front, isTokenChar c = false)
    (behind : ∀ c ∈ back, isTokenChar c = false) (word : List Char) :
    lower (front ++ word ++ back) = front ++ lower word ++ back := by
  have ahead : casedNext front.reverse = false := casedNext_of_uncased fun c member =>
    isCased_of_not_token (before c (List.mem_reverse.mp member))
  have after : casedNext back = false :=
    casedNext_of_uncased fun c member => isCased_of_not_token (behind c member)
  have last (before : List Char) : lowerAfter before back = back := by
    have whole := lowerAfter_punctuation behind before []
    rw [List.append_nil] at whole
    exact whole.trans (List.append_nil back)
  have inner : lowerAfter front.reverse word = lower word := lowerAfter_outer [] word ahead
  rw [lower, List.append_assoc, lowerAfter_punctuation before, List.append_nil,
    lowerAfter_append _ _ after, last, inner, List.append_assoc]

/-- A word without the punctuation around it. -/
def bare (word : List Char) : List Char := trimBy (fun c => !isTokenChar c) word

/-- Without the punctuation around it a word ends in a capital I with a dot. -/
def EndsDotted (word : List Char) : Prop := (bare word).getLast? = some 'İ'

instance : Decidable (EndsDotted word) := inferInstanceAs (Decidable (_ = _))

theorem exists_bare (word : List Char) : ∃ front back, word = front ++ bare word ++ back ∧
    (∀ c ∈ front, isTokenChar c = false) ∧ ∀ c ∈ back, isTokenChar c = false := by
  obtain ⟨front, back, whole, before, behind⟩ := exists_trimBy (fun c => !isTokenChar c) word
  simp only [Bool.not_eq_true'] at before behind
  exact ⟨front, back, whole, before, behind⟩

theorem isTokenChar_of_head?_bare (first : c ∈ (bare word).head?) : isTokenChar c = true := by
  simpa using head?_trimBy first

theorem isTokenChar_of_getLast?_bare (last : c ∈ (bare word).getLast?) :
    isTokenChar c = true := by
  simpa using getLast?_trimBy last

/-- The last character of a text is put in lower case behind the others. -/
theorem exists_lowerAfter_concat (before front : List Char) (c : Char) : ∃ start,
    lowerAfter before (front ++ [c]) = start ++ lowerAt (front.reverse ++ before) c [] := by
  induction front generalizing before with
  | nil => exact ⟨[], List.append_nil _⟩
  | cons d front ih =>
    obtain ⟨start, whole⟩ := ih (d :: before)
    refine ⟨lowerAt before d (front ++ [c]) ++ start, ?_⟩
    rw [List.cons_append, lowerAfter_cons, whole, List.reverse_cons, List.append_assoc,
      List.append_assoc]
    rfl

theorem isTokenChar_of_head?_lower_bare (first : c ∈ (lower (bare word)).head?) :
    isTokenChar c = true := by
  cases split : bare word with
  | nil =>
    rw [split] at first
    cases first
  | cons d rest =>
    have isFirst : d ∈ (bare word).head? := by
      rw [split]
      rfl
    have token := isTokenChar_of_head?_bare isFirst
    rw [split, lower, lowerAfter_cons, List.head?_append_of_ne_nil _ (lowerAt_ne_nil _ _ _)]
      at first
    by_cases dotted : d = 'İ'
    · rw [dotted, lowerAt_dotted] at first
      cases first
      decide
    · exact isTokenChar_of_mem_lowerAt token dotted (List.mem_of_head? first)

theorem isTokenChar_of_getLast?_lower_bare (undotted : ¬ EndsDotted word)
    (last : c ∈ (lower (bare word)).getLast?) : isTokenChar c = true := by
  rcases List.eq_nil_or_concat (bare word) with split | ⟨front, d, split⟩
  · rw [split] at last
    cases last
  · rw [List.concat_eq_append] at split
    have isLast : d ∈ (bare word).getLast? := by
      rw [split, List.getLast?_concat]
      rfl
    obtain ⟨start, whole⟩ := exists_lowerAfter_concat [] front d
    rw [split, lower, whole, List.getLast?_append_of_ne_nil _ (lowerAt_ne_nil _ _ _)] at last
    refine isTokenChar_of_mem_lowerAt (isTokenChar_of_getLast?_bare isLast) ?_
      (List.mem_of_getLast? last)
    rintro rfl
    exact undotted isLast

/-- The dot of a word's last letter comes last in lower case. -/
theorem getLast?_lower_bare_of_dotted (dotted : EndsDotted word) :
    (lower (bare word)).getLast? = some '\u0307' := by
  rcases List.eq_nil_or_concat (bare word) with split | ⟨front, d, split⟩
  · rw [EndsDotted, split] at dotted
    cases dotted
  · rw [List.concat_eq_append] at split
    rw [EndsDotted, split, List.getLast?_concat] at dotted
    cases dotted
    obtain ⟨start, whole⟩ := exists_lowerAfter_concat [] front 'İ'
    rw [split, lower, whole, lowerAt_dotted]
    exact List.getLast?_append_cons _ _ _

/-- Lower case and the cut around a word change places. -/
theorem bare_lower (undotted : ¬ EndsDotted word) : bare (lower word) = lower (bare word) := by
  obtain ⟨front, back, whole, before, behind⟩ := exists_bare word
  have cut : lower word = front ++ lower (bare word) ++ back :=
    (congrArg lower whole).trans (lower_between before behind _)
  rw [bare, cut]
  refine trimBy_between ?_ ?_ ?_ ?_
  · intro c member
    rw [before c member]
    rfl
  · intro c member
    rw [behind c member]
    rfl
  · intro c first
    rw [isTokenChar_of_head?_lower_bare first]
    rfl
  · intro c last
    rw [isTokenChar_of_getLast?_lower_bare undotted last]
    rfl

theorem lower_bare_lower (word : List Char) : lower (bare (lower word)) = bare (lower word) :=
  lowerAfter_of_settled fun _ member => settled_lowerAfter (mem_of_mem_trimBy member)

/-! ### Token sets -/

/-- The tokens of some words. -/
def tokens (words : List (List Char)) : TokenSet :=
  OrderedMap.ofList (((words.map fun word => lower (bare word)).filter fun word =>
    !word.isEmpty).map fun word => (String.ofList word, ()))

theorem tokenize_eq (text : String) : tokenize text = tokens (words text.toList) := rfl

theorem mem_tokens {parts : List (List Char)} {token : List Char} :
    String.ofList token ∈ (tokens parts).keys ↔
      token ≠ [] ∧ ∃ word ∈ parts, lower (bare word) = token := by
  rw [tokens, OrderedMap.mem_keys_ofList, List.map_map, List.mem_map]
  constructor
  · rintro ⟨other, member, same⟩
    obtain rfl := String.ofList_injective same
    obtain ⟨isToken, some⟩ := List.mem_filter.mp member
    exact ⟨by simpa using some, List.mem_map.mp isToken⟩
  · rintro ⟨some, isToken⟩
    exact ⟨token, List.mem_filter.mpr ⟨List.mem_map.mpr isToken, by simpa using some⟩, rfl⟩

theorem words_normalize (text : List Char) : words (normalize text) = (words text).map lower := by
  rw [normalize, words_joinWith]
  intro part member
  obtain ⟨word, isWord, rfl⟩ := List.mem_map.mp member
  exact (isWord_of_mem_words isWord).lower

/-- A text has the tokens of its settled form unless one of its words ends dotted. -/
theorem tokenize_normalize_iff (text : String) :
    tokenize (String.ofList (normalize text.toList)) = tokenize text ↔
      ∀ word ∈ words text.toList, ¬ EndsDotted word := by
  rw [tokenize_eq, tokenize_eq, String.toList_ofList, words_normalize]
  constructor
  · intro same word member dotted
    have last := getLast?_lower_bare_of_dotted dotted
    have isToken : String.ofList (lower (bare word)) ∈ (tokens (words text.toList)).keys := by
      refine mem_tokens.mpr ⟨?_, word, member, rfl⟩
      intro empty
      rw [empty] at last
      cases last
    rw [← same] at isToken
    obtain ⟨-, part, isPart, equal⟩ := mem_tokens.mp isToken
    obtain ⟨other, -, rfl⟩ := List.mem_map.mp isPart
    rw [← equal, lower_bare_lower] at last
    have token := isTokenChar_of_getLast?_bare last
    rw [isTokenChar_dot] at token
    cases token
  · intro undotted
    rw [tokens, tokens, List.map_map]
    refine congrArg (fun parts => OrderedMap.ofList (List.map (fun word => (String.ofList word, ()))
      (List.filter (fun word => !word.isEmpty) parts))) (List.map_congr_left fun word member => ?_)
    rw [Function.comp_apply, lower_bare_lower, bare_lower (undotted word member)]

/-- Texts of one settled form have the same tokens when none of their words ends dotted. -/
theorem tokenize_eq_of_normalize {left right : String}
    (same : normalize left.toList = normalize right.toList)
    (undotted : ∀ word ∈ words left.toList, ¬ EndsDotted word)
    (undotted' : ∀ word ∈ words right.toList, ¬ EndsDotted word) :
    tokenize left = tokenize right := by
  rw [← (tokenize_normalize_iff left).mpr undotted, ← (tokenize_normalize_iff right).mpr undotted',
    same]

theorem size_tokenize_le (text : String) : (tokenize text).size ≤ text.toList.length := by
  refine (OrderedMap.size_ofList_le _).trans ?_
  rw [List.length_map]
  refine (List.length_filter_le _ _).trans ?_
  rw [List.length_map]
  exact length_words_le text.toList

theorem tokenize_trim (text : String) :
    tokenize (String.ofList (trim text.toList)) = tokenize text := by
  rw [tokenize_eq, String.toList_ofList, words_trim, tokenize_eq]

/-! ### Scores -/

theorem sharedCount_self (tokens : TokenSet) : sharedCount tokens tokens = tokens.size := by
  have all : tokens.keys.filter tokens.contains = tokens.keys := by
    refine List.filter_eq_self.mpr fun key member => ?_
    obtain ⟨value, found⟩ := OrderedMap.mem_keys_iff.mp member
    rw [OrderedMap.contains, found]
    rfl
  rw [sharedCount, all, OrderedMap.keys, List.length_map, OrderedMap.size]

/-- A set of tokens has all tokens in common with itself. -/
theorem overlap_self {tokens : TokenSet} (fits : tokens.size ≤ powerOfTwo 64) :
    overlap tokens tokens = (Arithmetic.one : Float) := by
  have joint : jointCount tokens tokens = tokens.size := by
    rw [jointCount, sharedCount_self, Nat.add_sub_cancel]
  rw [overlap, sharedCount_self, joint]
  split
  · rfl
  · rename_i some
    rw [Bool.and_self, beq_iff_eq] at some
    exact Decimal.ofNat_div_self (Nat.pos_of_ne_zero some) fits

/-! ### Scores as ratios -/

section Ratios

variable {left right : TokenSet}

/-- The words of a set of tokens. -/
def wordsOf (tokens : TokenSet) : Finset String := tokens.keys.toFinset

theorem card_wordsOf (tokens : TokenSet) : (wordsOf tokens).card = tokens.size := by
  rw [wordsOf, List.toFinset_card_of_nodup tokens.nodup_keys, OrderedMap.keys, List.length_map,
    OrderedMap.size]

theorem sharedCount_eq_card (left right : TokenSet) :
    sharedCount left right = (wordsOf left ∩ wordsOf right).card := by
  have shared : wordsOf left ∩ wordsOf right = (left.keys.filter right.contains).toFinset := by
    ext word
    rw [Finset.mem_inter, wordsOf, wordsOf, List.mem_toFinset, List.mem_toFinset, List.mem_toFinset,
      List.mem_filter, OrderedMap.contains, Option.isSome_iff_exists,
      ← OrderedMap.mem_keys_iff]
  rw [shared, List.toFinset_card_of_nodup (left.nodup_keys.filter _), sharedCount]

theorem jointCount_eq_card (left right : TokenSet) :
    jointCount left right = (wordsOf left ∪ wordsOf right).card := by
  rw [Finset.card_union, card_wordsOf, card_wordsOf, ← sharedCount_eq_card, jointCount]

/-- The exact score of two sets of tokens. -/
theorem overlap_eq_ratio (left right : TokenSet) : (overlap left right : ℚ) =
    if wordsOf left = ∅ ∧ wordsOf right = ∅ then 1
    else ((wordsOf left ∩ wordsOf right).card : ℚ) / (wordsOf left ∪ wordsOf right).card := by
  have both : (left.size == 0 && right.size == 0) = true ↔
      wordsOf left = ∅ ∧ wordsOf right = ∅ := by
    rw [Bool.and_eq_true, beq_iff_eq, beq_iff_eq, ← card_wordsOf, ← card_wordsOf,
      Finset.card_eq_zero, Finset.card_eq_zero]
  rw [overlap, sharedCount_eq_card, jointCount_eq_card]
  simp only [both]
  split
  · exact Nat.cast_one
  · rfl

/-- A score is a quotient of counts, whatever it is computed in. -/
theorem exists_quotient (fits : left.size ≤ powerOfTwo 24) (fits' : right.size ≤ powerOfTwo 24) :
    ∃ part whole : Nat, 0 < whole ∧ part ≤ whole ∧ whole ≤ 2 ^ 25 ∧
      (overlap left right : ℚ) = part / whole ∧
      (overlap left right : Float) = Arithmetic.ofNat part / Arithmetic.ofNat whole := by
  by_cases both : (left.size == 0 && right.size == 0) = true
  · refine ⟨1, 1, Nat.one_pos, le_rfl, by decide, ?_, ?_⟩
    · rw [overlap, if_pos both, Nat.cast_one, div_one]
      rfl
    · rw [overlap, if_pos both, Decimal.ofNat_div_self Nat.one_pos (by decide), Arithmetic.one]
  · have least : left.size ≤ jointCount left right ∧ right.size ≤ jointCount left right := by
      rw [jointCount_eq_card, ← card_wordsOf, ← card_wordsOf]
      exact ⟨Finset.card_le_card Finset.subset_union_left,
        Finset.card_le_card Finset.subset_union_right⟩
    have some : 0 < jointCount left right := by
      refine Nat.pos_of_ne_zero fun none => both ?_
      rw [Bool.and_eq_true, beq_iff_eq, beq_iff_eq]
      omega
    refine ⟨sharedCount left right, jointCount left right, some, ?_, ?_, ?_, ?_⟩
    · rw [sharedCount_eq_card, jointCount_eq_card]
      exact Finset.card_le_card (Finset.inter_subset_left.trans Finset.subset_union_left)
    · simp only [powerOfTwo, Nat.pow_eq] at fits fits'
      rw [jointCount]
      omega
    · rw [overlap, if_neg both]
      rfl
    · rw [overlap, if_neg both]

/-- Scores of texts without millions of different words are ordered as the exact ratios are. -/
theorem less_overlap {tokens : TokenSet} (fits : tokens.size ≤ powerOfTwo 24)
    (fitsLeft : left.size ≤ powerOfTwo 24) (fitsRight : right.size ≤ powerOfTwo 24) :
    Arithmetic.less (overlap tokens left : Float) (overlap tokens right) =
      Arithmetic.less (overlap tokens left : ℚ) (overlap tokens right) := by
  obtain ⟨part, whole, some, share, few, exact, rounded⟩ := exists_quotient fits fitsLeft
  obtain ⟨part', whole', some', share', few', exact', rounded'⟩ := exists_quotient fits fitsRight
  rw [exact, exact', rounded, rounded', Decimal.less_quotient some some' share share' few few']
  rfl

end Ratios

end TaskLoop.Similarity
