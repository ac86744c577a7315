import TaskLoop.Proofs.Text.Case

/-!
Letters in lower case are letters, with one exception: the capital I with a dot becomes a small
letter and a combining dot, which is no letter. Characters that are neither letters nor numbers have
no case and stay as they are.
-/

set_option autoImplicit false

namespace TaskLoop.Text

open Case

variable {c d : Char}

/-! ### Ranges of letters -/

/-- A range of code points lies in another. -/
def inside (range inner : Nat × Nat) : Bool := Nat.ble range.1 inner.1 && Nat.ble inner.2 range.2

/-- Each of some ascending ranges lies in one of others: those that end before it are passed. -/
def nested : List (Nat × Nat) → List (Nat × Nat) → Bool
  | [], _ => true
  | inner :: inners, ranges =>
    match ranges.dropWhile fun range => Nat.blt range.2 inner.1 with
    | [] => false
    | range :: rest => inside range inner && nested inners (range :: rest)

theorem exists_inside_of_nested {inners ranges : List (Nat × Nat)}
    (held : nested inners ranges = true) {inner : Nat × Nat} (member : inner ∈ inners) :
    ∃ range ∈ ranges, inside range inner = true := by
  induction inners generalizing ranges with
  | nil => cases member
  | cons first inners ih =>
    rw [nested] at held
    split at held
    · cases held
    · rename_i range rest kept
      have part : range :: rest ⊆ ranges := kept ▸ (List.dropWhile_suffix _).subset
      obtain ⟨here, others⟩ := Bool.and_eq_true_iff.mp held
      rcases List.mem_cons.mp member with rfl | later
      · exact ⟨range, part List.mem_cons_self, here⟩
      · obtain ⟨other, isRange, wider⟩ := ih others later
        exact ⟨other, part isRange, wider⟩

/-- A range of code points lies in one of those of letters. -/
def lettersHold (first last : Nat) : Bool :=
  CharClass.alphabetic.any fun range => inside range (first, last)

theorem isAlphanumeric_of_lettersHold {first last : Nat} (held : lettersHold first last = true)
    (least : first ≤ c.toNat) (most : c.toNat ≤ last) : isAlphanumeric c = true := by
  rw [lettersHold, List.any_eq_true] at held
  obtain ⟨range, isRange, wider⟩ := held
  simp only [inside, Bool.and_eq_true, Nat.ble_eq] at wider
  rw [isAlphanumeric]
  split
  · rename_i ascii
    have low : (CharClass.alphabetic.all fun range => Nat.ble 128 range.1 ||
        (inside (65, 90) range || inside (97, 122) range)) = true := by
      decide +kernel
    have letters : ∀ n < 128, 65 ≤ n ∧ n ≤ 90 ∨ 97 ≤ n ∧ n ≤ 122 →
        (Char.ofNat n).isAlphanum = true := by
      decide +kernel
    have placed := List.all_eq_true.mp low range isRange
    simp only [inside, Bool.or_eq_true, Bool.and_eq_true, Nat.ble_eq] at placed
    have held := letters c.toNat ascii (by omega)
    rwa [Char.ofNat_toNat] at held
  · have within : inRanges CharClass.alphabetic c.toNat = true := by
      rw [inRanges, List.any_eq_true]
      refine ⟨range, isRange, ?_⟩
      simp only [Bool.and_eq_true, decide_eq_true_eq]
      omega
    rw [within, Bool.true_or, Bool.true_or]

/-- The code points that a run maps are letters. -/
def lettersCover (run : Run) : Bool :=
  lettersHold run.1 run.2.1 || (List.range (run.2.1 + 1 - run.1)).all fun n =>
    !Nat.beq (n % run.2.2.1) 0 || lettersHold (run.1 + n) (run.1 + n)

theorem isAlphanumeric_of_lettersCover {run : Run} (held : lettersCover run = true)
    (covers : Covers run c.toNat) : isAlphanumeric c = true := by
  obtain ⟨least, most, inStep⟩ := covers
  rw [lettersCover, Bool.or_eq_true] at held
  rcases held with whole | each
  · exact isAlphanumeric_of_lettersHold whole least most
  · have place : c.toNat - run.1 ∈ List.range (run.2.1 + 1 - run.1) := by
      rw [List.mem_range]
      omega
    have one := List.all_eq_true.mp each _ place
    rw [inStep, Nat.add_sub_cancel' least, Nat.beq_refl, Bool.not_true, Bool.false_or] at one
    exact isAlphanumeric_of_lettersHold one (Nat.le_refl _) (Nat.le_refl _)

/-- Only letters have a case. -/
theorem isAlphanumeric_of_isCased (cased : isCased c = true) : isAlphanumeric c = true := by
  rw [isCased] at cased
  split at cased
  · rename_i ascii
    rw [isAlphanumeric, if_pos ascii, Char.isAlphanum, cased, Bool.true_or]
  · have placed : nested CharClass.cased CharClass.alphabetic = true := by decide +kernel
    rw [inRanges, List.any_eq_true] at cased
    obtain ⟨range, isRange, between⟩ := cased
    simp only [Bool.and_eq_true, decide_eq_true_eq] at between
    have held : lettersHold range.1 range.2 = true := by
      rw [lettersHold, List.any_eq_true]
      exact exists_inside_of_nested placed isRange
    exact isAlphanumeric_of_lettersHold held between.1 between.2

/-! ### Lower case -/

/-- What is no letter stays as it is in lower case. -/
theorem lowerChar_of_not_alphanumeric (other : isAlphanumeric c = false) :
    lowerChar c = [c] ∧ c ≠ 'Σ' := by
  refine ⟨?_, fun sigma => ?_⟩
  · rw [lowerChar]
    split
    · rename_i ascii
      have same : ∀ n < 128, (Char.ofNat n).isAlphanum = false →
          (Char.ofNat n).toLower = Char.ofNat n := by
        decide +kernel
      have held := same c.toNat ascii
      rw [Char.ofNat_toNat] at held
      rw [isAlphanumeric, if_pos ascii] at other
      rw [held other]
    · refine mapChar_self fun run isRun covers => ?_
      have held : (sources lowerLong lowerRuns).all lettersCover = true := by decide +kernel
      rw [isAlphanumeric_of_lettersCover (List.all_eq_true.mp held run isRun) covers] at other
      cases other
  · have letter : isAlphanumeric 'Σ' = true := by decide +kernel
    rw [sigma, letter] at other
    cases other

/-- What a run maps to lower case is a letter. -/
theorem isAlphanumeric_of_lowerRuns {point : Nat} (found : inRuns? lowerRuns c.toNat = some point) :
    isAlphanumeric (Char.ofNat point) = true := by
  obtain ⟨run, isRun, mapped⟩ := List.exists_of_findSome?_eq_some found
  obtain ⟨inside, same⟩ := Option.ite_none_right_eq_some.mp mapped
  simp only [Bool.and_eq_true, decide_eq_true_eq, beq_iff_eq] at inside
  have held : (lowerRuns.all fun run => isSound run &&
      lettersHold (shifted run run.1) (shifted run run.2.1)) = true := by
    decide +kernel
  obtain ⟨sound, letters⟩ := Bool.and_eq_true_iff.mp (List.all_eq_true.mp held run isRun)
  have shift : point = shifted run c.toNat := by
    rw [← Option.some.inj same]
    rfl
  have covers : Covers run c.toNat := ⟨inside.1.1, inside.1.2, inside.2⟩
  have place := toNat_shifted sound covers
  obtain ⟨low, high, -⟩ := covers
  have least : shifted run run.1 ≤ shifted run c.toNat := by
    simp only [shifted]
    omega
  have most : shifted run c.toNat ≤ shifted run run.2.1 := by
    simp only [shifted]
    omega
  rw [shift]
  rw [← place] at least most
  exact isAlphanumeric_of_lettersHold letters least most

/-- A letter in lower case is letters, unless it is the capital I with a dot. -/
theorem isAlphanumeric_of_mem_lowerChar (letter : isAlphanumeric c = true) (undotted : c ≠ 'İ')
    (member : d ∈ lowerChar c) : isAlphanumeric d = true := by
  rw [lowerChar] at member
  split at member
  · rename_i ascii
    have letters : ∀ n < 128, isAlphanumeric (Char.ofNat n) = true →
        isAlphanumeric (Char.ofNat n).toLower = true := by
      decide +kernel
    have held := letters c.toNat ascii
    rw [Char.ofNat_toNat] at held
    rw [List.mem_singleton.mp member]
    exact held letter
  · have unlisted : lowerLong.lookup c.toNat = none := by
      have apart : c.toNat ≠ 0x130 := by
        intro same
        refine undotted ?_
        rw [← Char.ofNat_toNat c, same]
      rw [lowerLong, List.lookup_cons, beq_eq_false_iff_ne.mpr apart]
      rfl
    rw [mapChar, unlisted] at member
    cases found : inRuns? lowerRuns c.toNat with
    | none =>
      rw [found] at member
      rw [List.mem_singleton.mp member]
      exact letter
    | some point =>
      rw [found] at member
      rw [List.mem_singleton.mp member]
      exact isAlphanumeric_of_lowerRuns found

/-- The capital I with a dot becomes a letter and a dot that is none. -/
theorem lowerChar_dotted : lowerChar 'İ' = ['i', '\u0307'] ∧ isAlphanumeric 'i' = true ∧
    isAlphanumeric '\u0307' = false := by
  decide +kernel

end TaskLoop.Text
