import Mathlib.Data.List.Basic
import TaskLoop.Proofs.Text.Lines
import TaskLoop.Text.Case

/-!
A text in upper case is in upper case, and one in lower case is in lower case: what a character is
mapped to is mapped to itself. No character is mapped to a blank or to the mark `@`, unless it is
one.
-/

set_option autoImplicit false

namespace TaskLoop.Text

namespace Case

/-- A run of code points with what is added to them. -/
abbrev Run := Nat × Nat × Nat × Int

/-- The code point is one of a run. -/
def Covers (run : Run) (point : Nat) : Prop :=
  run.1 ≤ point ∧ point ≤ run.2.1 ∧ (point - run.1) % run.2.2.1 = 0

/-- What a run maps a code point to. -/
def shifted (run : Run) (point : Nat) : Nat := ((point : Int) + run.2.2.2).toNat

/-- The code points of a run are all even or all odd. -/
def onParity (run : Run) : Bool := Nat.beq run.2.2.1 2 || Nat.beq run.1 run.2.1

/-- A run maps its code points behind or before those of another, or between them. -/
def apart (run other : Run) : Bool :=
  Nat.blt (shifted run run.2.1) other.1 || (Nat.blt other.2.1 (shifted run run.1) ||
    ((onParity run && onParity other) && !Nat.beq (shifted run run.1 % 2) (other.1 % 2)))

variable {run other : Run} {point : Nat}

theorem Covers.parity (covers : Covers run point) (even : onParity run = true) :
    point % 2 = run.1 % 2 := by
  obtain ⟨least, most, inStep⟩ := covers
  simp only [onParity, Bool.or_eq_true, Nat.beq_eq] at even
  rcases even with two | one
  · rw [two] at inStep
    omega
  · omega

theorem not_covers_of_apart (apart : apart run other = true)
    (grounded : 0 ≤ (run.1 : Int) + run.2.2.2) (covers : Covers run point) :
    ¬ Covers other (shifted run point) := by
  intro both
  have parity (even : onParity run = true) : shifted run point % 2 = shifted run run.1 % 2 := by
    have same := covers.parity even
    have least := covers.1
    simp only [shifted]
    omega
  obtain ⟨least, most, -⟩ := covers
  simp only [Case.apart, Bool.or_eq_true, Bool.and_eq_true, Nat.blt_eq, Bool.not_eq_true'] at apart
  rcases apart with before | behind | ⟨⟨even, otherEven⟩, differ⟩
  · have bound : shifted run point ≤ shifted run run.2.1 := by
      simp only [shifted]
      omega
    exact absurd both.1 (by omega)
  · have bound : shifted run run.1 ≤ shifted run point := by
      simp only [shifted]
      omega
    exact absurd both.2.1 (by omega)
  · rw [← parity even, both.parity otherEven, Nat.beq_refl] at differ
    cases differ

/-! ### Tables -/

variable {long : List (Nat × List Nat)} {runs others : List Run} {c d : Char}

/-- A run of one code point that stays as it is. -/
def single (point : Nat) : Run := (point, point, 1, 0)

/-- Runs that hold all code points that are mapped. -/
def sources (long : List (Nat × List Nat)) (runs : List Run) : List Run :=
  runs ++ long.map fun entry => single entry.1

/-- Runs that map to all code points that are mapped to. -/
def images (long : List (Nat × List Nat)) (runs : List Run) : List Run :=
  runs ++ (long.flatMap Prod.snd).eraseDups.map single

/-- A run maps to code points of characters. -/
def isSound (run : Run) : Bool :=
  decide (0 ≤ (run.1 : Int) + run.2.2.2) && (decide (shifted run run.2.1 < 0xD800) ||
    (decide (0xDFFF < shifted run run.1) && decide (shifted run run.2.1 < 0x110000)))

/-- What the tables map to is neither mapped nor in others of some runs. -/
def isClear (long : List (Nat × List Nat)) (runs others : List Run) : Bool :=
  (images long runs).all fun run =>
    isSound run && (sources long runs ++ others).all fun other => apart run other

theorem toNat_shifted (sound : isSound run = true) (covers : Covers run point) :
    (Char.ofNat (shifted run point)).toNat = shifted run point := by
  obtain ⟨least, most, -⟩ := covers
  simp only [isSound, Bool.and_eq_true, Bool.or_eq_true, decide_eq_true_eq] at sound
  have bounds : shifted run run.1 ≤ shifted run point ∧
      shifted run point ≤ shifted run run.2.1 := by
    simp only [shifted]
    omega
  have valid : (shifted run point).isValidChar := by
    rw [Nat.isValidChar]
    omega
  rw [Char.ofNat, dif_pos valid]
  rfl

/-- A character that no run holds stays as it is. -/
theorem mapChar_self (free : ∀ run ∈ sources long runs, ¬ Covers run c.toNat) :
    mapChar long runs c = [c] := by
  have unlisted : long.lookup c.toNat = none := by
    rw [List.lookup_eq_none_iff]
    intro entry member
    rw [bne_iff_ne]
    intro same
    refine free (single entry.1) (List.mem_append_right _ (List.mem_map_of_mem member)) ?_
    rw [same]
    exact ⟨Nat.le_refl _, Nat.le_refl _, Nat.mod_one _⟩
  have outside : inRuns? runs c.toNat = none := by
    rw [inRuns?, List.findSome?_eq_none_iff]
    intro run member
    refine if_neg fun inside => ?_
    simp only [Bool.and_eq_true, decide_eq_true_eq, beq_iff_eq] at inside
    exact free run (List.mem_append_left _ member) ⟨inside.1.1, inside.1.2, inside.2⟩
  rw [mapChar, unlisted, outside]
  rfl

/-- A character is mapped to itself or to characters of images. -/
theorem mapChar_eq_or_mem (long : List (Nat × List Nat)) (runs : List Run) (c : Char) :
    mapChar long runs c = [c] ∨ ∀ d ∈ mapChar long runs c,
      ∃ run ∈ images long runs, ∃ point, Covers run point ∧ d = Char.ofNat (shifted run point) := by
  rw [mapChar]
  cases listed : long.lookup c.toNat with
  | some points =>
    right
    intro d member
    obtain ⟨point, isPoint, rfl⟩ := List.mem_map.mp member
    obtain ⟨before, after, listed, -⟩ := List.lookup_eq_some_iff.mp listed
    have isImage : point ∈ (long.flatMap Prod.snd).eraseDups := by
      rw [List.mem_eraseDups, listed]
      refine List.mem_flatMap.mpr ⟨_, List.mem_append_right _ List.mem_cons_self, isPoint⟩
    refine ⟨single point, List.mem_append_right _ (List.mem_map_of_mem isImage), point, ?_, ?_⟩
    · exact ⟨Nat.le_refl _, Nat.le_refl _, Nat.mod_one _⟩
    · rw [shifted, single, Int.add_zero, Int.toNat_natCast]
  | none =>
    cases found : inRuns? runs c.toNat with
    | none => exact .inl rfl
    | some point =>
      right
      intro d member
      obtain rfl := List.mem_singleton.mp member
      obtain ⟨run, isRun, mapped⟩ := List.exists_of_findSome?_eq_some found
      obtain ⟨inside, same⟩ := Option.ite_none_right_eq_some.mp mapped
      simp only [Bool.and_eq_true, decide_eq_true_eq, beq_iff_eq] at inside
      refine ⟨run, List.mem_append_left _ isRun, c.toNat, ⟨inside.1.1, inside.1.2, inside.2⟩, ?_⟩
      rw [← Option.some.inj same]
      rfl

/-- What a character is mapped to is the character, or is held by none of the runs. -/
theorem eq_or_free (clear : isClear long runs others = true) (member : d ∈ mapChar long runs c) :
    (mapChar long runs c = [c] ∧ d = c) ∨
      ∀ run ∈ sources long runs ++ others, ¬ Covers run d.toNat := by
  rcases mapChar_eq_or_mem long runs c with same | mapped
  · rw [same] at member
    exact .inl ⟨same, List.mem_singleton.mp member⟩
  · right
    obtain ⟨run, isImage, point, covers, rfl⟩ := mapped d member
    have checked := List.all_eq_true.mp clear run isImage
    obtain ⟨sound, apart⟩ := Bool.and_eq_true_iff.mp checked
    intro other isOther
    rw [toNat_shifted sound covers]
    have grounded : 0 ≤ (run.1 : Int) + run.2.2.2 := by
      simp only [isSound, Bool.and_eq_true, decide_eq_true_eq] at sound
      exact sound.1
    exact not_covers_of_apart (List.all_eq_true.mp apart other isOther) grounded covers

end Case

/-! ### Single characters -/

/-- Runs of the blanks. -/
def blankRuns : List Case.Run := [(9, 13, 1, 0), (0x20, 0x20, 1, 0), (0x85, 0x85, 1, 0),
  (0xA0, 0xA0, 1, 0), (0x1680, 0x1680, 1, 0), (0x2000, 0x200A, 1, 0), (0x2028, 0x2029, 1, 0),
  (0x202F, 0x202F, 1, 0), (0x205F, 0x205F, 1, 0), (0x3000, 0x3000, 1, 0)]

theorem isBlank_of_free {c : Char} (free : ∀ run ∈ blankRuns, ¬ Case.Covers run c.toNat) :
    isBlank c = false := by
  rw [Bool.eq_false_iff]
  intro blank
  simp only [blankRuns, List.forall_mem_cons, Case.Covers, Nat.mod_one, and_true] at free
  simp only [isBlank, Bool.or_eq_true, Bool.and_eq_true, decide_eq_true_eq, beq_iff_eq] at blank
  omega

/-- Runs of the small letters of ASCII and of the mark. -/
def upperOthers : List Case.Run := blankRuns ++ [(97, 122, 1, -32), (64, 64, 1, 0)]

/-- Runs of the capital letters of ASCII and of the capital sigma. -/
def lowerOthers : List Case.Run := blankRuns ++ [(65, 90, 1, 32), (0x3A3, 0x3A3, 1, 0)]

/-- What either case maps to is neither mapped nor one of the others. -/
theorem isClear_upper_lower : Case.isClear Case.upperLong Case.upperRuns upperOthers = true ∧
    Case.isClear Case.lowerLong Case.lowerRuns lowerOthers = true := by
  decide +kernel

/-- A character of ASCII stays as it is unless it is a letter, and in either case it stays. -/
theorem toUpper_toLower_ascii {c : Char} (ascii : c.toNat < 128) :
    ((¬ (97 ≤ c.toNat ∧ c.toNat ≤ 122) → c.toUpper = c) ∧ upperChar c.toUpper = [c.toUpper] ∧
      (isBlank c = false → isBlank c.toUpper = false) ∧ (c ≠ '@' → c.toUpper ≠ '@')) ∧
    (¬ (65 ≤ c.toNat ∧ c.toNat ≤ 90) → c.toLower = c) ∧
      (lowerChar c.toLower = [c.toLower] ∧ c.toLower ≠ 'Σ') ∧
      (isBlank c = false → isBlank c.toLower = false) := by
  have all : ∀ n < 128,
      ((¬ (97 ≤ n ∧ n ≤ 122) → (Char.ofNat n).toUpper = Char.ofNat n) ∧
        upperChar (Char.ofNat n).toUpper = [(Char.ofNat n).toUpper] ∧
        (isBlank (Char.ofNat n) = false → isBlank (Char.ofNat n).toUpper = false) ∧
        (Char.ofNat n ≠ '@' → (Char.ofNat n).toUpper ≠ '@')) ∧
      (¬ (65 ≤ n ∧ n ≤ 90) → (Char.ofNat n).toLower = Char.ofNat n) ∧
        (lowerChar (Char.ofNat n).toLower = [(Char.ofNat n).toLower] ∧
          (Char.ofNat n).toLower ≠ 'Σ') ∧
        (isBlank (Char.ofNat n) = false → isBlank (Char.ofNat n).toLower = false) := by
    decide +kernel
  have held := all c.toNat ascii
  rwa [Char.ofNat_toNat] at held

theorem toUpper_of_free {c : Char} (ascii : c.toNat < 128)
    (free : ∀ run ∈ upperOthers, ¬ Case.Covers run c.toNat) : c.toUpper = c := by
  have notSmall := free (97, 122, 1, -32) (List.mem_append_right _ List.mem_cons_self)
  exact (toUpper_toLower_ascii ascii).1.1 fun small => notSmall ⟨small.1, small.2, Nat.mod_one _⟩

theorem toLower_of_free {c : Char} (ascii : c.toNat < 128)
    (free : ∀ run ∈ lowerOthers, ¬ Case.Covers run c.toNat) : c.toLower = c := by
  have notLarge := free (65, 90, 1, 32) (List.mem_append_right _ List.mem_cons_self)
  exact (toUpper_toLower_ascii ascii).2.1 fun large => notLarge ⟨large.1, large.2, Nat.mod_one _⟩

/-- What upper case maps a character to it leaves alone, and that is a blank or the mark only if
the character is. -/
theorem upperChar_of_mem {c d : Char} (member : d ∈ upperChar c) : upperChar d = [d] ∧
    (isBlank c = false → isBlank d = false) ∧ (c ≠ '@' → d ≠ '@') := by
  by_cases ascii : c.toNat < 128
  · rw [upperChar, if_pos ascii, List.mem_singleton] at member
    subst member
    exact (toUpper_toLower_ascii ascii).1.2
  · have mapped : upperChar c = Case.mapChar Case.upperLong Case.upperRuns c := if_neg ascii
    rw [mapped] at member
    rcases Case.eq_or_free isClear_upper_lower.1 member with ⟨same, rfl⟩ | free
    · exact ⟨mapped.trans same, id, id⟩
    · have others : ∀ run ∈ upperOthers, ¬ Case.Covers run d.toNat := fun run isOther =>
        free run (List.mem_append_right _ isOther)
      refine ⟨?_, fun _ => ?_, fun _ mark => ?_⟩
      · rw [upperChar]
        split
        · rename_i small
          rw [toUpper_of_free small others]
        · exact Case.mapChar_self fun run isSource => free run (List.mem_append_left _ isSource)
      · exact isBlank_of_free fun run isRun => others run (List.mem_append_left _ isRun)
      · subst mark
        exact others (64, 64, 1, 0) (by decide) ⟨by decide, by decide, by decide⟩

/-- What lower case maps a character but the capital sigma to it leaves alone, and that is a blank
only if the character is. -/
theorem lowerChar_of_mem {c d : Char} (notSigma : c ≠ 'Σ') (member : d ∈ lowerChar c) :
    (lowerChar d = [d] ∧ d ≠ 'Σ') ∧ (isBlank c = false → isBlank d = false) := by
  by_cases ascii : c.toNat < 128
  · rw [lowerChar, if_pos ascii, List.mem_singleton] at member
    subst member
    exact (toUpper_toLower_ascii ascii).2.2
  · have mapped : lowerChar c = Case.mapChar Case.lowerLong Case.lowerRuns c := if_neg ascii
    rw [mapped] at member
    rcases Case.eq_or_free isClear_upper_lower.2 member with ⟨same, rfl⟩ | free
    · exact ⟨⟨mapped.trans same, notSigma⟩, id⟩
    · have others : ∀ run ∈ lowerOthers, ¬ Case.Covers run d.toNat := fun run isOther =>
        free run (List.mem_append_right _ isOther)
      refine ⟨⟨?_, fun sigma => ?_⟩, fun _ => ?_⟩
      · rw [lowerChar]
        split
        · rename_i large
          rw [toLower_of_free large others]
        · exact Case.mapChar_self fun run isSource => free run (List.mem_append_left _ isSource)
      · subst sigma
        exact others (0x3A3, 0x3A3, 1, 0) (by decide) ⟨by decide, by decide, by decide⟩
      · exact isBlank_of_free fun run isRun => others run (List.mem_append_left _ isRun)

theorem mapChar_ne_nil {long : List (Nat × List Nat)} {runs : List Case.Run}
    (some : ∀ entry ∈ long, entry.2 ≠ []) (c : Char) : Case.mapChar long runs c ≠ [] := by
  rw [Case.mapChar]
  split
  · rename_i points listed
    obtain ⟨before, after, listed, -⟩ := List.lookup_eq_some_iff.mp listed
    intro none
    refine some (c.toNat, points) ?_ (List.map_eq_nil_iff.mp none)
    rw [listed]
    exact List.mem_append_right _ List.mem_cons_self
  · exact List.cons_ne_nil _ _

theorem upperChar_ne_nil (c : Char) : upperChar c ≠ [] := by
  rw [upperChar]
  split
  · exact List.cons_ne_nil _ _
  · exact mapChar_ne_nil (by decide) c

theorem lowerChar_ne_nil (c : Char) : lowerChar c ≠ [] := by
  rw [lowerChar]
  split
  · exact List.cons_ne_nil _ _
  · exact mapChar_ne_nil (by decide) c

/-! ### Texts -/

theorem upper_append (left right : List Char) : upper (left ++ right) = upper left ++ upper right :=
  List.flatMap_append

theorem upper_of_settled {text : List Char} (settled : ∀ c ∈ text, upperChar c = [c]) :
    upper text = text := by
  induction text with
  | nil => rfl
  | cons c rest ih =>
    obtain ⟨first, others⟩ := List.forall_mem_cons.mp settled
    rw [upper, List.flatMap_cons, first, ← upper, ih others]
    rfl

theorem upper_upper (text : List Char) : upper (upper text) = upper text := by
  refine upper_of_settled fun d member => ?_
  obtain ⟨c, -, isImage⟩ := List.mem_flatMap.mp member
  exact (upperChar_of_mem isImage).1

theorem mark_not_mem_upper {text : List Char} (free : '@' ∉ text) : '@' ∉ upper text := by
  intro member
  obtain ⟨c, isChar, isImage⟩ := List.mem_flatMap.mp member
  refine (upperChar_of_mem isImage).2.2 ?_ rfl
  rintro rfl
  exact free isChar

/-- What one character becomes in lower case, by what stands around it. -/
def lowerAt (before : List Char) (c : Char) (rest : List Char) : List Char :=
  if c == 'Σ' then [if casedNext before && !casedNext rest then 'ς' else 'σ'] else lowerChar c

theorem lowerAfter_cons (before : List Char) (c : Char) (rest : List Char) :
    lowerAfter before (c :: rest) = lowerAt before c rest ++ lowerAfter (c :: before) rest := rfl

theorem lowerAt_of_mem {before rest : List Char} {c d : Char} (member : d ∈ lowerAt before c rest) :
    (lowerChar d = [d] ∧ d ≠ 'Σ') ∧ (isBlank c = false → isBlank d = false) := by
  have small : (lowerChar 'ς' = ['ς'] ∧ 'ς' ≠ 'Σ') ∧ isBlank 'ς' = false := by decide +kernel
  have final : (lowerChar 'σ' = ['σ'] ∧ 'σ' ≠ 'Σ') ∧ isBlank 'σ' = false := by decide +kernel
  rw [lowerAt] at member
  split at member
  · rw [List.mem_singleton] at member
    split at member
    · subst member
      exact ⟨small.1, fun _ => small.2⟩
    · subst member
      exact ⟨final.1, fun _ => final.2⟩
  · rename_i notSigma
    exact lowerChar_of_mem (fun same => notSigma (beq_iff_eq.mpr same)) member

theorem lowerAt_ne_nil (before : List Char) (c : Char) (rest : List Char) :
    lowerAt before c rest ≠ [] := by
  rw [lowerAt]
  split
  · exact List.cons_ne_nil _ _
  · exact lowerChar_ne_nil c

theorem settled_lowerAfter {before text : List Char} {d : Char}
    (member : d ∈ lowerAfter before text) : lowerChar d = [d] ∧ d ≠ 'Σ' := by
  induction text generalizing before with
  | nil => cases member
  | cons c rest ih =>
    rw [lowerAfter_cons, List.mem_append] at member
    rcases member with here | later
    · exact (lowerAt_of_mem here).1
    · exact ih later

theorem lowerAfter_of_settled {before text : List Char}
    (settled : ∀ c ∈ text, lowerChar c = [c] ∧ c ≠ 'Σ') : lowerAfter before text = text := by
  induction text generalizing before with
  | nil => rfl
  | cons c rest ih =>
    obtain ⟨⟨first, notSigma⟩, others⟩ := List.forall_mem_cons.mp settled
    rw [lowerAfter_cons, lowerAt, beq_eq_false_iff_ne.mpr notSigma, ih others]
    simp only [Bool.false_eq_true, ↓reduceIte, first, List.singleton_append]

theorem lower_lower (text : List Char) : lower (lower text) = lower text :=
  lowerAfter_of_settled fun _ member => settled_lowerAfter member

/-- Only a text of characters that lower case leaves alone is its own lower case. -/
theorem lower_eq_self_iff {text : List Char} :
    lower text = text ↔ ∀ c ∈ text, lowerChar c = [c] ∧ c ≠ 'Σ' := by
  constructor
  · intro same c member
    rw [← same] at member
    exact settled_lowerAfter member
  · exact lowerAfter_of_settled

/-! ### Ends -/

/-- Neither end of a text is a blank. -/
structure Tight (text : List Char) : Prop where
  first : ∀ c ∈ text.head?, isBlank c = false
  last : ∀ c ∈ text.getLast?, isBlank c = false

section Trimming

variable {drop : Char → Bool} {text : List Char} {c : Char}

theorem dropWhile_of_head? (first : ∀ c ∈ text.head?, drop c = false) :
    text.dropWhile drop = text := by
  cases text with
  | nil => rfl
  | cons c rest => rw [List.dropWhile_cons, first c rfl]; rfl

theorem head?_dropWhile (first : c ∈ (text.dropWhile drop).head?) : drop c = false := by
  have kept := List.head?_dropWhile_not drop text
  rw [Option.mem_def.mp first] at kept
  exact kept

/-- Nothing is cut off a text when neither of its ends is dropped. -/
theorem trimBy_of_ends (first : ∀ c ∈ text.head?, drop c = false)
    (last : ∀ c ∈ text.getLast?, drop c = false) : trimBy drop text = text := by
  rw [trimBy, dropWhile_of_head? first, dropWhile_of_head?, List.reverse_reverse]
  rw [List.head?_reverse]
  exact last

theorem head?_trimBy (first : c ∈ (trimBy drop text).head?) : drop c = false := by
  -- The first character of what is left stands where it stood.
  rw [trimBy, List.head?_reverse] at first
  have kept : (text.dropWhile drop).reverse.dropWhile drop <:+ (text.dropWhile drop).reverse :=
    List.dropWhile_suffix _
  obtain ⟨cut, whole⟩ := kept
  have same : (text.dropWhile drop).head? = some c := by
    rw [← List.getLast?_reverse, ← whole, List.getLast?_append, Option.mem_def.mp first]
    rfl
  exact head?_dropWhile same

theorem getLast?_trimBy (last : c ∈ (trimBy drop text).getLast?) : drop c = false := by
  rw [trimBy, List.getLast?_reverse] at last
  exact head?_dropWhile last

end Trimming

/-- Nothing is cut off a text without blanks at its ends. -/
theorem trim_of_tight {text : List Char} (tight : Tight text) : trim text = text :=
  trimBy_of_ends tight.first tight.last

theorem tight_trim (text : List Char) : Tight (trim text) :=
  ⟨fun _ first => head?_trimBy first, fun _ last => getLast?_trimBy last⟩

theorem head?_upper {text : List Char} (first : ∀ c ∈ text.head?, isBlank c = false) :
    ∀ c ∈ (upper text).head?, isBlank c = false := by
  cases text with
  | nil => exact fun _ => nofun
  | cons c rest =>
    intro d isFirst
    rw [upper, List.flatMap_cons, List.head?_append_of_ne_nil _ (upperChar_ne_nil c)] at isFirst
    exact (upperChar_of_mem (List.mem_of_head? isFirst)).2.1 (first c rfl)

theorem getLast?_upper {text : List Char} (last : ∀ c ∈ text.getLast?, isBlank c = false) :
    ∀ c ∈ (upper text).getLast?, isBlank c = false := by
  rcases List.eq_nil_or_concat text with rfl | ⟨front, c, rfl⟩
  · exact fun _ => nofun
  · intro d isLast
    rw [List.concat_eq_append] at last isLast
    have visible := last c List.getLast?_concat
    have one : upper [c] = upperChar c := List.flatMap_singleton _ _
    rw [upper_append, one, List.getLast?_append_of_ne_nil _ (upperChar_ne_nil c)] at isLast
    exact (upperChar_of_mem (List.mem_of_getLast? isLast)).2.1 visible

/-- Two texts with a visible mark between them, when the ends are no blanks. -/
theorem Tight.mark {front back : List Char} {mark : Char} (tight : Tight front)
    (visible : isBlank mark = false) (last : ∀ c ∈ back.getLast?, isBlank c = false) :
    Tight (front ++ mark :: back) := by
  refine ⟨?_, ?_⟩
  · cases front with
    | nil =>
      intro c first
      cases first
      exact visible
    | cons c rest => exact fun d first => tight.first d first
  · rw [List.getLast?_append_of_ne_nil _ (List.cons_ne_nil _ _)]
    cases back with
    | nil =>
      intro c isLast
      cases isLast
      exact visible
    | cons c rest =>
      rw [List.getLast?_cons_cons]
      exact last

theorem Tight.upper {text : List Char} (tight : Tight text) : Tight (upper text) :=
  ⟨head?_upper tight.first, getLast?_upper tight.last⟩

theorem getLast?_lowerAfter {before text : List Char}
    (last : ∀ c ∈ text.getLast?, isBlank c = false) :
    ∀ c ∈ (lowerAfter before text).getLast?, isBlank c = false := by
  induction text generalizing before with
  | nil => exact fun _ => nofun
  | cons c rest ih =>
    intro d isLast
    rw [lowerAfter_cons] at isLast
    cases rest with
    | nil =>
      rw [lowerAfter, List.append_nil] at isLast
      exact (lowerAt_of_mem (List.mem_of_getLast? isLast)).2 (last c rfl)
    | cons next others =>
      have some : lowerAfter (c :: before) (next :: others) ≠ [] := by
        rw [lowerAfter_cons]
        exact List.append_ne_nil_of_left_ne_nil (lowerAt_ne_nil _ _ _) _
      rw [List.getLast?_append_of_ne_nil _ some] at isLast
      rw [List.getLast?_cons_cons] at last
      exact ih last d isLast

end TaskLoop.Text
