import Mathlib.Data.List.Infix
import Mathlib.Data.List.TakeWhile
import TaskLoop.Json.Extract

/-!
The first block of balanced braces in a text. A scan that counts the open braces stops where the
last of them is closed for the first time, so what it cuts out is the shortest start of the text,
from its first brace on, that closes as many braces as it opens.
-/

set_option autoImplicit false

namespace TaskLoop.Json

variable {depth : Nat} {c : Char} {text rest found block : List Char}

/-! ### Braces counted -/

/-- How many braces a text opens. -/
def opened (text : List Char) : Nat := text.count '\x7b'

/-- How many braces a text closes. -/
def closed (text : List Char) : Nat := text.count '\x7d'

/-- A text closes as many braces as it opens. -/
def Balanced (text : List Char) : Prop := closed text = opened text

@[simp] theorem opened_nil : opened [] = 0 := rfl

@[simp] theorem closed_nil : closed [] = 0 := rfl

theorem opened_append (text rest : List Char) : opened (text ++ rest) = opened text + opened rest :=
  List.count_append

theorem closed_append (text rest : List Char) : closed (text ++ rest) = closed text + closed rest :=
  List.count_append

@[simp] theorem opened_cons_opening (rest : List Char) :
    opened ('\x7b' :: rest) = opened rest + 1 := List.count_cons_self

@[simp] theorem closed_cons_opening (rest : List Char) :
    closed ('\x7b' :: rest) = closed rest := List.count_cons_of_ne (by decide)

@[simp] theorem opened_cons_closing (rest : List Char) :
    opened ('\x7d' :: rest) = opened rest := List.count_cons_of_ne (by decide)

@[simp] theorem closed_cons_closing (rest : List Char) :
    closed ('\x7d' :: rest) = closed rest + 1 := List.count_cons_self

theorem opened_cons_of_ne (apart : c ≠ '\x7b') (rest : List Char) :
    opened (c :: rest) = opened rest := List.count_cons_of_ne apart

theorem closed_cons_of_ne (apart : c ≠ '\x7d') (rest : List Char) :
    closed (c :: rest) = closed rest := List.count_cons_of_ne apart

/-! ### Where the last brace is closed -/

/-- A text closes the braces that are open before it and all that it opens itself, and the last of
them with its last character. -/
structure Closes (depth : Nat) (text : List Char) : Prop where
  all : closed text = depth + opened text
  notBefore : ∀ start, start <+: text → start ≠ text → closed start < depth + opened start

theorem not_closes_nil : ¬ Closes (depth + 1) [] := fun closes => by
  have all := closes.all
  rw [closed_nil, opened_nil] at all
  omega

theorem closes_cons : Closes (depth + 1) (c :: rest) ↔
    closed (c :: rest) = depth + 1 + opened (c :: rest) ∧ ∀ start, start <+: rest → start ≠ rest →
      closed (c :: start) < depth + 1 + opened (c :: start) := by
  constructor
  · rintro ⟨all, notBefore⟩
    refine ⟨all, fun start begins apart => ?_⟩
    exact notBefore (c :: start) (List.cons_prefix_cons.mpr ⟨rfl, begins⟩) fun same =>
      apart (List.cons.inj same).2
  · rintro ⟨all, notBefore⟩
    refine ⟨all, fun start begins apart => ?_⟩
    rcases List.prefix_cons_iff.mp begins with rfl | ⟨start, rfl, inner⟩
    · exact Nat.succ_pos _
    · exact notBefore start inner fun same => apart (congrArg _ same)

theorem closes_cons_opening : Closes (depth + 1) ('\x7b' :: rest) ↔ Closes (depth + 2) rest := by
  rw [closes_cons]
  simp only [closed_cons_opening, opened_cons_opening]
  constructor
  · rintro ⟨all, notBefore⟩
    exact ⟨by omega, fun start begins apart => by have := notBefore start begins apart; omega⟩
  · rintro ⟨all, notBefore⟩
    exact ⟨by omega, fun start begins apart => by have := notBefore start begins apart; omega⟩

theorem closes_cons_of_ne (notOpening : c ≠ '\x7b') (notClosing : c ≠ '\x7d') :
    Closes (depth + 1) (c :: rest) ↔ Closes (depth + 1) rest := by
  rw [closes_cons]
  simp only [closed_cons_of_ne notClosing, opened_cons_of_ne notOpening]
  exact ⟨fun ⟨all, notBefore⟩ => ⟨all, notBefore⟩, fun ⟨all, notBefore⟩ => ⟨all, notBefore⟩⟩

theorem closes_cons_closing : Closes (depth + 2) ('\x7d' :: rest) ↔ Closes (depth + 1) rest := by
  rw [closes_cons]
  simp only [closed_cons_closing, opened_cons_closing]
  constructor
  · rintro ⟨all, notBefore⟩
    exact ⟨by omega, fun start begins apart => by have := notBefore start begins apart; omega⟩
  · rintro ⟨all, notBefore⟩
    exact ⟨by omega, fun start begins apart => by have := notBefore start begins apart; omega⟩

/-- Nothing stands behind the brace that closes the last. -/
theorem closes_cons_last : Closes 1 ('\x7d' :: rest) ↔ rest = [] := by
  rw [closes_cons]
  simp only [closed_cons_closing, opened_cons_closing]
  constructor
  · rintro ⟨-, notBefore⟩
    by_contra more
    have early := notBefore [] List.nil_prefix (Ne.symm more)
    rw [closed_nil, opened_nil] at early
    omega
  · rintro rfl
    refine ⟨rfl, fun start begins apart => ?_⟩
    exact absurd (List.prefix_nil.mp begins) apart

theorem Closes.getLast? (closes : Closes (depth + 1) text) : text.getLast? = some '\x7d' := by
  rcases List.eq_nil_or_concat' text with rfl | ⟨front, last, rfl⟩
  · exact absurd closes not_closes_nil
  have all := closes.all
  have behind := closes.notBefore front (List.prefix_append _ _) fun same =>
    List.cons_ne_nil last [] (List.self_eq_append_right.mp same)
  rw [List.getLast?_concat, Option.some_inj]
  by_contra apart
  have closing : closed [last] = 0 := closed_cons_of_ne apart []
  rw [closed_append, opened_append, closing] at all
  omega

/-! ### The scan -/

theorem takeBalanced?_opening (depth : Nat) (rest : List Char) :
    takeBalanced? depth ('\x7b' :: rest) =
      (takeBalanced? (depth + 1) rest).map ('\x7b' :: ·) := rfl

theorem takeBalanced?_last (rest : List Char) :
    takeBalanced? 1 ('\x7d' :: rest) = some ['\x7d'] := rfl

theorem takeBalanced?_closing (depth : Nat) (rest : List Char) :
    takeBalanced? (depth + 2) ('\x7d' :: rest) =
      (takeBalanced? (depth + 1) rest).map ('\x7d' :: ·) := rfl

theorem takeBalanced?_of_ne (notOpening : c ≠ '\x7b') (notClosing : c ≠ '\x7d') (depth : Nat)
    (rest : List Char) :
    takeBalanced? depth (c :: rest) = (takeBalanced? depth rest).map (c :: ·) := by
  rw [takeBalanced?, if_neg (mt beq_iff_eq.mp notOpening), if_neg (mt beq_iff_eq.mp notClosing)]

/-- The scan finds the start of a text that closes the open braces. -/
theorem takeBalanced?_eq_some_iff :
    takeBalanced? (depth + 1) text = some found ↔ found <+: text ∧ Closes (depth + 1) found := by
  induction text generalizing depth found with
  | nil =>
    refine ⟨nofun, fun ⟨begins, closes⟩ => ?_⟩
    rw [List.prefix_nil.mp begins] at closes
    exact absurd closes not_closes_nil
  | cons c rest ih =>
    have parts : found <+: c :: rest ∧ Closes (depth + 1) found ↔
        ∃ inner, (inner <+: rest ∧ Closes (depth + 1) (c :: inner)) ∧ c :: inner = found := by
      constructor
      · rintro ⟨begins, closes⟩
        rcases List.prefix_cons_iff.mp begins with rfl | ⟨inner, rfl, inRest⟩
        · exact absurd closes not_closes_nil
        · exact ⟨inner, ⟨inRest, closes⟩, rfl⟩
      · rintro ⟨inner, ⟨begins, closes⟩, rfl⟩
        exact ⟨List.cons_prefix_cons.mpr ⟨rfl, begins⟩, closes⟩
    rw [parts]
    by_cases opening : c = '\x7b'
    · subst opening
      simp only [takeBalanced?_opening, Option.map_eq_some_iff, ih, closes_cons_opening]
    by_cases closing : c = '\x7d'
    · subst closing
      cases depth with
      | zero =>
        simp only [Nat.zero_add, takeBalanced?_last, Option.some_inj, closes_cons_last]
        constructor
        · rintro rfl
          exact ⟨[], ⟨List.nil_prefix, rfl⟩, rfl⟩
        · rintro ⟨inner, ⟨-, rfl⟩, same⟩
          exact same
      | succ depth =>
        simp only [takeBalanced?_closing, Option.map_eq_some_iff, ih, closes_cons_closing]
    · simp only [takeBalanced?_of_ne opening closing, Option.map_eq_some_iff, ih,
        closes_cons_of_ne opening closing]

/-- Where the scan finds nothing, a brace is open behind every start of the text. -/
theorem closed_lt_of_takeBalanced? (unclosed : takeBalanced? (depth + 1) text = none)
    {start : List Char} (begins : start <+: text) : closed start < depth + 1 + opened start := by
  induction text generalizing depth start with
  | nil =>
    rw [List.prefix_nil.mp begins]
    exact Nat.succ_pos _
  | cons c rest ih =>
    rcases List.prefix_cons_iff.mp begins with rfl | ⟨start, rfl, inRest⟩
    · exact Nat.succ_pos _
    by_cases opening : c = '\x7b'
    · subst opening
      rw [takeBalanced?_opening, Option.map_eq_none_iff] at unclosed
      have inner := ih unclosed inRest
      rw [closed_cons_opening, opened_cons_opening]
      omega
    by_cases closing : c = '\x7d'
    · subst closing
      cases depth with
      | zero => cases unclosed
      | succ depth =>
        rw [takeBalanced?_closing, Option.map_eq_none_iff] at unclosed
        have inner := ih unclosed inRest
        rw [closed_cons_closing, opened_cons_closing]
        omega
    · rw [takeBalanced?_of_ne opening closing, Option.map_eq_none_iff] at unclosed
      rw [closed_cons_of_ne closing, opened_cons_of_ne opening]
      exact ih unclosed inRest

/-! ### Blocks -/

/-- A block of balanced braces: it begins with a brace, and that one is closed with its last
character and not before. -/
structure IsBlock (block : List Char) : Prop where
  begins : block.head? = some '\x7b'
  balanced : Balanced block
  inside : ∀ start, start <+: block → start ≠ [] → start ≠ block → closed start < opened start

theorem isBlock_cons : IsBlock ('\x7b' :: rest) ↔ Closes 1 rest := by
  constructor
  · rintro ⟨-, balanced, inside⟩
    rw [Balanced, closed_cons_opening, opened_cons_opening] at balanced
    refine ⟨by omega, fun start begins apart => ?_⟩
    have behind := inside ('\x7b' :: start) (List.cons_prefix_cons.mpr ⟨rfl, begins⟩)
      (List.cons_ne_nil _ _) fun same => apart (List.cons.inj same).2
    rw [closed_cons_opening, opened_cons_opening] at behind
    omega
  · rintro ⟨all, notBefore⟩
    refine ⟨rfl, ?_, fun start begins nonempty apart => ?_⟩
    · rw [Balanced, closed_cons_opening, opened_cons_opening]
      omega
    · rcases List.prefix_cons_iff.mp begins with rfl | ⟨start, rfl, inRest⟩
      · exact absurd rfl nonempty
      have behind := notBefore start inRest fun same => apart (congrArg _ same)
      rw [closed_cons_opening, opened_cons_opening]
      omega

theorem IsBlock.exists_cons (isBlock : IsBlock block) : ∃ rest, block = '\x7b' :: rest := by
  obtain ⟨rest, rfl⟩ := List.head?_eq_some_iff.mp isBlock.begins
  exact ⟨rest, rfl⟩

theorem IsBlock.ne_nil (isBlock : IsBlock block) : block ≠ [] := by
  obtain ⟨rest, rfl⟩ := isBlock.exists_cons
  exact List.cons_ne_nil _ _

theorem IsBlock.getLast? (isBlock : IsBlock block) : block.getLast? = some '\x7d' := by
  obtain ⟨rest, rfl⟩ := isBlock.exists_cons
  have last := (isBlock_cons.mp isBlock).getLast?
  rw [List.getLast?_cons, last]
  rfl

/-- A text from its first opening brace on. -/
def fromBrace (text : List Char) : List Char := text.dropWhile (· != '\x7b')

theorem fromBrace_append {before : List Char} (noBrace : '\x7b' ∉ before) (rest : List Char) :
    fromBrace (before ++ '\x7b' :: rest) = '\x7b' :: rest := by
  have all : ∀ c ∈ before, (c != '\x7b') = true := by
    intro c member
    rw [bne_iff_ne]
    rintro rfl
    exact noBrace member
  rw [fromBrace, List.dropWhile_append_of_pos all]
  rfl

theorem fromBrace_eq_nil_iff : fromBrace text = [] ↔ '\x7b' ∉ text := by
  rw [fromBrace, List.dropWhile_eq_nil_iff]
  constructor
  · intro all member
    exact absurd (all _ member) (by decide)
  · intro noBrace c member
    rw [bne_iff_ne]
    rintro rfl
    exact noBrace member

/-- Either a text opens no brace, or it is cut at the first. -/
theorem fromBrace_cases (text : List Char) : '\x7b' ∉ text ∨ ∃ before rest, '\x7b' ∉ before ∧
    text = before ++ '\x7b' :: rest ∧ fromBrace text = '\x7b' :: rest := by
  by_cases noBrace : '\x7b' ∉ text
  · exact .inl noBrace
  · obtain ⟨before, rest, rfl, first⟩ := List.eq_append_cons_of_mem (not_not.mp noBrace)
    exact .inr ⟨before, rest, first, rfl, fromBrace_append first rest⟩

/-- What is cut out of a text is the block that its first brace begins. -/
theorem extractObject?_eq_some_iff :
    extractObject? text = some block ↔ block <+: fromBrace text ∧ IsBlock block := by
  have scanned : extractObject? text = takeBalanced? 0 (fromBrace text) := rfl
  rw [scanned]
  rcases fromBrace_cases text with noBrace | ⟨before, rest, -, -, cut⟩
  · rw [fromBrace_eq_nil_iff.mpr noBrace]
    refine ⟨nofun, fun ⟨begins, isBlock⟩ => ?_⟩
    rw [List.prefix_nil.mp begins] at isBlock
    exact absurd isBlock.begins nofun
  rw [cut, takeBalanced?_opening, Option.map_eq_some_iff]
  have scan (inner : List Char) : takeBalanced? (0 + 1) rest = some inner ↔
      inner <+: rest ∧ Closes (0 + 1) inner := takeBalanced?_eq_some_iff
  simp only [scan]
  constructor
  · rintro ⟨inner, ⟨begins, closes⟩, rfl⟩
    exact ⟨List.cons_prefix_cons.mpr ⟨rfl, begins⟩, isBlock_cons.mpr closes⟩
  · rintro ⟨begins, isBlock⟩
    obtain ⟨inner, rfl⟩ := isBlock.exists_cons
    exact ⟨inner, ⟨(List.cons_prefix_cons.mp begins).2, isBlock_cons.mp isBlock⟩, rfl⟩

/-- A text is cut nowhere when no start of it, from its first brace on, is balanced. -/
theorem not_balanced_of_extractObject? (missing : extractObject? text = none) {start : List Char}
    (begins : start <+: fromBrace text) (nonempty : start ≠ []) : ¬ Balanced start := by
  have scanned : extractObject? text = takeBalanced? 0 (fromBrace text) := rfl
  rw [scanned] at missing
  rcases fromBrace_cases text with noBrace | ⟨before, rest, -, -, cut⟩
  · rw [fromBrace_eq_nil_iff.mpr noBrace] at begins
    exact absurd (List.prefix_nil.mp begins) nonempty
  rw [cut] at begins missing
  rw [takeBalanced?_opening, Option.map_eq_none_iff] at missing
  rcases List.prefix_cons_iff.mp begins with rfl | ⟨start, rfl, inRest⟩
  · exact absurd rfl nonempty
  have behind := closed_lt_of_takeBalanced? missing inRest
  rw [Balanced, closed_cons_opening, opened_cons_opening]
  omega

/-- A balanced start of a text that begins with a block does not end before the block. -/
theorem IsBlock.prefix_of_balanced (isBlock : IsBlock block) (begins : block <+: text)
    {start : List Char} (begins' : start <+: text) (nonempty : start ≠ []) (balanced : Balanced start) :
    block <+: start := by
  rcases List.prefix_or_prefix_of_prefix begins begins' with shorter | longer
  · exact shorter
  · by_cases same : start = block
    · rw [same]
    · have behind := isBlock.inside start longer nonempty same
      rw [Balanced] at balanced
      omega

/-- Cutting a block out of a text finds one exactly if some start of the text, from its first brace
on, is balanced. What is found is the shortest such start, stands in the text in one piece, begins
with an opening and ends with a closing brace, and has more of the former in every part it begins
with. A block behind text without a brace is found whatever follows it. -/
theorem extractObject?_finds_first_block (text : List Char) :
    ((extractObject? text).isSome = true ↔
      ∃ start, start <+: fromBrace text ∧ start ≠ [] ∧ Balanced start) ∧
    (∀ block, extractObject? text = some block →
      (block <+: fromBrace text ∧ block ≠ [] ∧ Balanced block ∧
        ∀ start, start <+: fromBrace text → start ≠ [] → Balanced start → block <+: start) ∧
      block <:+: text ∧ block.head? = some '\x7b' ∧ block.getLast? = some '\x7d' ∧
      ∀ start, start <+: block → start ≠ [] → start ≠ block → closed start < opened start) ∧
    (extractObject? text = none ↔
      '\x7b' ∉ text ∨ ∀ start, start <+: fromBrace text → start ≠ [] → ¬ Balanced start) ∧
    ∀ before block after, '\x7b' ∉ before → IsBlock block →
      extractObject? (before ++ block ++ after) = some block := by
  refine ⟨⟨fun found => ?_, ?_⟩, fun block found => ?_, ⟨fun missing => ?_, fun unbalanced => ?_⟩,
    fun before block after noBrace isBlock => ?_⟩
  · obtain ⟨block, found⟩ := Option.isSome_iff_exists.mp found
    obtain ⟨begins, isBlock⟩ := extractObject?_eq_some_iff.mp found
    exact ⟨block, begins, isBlock.ne_nil, isBlock.balanced⟩
  · rintro ⟨start, begins, nonempty, balanced⟩
    rw [Option.isSome_iff_ne_none]
    intro missing
    exact not_balanced_of_extractObject? missing begins nonempty balanced
  · obtain ⟨begins, isBlock⟩ := extractObject?_eq_some_iff.mp found
    have shortest (start : List Char) (begins' : start <+: fromBrace text) (nonempty : start ≠ [])
        (balanced : Balanced start) : block <+: start :=
      isBlock.prefix_of_balanced begins begins' nonempty balanced
    have inText : block <:+: text := begins.isInfix.trans (List.dropWhile_suffix _).isInfix
    exact ⟨⟨begins, isBlock.ne_nil, isBlock.balanced, shortest⟩, inText, isBlock.begins,
      isBlock.getLast?, isBlock.inside⟩
  · exact .inr fun start begins => not_balanced_of_extractObject? missing begins
  · rw [Option.eq_none_iff_forall_ne_some]
    intro block found
    obtain ⟨begins, isBlock⟩ := extractObject?_eq_some_iff.mp found
    rcases unbalanced with noBrace | unbalanced
    · rw [fromBrace_eq_nil_iff.mpr noBrace] at begins
      exact isBlock.ne_nil (List.prefix_nil.mp begins)
    · exact unbalanced block begins isBlock.ne_nil isBlock.balanced
  · obtain ⟨rest, rfl⟩ := isBlock.exists_cons
    rw [extractObject?_eq_some_iff, List.append_assoc, List.cons_append, fromBrace_append noBrace]
    exact ⟨List.prefix_append ('\x7b' :: rest) after, isBlock⟩

end TaskLoop.Json

namespace TaskLoop.Sample

open TaskLoop.Json

/-- A block with another inside. -/
def nestedBlock : List Char := ['\x7b', 'a', '\x7b', 'é', '\x7d', '\x7d']

theorem isBlock_nestedBlock : IsBlock nestedBlock := by
  have found : extractObject? nestedBlock = some nestedBlock := rfl
  exact (extractObject?_eq_some_iff.mp found).2

/-- More is closed behind the block than was opened before it. -/
theorem nested_block_found :
    (∃ start, start <+: fromBrace ('é' :: nestedBlock) ∧ start ≠ [] ∧ Balanced start) ∧
      nestedBlock <:+: 'é' :: nestedBlock ∧
      extractObject? (['é'] ++ nestedBlock ++ ['\x7d', '\x7d', '\x7b']) = some nestedBlock :=
  ⟨(extractObject?_finds_first_block ('é' :: nestedBlock)).1.mp rfl,
    ((extractObject?_finds_first_block ('é' :: nestedBlock)).2.1 nestedBlock rfl).2.1,
    (extractObject?_finds_first_block []).2.2.2 ['é'] nestedBlock _ (by decide)
      isBlock_nestedBlock⟩

end TaskLoop.Sample
