import TaskLoop.Proofs.Toml.Values

/-!
A document reads back as its sections: every line is read as the heading or the entry that it was
written for, and the lines build up one table for each section.
-/

set_option autoImplicit false

namespace TaskLoop.Toml

/-- A name that stands in a document without quotes. -/
def Bare (name : String) : Prop := name.toList ≠ [] ∧ name.toList.all isBare = true

instance (name : String) : Decidable (Bare name) := inferInstanceAs (Decidable (_ ∧ _))

/-- A section with bare keys, all different, and values that can be read back. -/
structure ProperSection (part : String × List (String × Scalar)) : Prop where
  bare : Bare part.1
  keys : ∀ entry ∈ part.2, Bare entry.1
  distinct : (part.2.map Prod.fst).Nodup
  fits : ∀ entry ∈ part.2, entry.2.Fits

/-- Sections with different names. -/
structure Proper (sections : List (String × List (String × Scalar))) : Prop where
  each : ∀ part ∈ sections, ProperSection part
  distinct : (sections.map Prod.fst).Nodup

/-- The line of an entry. -/
def entryLine (entry : String × Scalar) : Line := .entry [entry.1] entry.2.value

/-- The lines of a section. -/
def sectionLines (part : String × List (String × Scalar)) : List Line :=
  .heading [part.1] :: part.2.map entryLine

/-- What a section is read as. -/
def sectionTable (part : String × List (String × Scalar)) : String × Toml :=
  (part.1, .table .heading (part.2.map fun entry => (entry.1, entry.2.value)))

/-! ### Reading lines -/

/-- Whether a text is read as lines, with any count that is large enough. -/
def ReadsAs (text : List Char) (lines : List Line) : Prop :=
  ∀ fuel, text.length < fuel → readLines fuel text = some lines

section Lines

variable {text rest : List Char} {lines : List Line} {name : String} {c : Char}

theorem readsAs_nil : ReadsAs [] [] := by
  intro fuel enough
  obtain ⟨fuel, rfl⟩ := Nat.exists_eq_add_one_of_ne_zero (Nat.ne_zero_of_lt enough)
  rfl

/-- An empty line says nothing. -/
theorem ReadsAs.gap (reads : ReadsAs rest lines) : ReadsAs ('\n' :: rest) lines := by
  intro fuel enough
  obtain ⟨fuel, rfl⟩ := Nat.exists_eq_add_one_of_ne_zero (Nat.ne_zero_of_lt enough)
  rw [← reads (fuel + 1) (Nat.lt_of_succ_lt enough)]
  rfl

/-- Whether a line can begin with a character: with a bracket or with a name. -/
def StartsLine (c : Char) : Prop := c = '[' ∨ isBare c = true

theorem skipBlanks_cons (notBlank : (c == ' ' || c == '\t') = false) :
    skipBlanks (c :: rest) = c :: rest :=
  List.dropWhile_cons_of_neg (Bool.eq_false_iff.mp notBlank)

theorem ne_of_isBare {other : Char} (bare : isBare c = true) (never : isBare other = false) :
    c ≠ other := by
  rintro rfl
  exact Bool.false_ne_true (never.symm.trans bare)

theorem StartsLine.ne {other : Char} (starts : StartsLine c)
    (never : other ≠ '[' ∧ isBare other = false) : c ≠ other := by
  rcases starts with rfl | bare
  · exact never.1.symm
  · exact ne_of_isBare bare never.2

theorem StartsLine.notBlank (starts : StartsLine c) : (c == ' ' || c == '\t') = false := by
  rw [beq_eq_false_iff_ne.mpr (starts.ne (by decide)), beq_eq_false_iff_ne.mpr (starts.ne (by decide))]
  rfl

theorem skipGaps_cons {count : Nat} (starts : StartsLine c) :
    skipGaps (count + 1) (c :: rest) = c :: rest := by
  rw [skipGaps, skipBlanks_cons starts.notBlank]
  split
  · rename_i first
    exact absurd (List.cons.inj first).1 (starts.ne (by decide))
  · rw [endLine?]
    · exact fun _ first => starts.ne (by decide) (List.cons.inj first).1
    · exact fun _ first => starts.ne (by decide) (List.cons.inj first).1

theorem finishLine?_newline : finishLine? ('\n' :: rest) = some rest := rfl

/-- A line is read before those behind it. -/
theorem ReadsAs.line {line : Line} (reads : ReadsAs rest lines)
    (starts : ∃ c more, text = c :: more ∧ StartsLine c) (shorter : rest.length < text.length)
    (read : readLine text = some (line, '\n' :: rest)) : ReadsAs text (line :: lines) := by
  intro fuel enough
  obtain ⟨fuel, rfl⟩ := Nat.exists_eq_add_one_of_ne_zero (Nat.ne_zero_of_lt enough)
  obtain ⟨c, more, rfl, starts⟩ := starts
  simp only [readLines, skipGaps_cons starts, read, finishLine?_newline,
    reads fuel (by omega), Option.bind_eq_bind, Option.bind_some, Option.pure_def]

theorem Bare.exists_cons (bare : Bare name) : ∃ c more, name.toList = c :: more ∧ isBare c = true := by
  obtain ⟨some, all⟩ := bare
  obtain ⟨c, more, spelt⟩ := List.exists_cons_of_ne_nil some
  exact ⟨c, more, spelt, List.all_eq_true.mp all c (spelt ▸ List.mem_cons_self)⟩

theorem Bare.startsLine (bare : Bare name) (rest : List Char) :
    ∃ c more, name.toList ++ rest = c :: more ∧ StartsLine c := by
  obtain ⟨c, more, spelt, begins⟩ := bare.exists_cons
  exact ⟨c, more ++ rest, by rw [spelt, List.cons_append], .inr begins⟩

/-- A bare name is read up to a character that no name has. -/
theorem readName_bare (bare : Bare name) (other : isBare c = false) :
    readName (skipBlanks (name.toList ++ c :: rest)) = some (name, c :: rest) := by
  have run : (name.toList ++ c :: rest).takeWhile isBare = name.toList := by
    rw [List.takeWhile_append_of_pos (List.all_eq_true.mp bare.2), List.takeWhile_cons_of_neg (Bool.eq_false_iff.mp other),
      List.append_nil]
  obtain ⟨first, more, spelt, begins⟩ := bare.exists_cons
  have starts : StartsLine first := .inr begins
  have stays : skipBlanks (name.toList ++ c :: rest) = name.toList ++ c :: rest := by
    rw [spelt]
    exact skipBlanks_cons starts.notBlank
  rw [stays, readName]
  · rw [run, List.isEmpty_eq_false_iff.mpr bare.1]
    simp only [Bool.false_eq_true, ↓reduceIte, List.drop_left, String.ofList_toList]
  · intro rest same
    rw [spelt] at same
    exact starts.ne (by decide) (List.cons.inj same).1
  · intro rest same
    rw [spelt] at same
    exact starts.ne (by decide) (List.cons.inj same).1

/-- A key of one part ends where no dot follows. -/
theorem readKey_bare {count : Nat} (bare : Bare name) (other : isBare c = false)
    (noDot : ∀ more, skipBlanks (c :: rest) ≠ '.' :: more) :
    readKey (count + 1) (name.toList ++ c :: rest) = some ([name], skipBlanks (c :: rest)) := by
  rw [readKey, readName_bare bare other]
  simp only [Option.bind_eq_bind, Option.bind_some]
  rfl

/-- The line of a heading. -/
theorem readLine_heading (bare : Bare name) :
    readLine ('[' :: name.toList ++ ']' :: '\n' :: rest) =
      some (.heading [name], '\n' :: rest) := by
  obtain ⟨first, more, spelt, begins⟩ := bare.exists_cons
  have key : readKey ((name.toList ++ ']' :: '\n' :: rest).length + 1)
      (name.toList ++ ']' :: '\n' :: rest) = some ([name], ']' :: '\n' :: rest) :=
    readKey_bare bare (by decide) fun more same => by cases same
  rw [List.cons_append, readLine]
  · rw [readHeading, key]
    rfl
  · intro rest same
    rw [spelt] at same
    exact ne_of_isBare begins (by decide) (List.cons.inj same).1

/-- The line of an entry. -/
theorem readLine_entry {entry : String × Scalar} (bare : Bare entry.1) (fits : entry.2.Fits) :
    readLine (entry.1.toList ++ ' ' :: '=' :: ' ' :: (entry.2.text ++ '\n' :: rest)) =
      some (entryLine entry, '\n' :: rest) := by
  have key {count : Nat} : readKey (count + 1)
      (entry.1.toList ++ ' ' :: '=' :: ' ' :: (entry.2.text ++ '\n' :: rest)) =
        some ([entry.1], '=' :: ' ' :: (entry.2.text ++ '\n' :: rest)) :=
    readKey_bare bare (by decide) fun more same => by cases same
  have value : skipBlanks (' ' :: (entry.2.text ++ '\n' :: rest)) = entry.2.text ++ '\n' :: rest := by
    obtain ⟨c, more, start, begins⟩ := entry.2.exists_cons_text fits
    rw [skipBlanks, List.dropWhile_cons_of_pos (by decide), start]
    refine skipBlanks_cons ?_
    rw [Bool.or_eq_false_iff, beq_eq_false_iff_ne, beq_eq_false_iff_ne]
    refine ⟨?_, ?_⟩ <;>
    · rintro rfl
      exact absurd begins (by decide)
  obtain ⟨first, more, spelt, begins⟩ := bare.exists_cons
  rw [readLine]
  · rw [key]
    simp only [Option.bind_eq_bind, Option.bind_some, readMark, BEq.rfl, ↓reduceIte, value,
      readValue_text entry.2 fits]
    rfl
  · intro rest same
    rw [spelt] at same
    exact ne_of_isBare begins (by decide) (List.cons.inj same).1
  · intro rest same
    rw [spelt] at same
    exact ne_of_isBare begins (by decide) (List.cons.inj same).1

/-! ### Reading documents -/

theorem ReadsAs.entries {entries : List (String × Scalar)} (reads : ReadsAs rest lines)
    (keys : ∀ entry ∈ entries, Bare entry.1) (fits : ∀ entry ∈ entries, entry.2.Fits) :
    ReadsAs (entries.flatMap entryText ++ rest) (entries.map entryLine ++ lines) := by
  induction entries with
  | nil => exact reads
  | cons entry entries ih =>
    obtain ⟨bare, others⟩ := List.forall_mem_cons.mp keys
    obtain ⟨fit, fits⟩ := List.forall_mem_cons.mp fits
    have line : entryText entry ++ (entries.flatMap entryText ++ rest) = entry.1.toList ++
        ' ' :: '=' :: ' ' :: (entry.2.text ++ '\n' :: (entries.flatMap entryText ++ rest)) := by
      simp only [entryText, List.append_assoc, List.cons_append, List.nil_append]
    rw [List.flatMap_cons, List.append_assoc, List.map_cons, List.cons_append, line]
    refine (ih others fits).line (bare.startsLine _) ?_ (readLine_entry bare fit)
    simp only [List.length_append, List.length_cons]
    omega

theorem ReadsAs.section {part : String × List (String × Scalar)} (reads : ReadsAs rest lines)
    (proper : ProperSection part) : ReadsAs (sectionText part ++ rest) (sectionLines part ++ lines) := by
  have line : sectionText part ++ rest =
      '[' :: part.1.toList ++ ']' :: '\n' :: (part.2.flatMap entryText ++ rest) := by
    simp only [sectionText, List.append_assoc, List.cons_append, List.nil_append]
  rw [line]
  refine (reads.entries proper.keys proper.fits).line ⟨'[', _, rfl, .inl rfl⟩ ?_
    (readLine_heading proper.bare)
  simp only [List.length_append, List.length_cons]
  omega

theorem readsAs_documentText {sections : List (String × List (String × Scalar))}
    (each : ∀ part ∈ sections, ProperSection part) :
    ReadsAs (documentText sections) (sections.flatMap sectionLines) := by
  induction sections with
  | nil => exact readsAs_nil
  | cons part sections ih =>
    obtain ⟨proper, others⟩ := List.forall_mem_cons.mp each
    rw [List.flatMap_cons]
    cases sections with
    | nil =>
      have alone := readsAs_nil.section proper
      rwa [List.append_nil] at alone
    | cons next sections => exact (ih others).gap.section proper

end Lines

/-! ### Building up tables -/

section Tables

variable {name : String} {value : Toml} {members : Members} {path : List String}

theorem lookup_none (absent : name ∉ members.map Prod.fst) : members.lookup name = none := by
  rw [List.lookup_eq_none_iff]
  intro member inside
  rw [bne_iff_ne]
  rintro rfl
  exact absent (List.mem_map_of_mem inside)

/-- A value under the last name is changed where it stands. -/
theorem change_append {f : Toml → Option Toml} (absent : name ∉ members.map Prod.fst) :
    change name f (members ++ [(name, value)]) =
      (f value).map fun value => members ++ [(name, value)] := by
  induction members with
  | nil =>
    rw [List.nil_append, change, if_pos BEq.rfl]
    rfl
  | cons first members ih =>
    rw [List.map_cons, List.mem_cons, not_or] at absent
    rw [List.cons_append, change, if_neg (mt beq_iff_eq.mp (Ne.symm absent.1)), ih absent.2,
      Option.map_map]
    rfl

theorem takeLine_heading (absent : name ∉ members.map Prod.fst) :
    takeLine (path, members) (.heading [name]) =
      some ([name], members ++ [(name, .table .heading [])]) := by
  rw [takeLine]
  dsimp only
  rw [openTable, lookup_none absent]
  rfl

theorem takeLine_entry {inner : Members} {key : String} (absent : name ∉ members.map Prod.fst)
    (new : key ∉ inner.map Prod.fst) :
    takeLine ([name], members ++ [(name, .table .heading inner)]) (.entry [key] value) =
      some ([name], members ++ [(name, .table .heading (inner ++ [(key, value)]))]) := by
  rw [takeLine]
  dsimp only
  rw [within, change_append absent, extend]
  simp only [within, assign, define, lookup_none new]
  rfl

/-- The entries of a section come into the table of its heading, one behind the other. -/
theorem foldlM_entries {entries : List (String × Scalar)} {inner : Members}
    (absent : name ∉ members.map Prod.fst)
    (distinct : (inner.map Prod.fst ++ entries.map Prod.fst).Nodup) :
    (entries.map entryLine).foldlM takeLine ([name], members ++ [(name, .table .heading inner)]) =
      some ([name], members ++
        [(name, .table .heading (inner ++ entries.map fun entry => (entry.1, entry.2.value)))]) := by
  induction entries generalizing inner with
  | nil =>
    rw [List.map_nil, List.map_nil, List.append_nil]
    rfl
  | cons entry entries ih =>
    rw [List.map_cons, List.append_cons] at distinct
    have new : entry.1 ∉ inner.map Prod.fst := by
      intro member
      have front := (List.nodup_append.mp (List.nodup_append.mp distinct).1).2.2
      exact front _ member _ List.mem_cons_self rfl
    rw [List.map_cons, List.foldlM_cons, entryLine, takeLine_entry absent new]
    simp only [Option.bind_eq_bind, Option.bind_some]
    rw [ih (by rwa [List.map_append]), List.map_cons, List.append_assoc, List.singleton_append]

theorem foldlM_section {part : String × List (String × Scalar)}
    (absent : part.1 ∉ members.map Prod.fst) (proper : ProperSection part) :
    (sectionLines part).foldlM takeLine (path, members) =
      some ([part.1], members ++ [sectionTable part]) := by
  rw [sectionLines, List.foldlM_cons, takeLine_heading absent]
  simp only [Option.bind_eq_bind, Option.bind_some]
  exact foldlM_entries absent proper.distinct

/-- The sections of a document become its members, in their order. -/
theorem foldlM_sections (path : List String) {sections : List (String × List (String × Scalar))}
    (each : ∀ part ∈ sections, ProperSection part)
    (distinct : (members.map Prod.fst ++ sections.map Prod.fst).Nodup) :
    ∃ last, (sections.flatMap sectionLines).foldlM takeLine (path, members) =
      some (last, members ++ sections.map sectionTable) := by
  induction sections generalizing members path with
  | nil =>
    rw [List.map_nil, List.append_nil]
    exact ⟨path, rfl⟩
  | cons part sections ih =>
    obtain ⟨proper, others⟩ := List.forall_mem_cons.mp each
    rw [List.map_cons, List.append_cons] at distinct
    have absent : part.1 ∉ members.map Prod.fst := by
      intro member
      have front := (List.nodup_append.mp (List.nodup_append.mp distinct).1).2.2
      exact front _ member _ List.mem_cons_self rfl
    have left : ((members ++ [sectionTable part]).map Prod.fst ++ sections.map Prod.fst).Nodup := by
      rw [List.map_append]
      exact distinct
    obtain ⟨last, rest⟩ := ih [part.1] others left
    refine ⟨last, ?_⟩
    rw [List.flatMap_cons, List.foldlM_append, foldlM_section absent proper]
    simp only [Option.bind_eq_bind, Option.bind_some]
    rw [rest, List.map_cons, List.append_assoc, List.singleton_append]

end Tables

theorem head?_documentText (sections : List (String × List (String × Scalar))) :
    (documentText sections).head? ≠ some '\ufeff' := by
  match sections with
  | [] => exact fun none => nomatch none
  | [part] => exact fun first => absurd (Option.some.inj first) (by decide)
  | part :: next :: rest => exact fun first => absurd (Option.some.inj first) (by decide)

/-- A document reads back as its sections. -/
theorem ofText?_documentText {sections : List (String × List (String × Scalar))}
    (proper : Proper sections) :
    ofText? (documentText sections) = some (sections.map sectionTable) := by
  have distinct : (([] : Members).map Prod.fst ++ sections.map Prod.fst).Nodup := proper.distinct
  obtain ⟨last, built⟩ := foldlM_sections [] proper.each distinct
  rw [ofText?, beq_eq_false_iff_ne.mpr (head?_documentText sections)]
  simp only [Bool.false_eq_true, ↓reduceIte,
    readsAs_documentText proper.each _ (Nat.lt_succ_self _), Option.bind_some]
  rw [ofLines, built]
  rfl

end TaskLoop.Toml
