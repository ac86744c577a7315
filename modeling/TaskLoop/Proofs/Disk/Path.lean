import TaskLoop.Disk.Path
import TaskLoop.Proofs.Text.Lines

/-!
Paths that are made by joining names: their last name, the path before it, and the names on the
way.
-/

set_option autoImplicit false

namespace TaskLoop.Path

/-- A name that leads one level down. -/
structure Plain (name : String) : Prop where
  notEmpty : name.toList ≠ []
  noSlash : '/' ∉ name.toList
  noDot : name.toList ≠ ['.']
  noDots : name.toList ≠ ['.', '.']

/-- A path that ends in a name. -/
structure Tidy (path : Path) : Prop where
  notEmpty : path.text.toList ≠ []
  trimmed : path.trimmed = path.text.toList
  last : path.text.toList.getLast? ≠ some '/'

theorem Tidy.isEmpty_text {path : Path} (tidy : Tidy path) : path.text.isEmpty = false := by
  rw [Bool.eq_false_iff, ne_eq, String.isEmpty_iff]
  intro empty
  exact tidy.notEmpty (by rw [empty]; rfl)

/-- A name longer than those that stand for a directory itself and the one above. -/
theorem Plain.of_long {name : String} (long : 2 < name.toList.length)
    (noSlash : '/' ∉ name.toList) : Plain name := by
  refine ⟨?_, noSlash, ?_, ?_⟩
  · intro same
    rw [same] at long
    exact absurd long (by decide)
  · intro same
    rw [same] at long
    exact absurd long (by decide)
  · intro same
    rw [same] at long
    exact absurd long (by decide)

theorem Plain.slash {name : String} (plain : Plain name) :
    ∀ c ∈ name.toList, (c == '/') = false := by
  intro c member
  rw [beq_eq_false_iff_ne]
  rintro rfl
  exact plain.noSlash member

/-- Nothing is dropped behind a plain name. -/
theorem dropEnd_plain {name : String} (plain : Plain name) (before : List Char) :
    dropEnd (name.toList.reverse ++ before) = name.toList.reverse ++ before := by
  cases reversed : name.toList.reverse with
  | nil => exact absurd (List.reverse_eq_nil_iff.mp reversed) plain.notEmpty
  | cons c rest =>
    have inside : ∀ other ∈ c :: rest, other ≠ '/' := by
      intro other member
      rw [← reversed, List.mem_reverse] at member
      rintro rfl
      exact plain.noSlash member
    have first := inside c List.mem_cons_self
    cases rest with
    | nil =>
      have notDot : c ≠ '.' := by
        rintro rfl
        have whole := congrArg List.reverse reversed
        rw [List.reverse_reverse] at whole
        exact plain.noDot whole
      simp only [List.cons_append, List.nil_append]
      rw [dropEnd.eq_def]
      split
      · rename_i same
        exact absurd (List.cons.inj same).1 first
      · rename_i same
        exact absurd (List.cons.inj same).1 first
      · rename_i same
        exact absurd (List.cons.inj same).1 notDot
      · rfl
    | cons d rest =>
      have second := inside d (List.mem_cons_of_mem _ List.mem_cons_self)
      simp only [List.cons_append]
      rw [dropEnd.eq_def]
      split
      · rename_i same
        exact absurd (List.cons.inj same).1 first
      · rename_i same
        exact absurd (List.cons.inj same).1 first
      · rename_i same
        exact absurd (List.cons.inj (List.cons.inj same).2).1 second
      · rfl

theorem isAbsolute_plain {name : String} (plain : Plain name) :
    (Path.mk name).isAbsolute = false := by
  rw [isAbsolute, beq_eq_false_iff_ne]
  intro starts
  exact plain.noSlash (List.mem_of_mem_head? (Option.mem_def.mpr starts))

/-- A name joined to any path stands behind it. -/
theorem exists_join {name : String} (plain : Plain name) (base : Path) :
    ∃ front, (base.join name).text.toList = front ++ name.toList := by
  rw [join, isAbsolute_plain plain, Bool.false_or]
  split
  · exact ⟨[], rfl⟩
  · split
    · exact ⟨base.text.toList, String.toList_append⟩
    · refine ⟨base.text.toList ++ ['/'], ?_⟩
      simp only [String.toList_append]
      rfl

theorem getLast?_append_plain {name : String} (plain : Plain name) (front : List Char) :
    (front ++ name.toList).getLast? ≠ some '/' := by
  rw [List.getLast?_append, List.getLast?_eq_some_getLast plain.notEmpty, Option.some_or]
  intro ends
  have member := List.getLast_mem plain.notEmpty
  rw [Option.some.inj ends] at member
  exact plain.noSlash member

/-- A path that ends in a name is tidy. -/
theorem tidy_join {name : String} (plain : Plain name) (base : Path) : Tidy (base.join name) := by
  obtain ⟨front, text⟩ := exists_join plain base
  refine ⟨?_, ?_, ?_⟩
  · rw [text]
    exact List.append_ne_nil_of_right_ne_nil _ plain.notEmpty
  · rw [Path.trimmed, text, List.reverse_append, dropEnd_plain plain, List.reverse_append,
      List.reverse_reverse, List.reverse_reverse]
  · rw [text]
    exact getLast?_append_plain plain front

/-- A path that ends in neither a slash nor a dot is tidy. -/
theorem tidy_of_last {path : Path} {c : Char} (last : path.text.toList.getLast? = some c)
    (notSlash : c ≠ '/') (notDot : c ≠ '.') : Tidy path := by
  have notEmpty : path.text.toList ≠ [] := by
    intro empty
    rw [empty] at last
    cases last
  refine ⟨notEmpty, ?_, ?_⟩
  · have reversed : path.text.toList.reverse.head? = some c := by rw [List.head?_reverse, last]
    rw [Path.trimmed]
    cases found : path.text.toList.reverse with
    | nil =>
      rw [found] at reversed
      cases reversed
    | cons other rest =>
      rw [found] at reversed
      cases reversed
      have stays : dropEnd (c :: rest) = c :: rest := by
        unfold dropEnd
        split
        · next first => exact first.symm
        · next first => exact absurd (List.cons.inj first).1 notSlash
        · next first => exact absurd (List.cons.inj first).1 notDot
        · rfl
      rw [stays, ← found, List.reverse_reverse]
  · rw [last]
    exact fun same => notSlash (Option.some.inj same)

/-- What is below a path ends as it did. -/
theorem getLast?_join {below : String} {c : Char} (last : below.toList.getLast? = some c)
    (base : Path) : (base.join below).text.toList.getLast? = some c := by
  rw [join]
  split
  · exact last
  · split
    · rw [String.toList_append, List.getLast?_append, last, Option.some_or]
    · rw [String.toList_append, List.getLast?_append, last, Option.some_or]

/-- A name ends where a slash stands before it, or nothing. -/
theorem takeWhile_plain {name : String} {before : List Char} (plain : Plain name)
    (cut : before.takeWhile (· != '/') = []) :
    (name.toList.reverse ++ before).takeWhile (· != '/') = name.toList.reverse := by
  rw [List.takeWhile_append_of_pos, cut, List.append_nil]
  intro c member
  rw [List.mem_reverse] at member
  rw [bne, plain.slash c member]
  rfl

/-- The last name of a path that is one name. -/
theorem fileName?_plain {name : String} (plain : Plain name) :
    (Path.mk name).fileName? = some name := by
  have reversed : (Path.mk name).trimmed.reverse = name.toList.reverse := by
    have whole := dropEnd_plain plain []
    rw [List.append_nil] at whole
    rw [trimmed, List.reverse_reverse, whole]
  have taken := takeWhile_plain plain (by rfl : [].takeWhile (· != '/') = [])
  rw [List.append_nil] at taken
  simp only [fileName?, reversed, taken, List.reverse_reverse, List.isEmpty_iff, plain.notEmpty,
    plain.noDot, plain.noDots, beq_iff_eq, Bool.or_eq_true, or_self, ↓reduceIte,
    String.ofList_toList]

/-- The extension of a name is what stands behind its last dot. -/
theorem extension?_plain {name : String} {stem ending : List Char} (plain : Plain name)
    (text : name.toList = stem ++ '.' :: ending) (notFirst : stem ≠ []) (noDot : '.' ∉ ending) :
    (Path.mk name).extension? = some (String.ofList ending) := by
  have reversed : name.toList.reverse = ending.reverse ++ '.' :: stem.reverse := by
    rw [text, List.reverse_append, List.reverse_cons, List.append_assoc, List.singleton_append]
  have taken : name.toList.reverse.takeWhile (· != '.') = ending.reverse := by
    rw [reversed, List.takeWhile_append_of_pos]
    · simp
    · intro c member
      rw [List.mem_reverse] at member
      rw [bne_iff_ne]
      rintro rfl
      exact noDot member
  have before : name.toList.reverse.drop (ending.reverse.length + 1) = stem.reverse := by
    rw [reversed, ← List.drop_drop, List.drop_left, List.drop_one, List.tail_cons]
  have shorter : ending.reverse.length ≠ name.toList.reverse.length := by
    simp [reversed]
  simp only [extension?, fileName?_plain plain, Option.bind_some, taken, before, beq_iff_eq,
    shorter, List.isEmpty_iff, List.reverse_eq_nil_iff, notFirst, Bool.or_eq_true, or_self,
    ↓reduceIte, List.reverse_reverse]

/-! ### Names on the way -/

/-- The names in a text with slashes between them. -/
def namesOf (text : List Char) : List String :=
  ((Text.splitBy (· == '/') text).filter fun name => !name.isEmpty && name != ['.']).map
    String.ofList

theorem names_eq (path : Path) : path.names = namesOf path.text.toList := rfl

theorem namesOf_append (front back : List Char) :
    namesOf (front ++ '/' :: back) = namesOf front ++ namesOf back := by
  rw [namesOf, Text.splitBy_append_cons front back (by rfl), List.filter_append, List.map_append]
  rfl

theorem namesOf_plain {name : String} (plain : Plain name) : namesOf name.toList = [name] := by
  have kept : (!name.toList.isEmpty && name.toList != ['.']) = true := by
    simp [plain.notEmpty, plain.noDot]
  rw [namesOf, Text.splitBy_of_none plain.slash]
  simp [kept]

/-- The slashes and single dots at the end of a path name nothing. -/
theorem namesOf_dropEnd (reversed : List Char) :
    namesOf (dropEnd reversed).reverse = namesOf reversed.reverse := by
  fun_induction dropEnd reversed with
  | case1 => rfl
  | case2 rest _ ih =>
    rw [ih, List.reverse_cons, namesOf_append]
    exact (List.append_nil _).symm
  | case3 rest ih =>
    rw [ih, List.reverse_cons, List.reverse_cons, List.reverse_cons, List.append_assoc,
      List.singleton_append, namesOf_append, namesOf_append]
    rfl
  | case4 => rfl

/-- A path begins as it did without what is dropped at its end. -/
theorem getLast?_dropEnd (reversed : List Char) :
    (dropEnd reversed).getLast? = reversed.getLast? := by
  fun_induction dropEnd reversed with
  | case1 => rfl
  | case2 rest notRoot ih =>
    cases rest with
    | nil => exact (notRoot rfl).elim
    | cons c rest => rw [ih, List.getLast?_cons_cons]
  | case3 rest ih => rw [ih, List.getLast?_cons_cons]
  | case4 => rfl

theorem namesOf_trimmed (path : Path) : namesOf path.trimmed = path.names := by
  rw [trimmed, namesOf_dropEnd, List.reverse_reverse, names_eq]

theorem head?_trimmed (path : Path) : path.trimmed.head? = path.text.toList.head? := by
  rw [trimmed, List.head?_reverse, getLast?_dropEnd, List.getLast?_reverse]

/-- A path that has a last name leads one level down from its parent. -/
structure Below (path parent : Path) (name : String) : Prop where
  plain : Plain name
  names : path.names = parent.names ++ [name]
  isAbsolute : path.isAbsolute = parent.isAbsolute

theorem plain_of_fileName? {path : Path} {name : String} (isName : path.fileName? = some name) :
    Plain name ∧
      path.trimmed = (path.trimmed.reverse.dropWhile (· != '/')).reverse ++ name.toList := by
  rw [fileName?] at isName
  split at isName
  · cases isName
  · rename_i notStep
    cases isName
    simp only [List.isEmpty_iff, beq_iff_eq, Bool.or_eq_true, not_or] at notStep
    obtain ⟨⟨notEmpty, noDot⟩, noDots⟩ := notStep
    refine ⟨⟨?_, ?_, ?_, ?_⟩, ?_⟩
    · rwa [String.toList_ofList]
    · rw [String.toList_ofList, List.mem_reverse]
      intro member
      exact absurd (List.all_eq_true.mp List.all_takeWhile _ member) (by decide)
    · rwa [String.toList_ofList]
    · rwa [String.toList_ofList]
    · rw [String.toList_ofList, ← List.reverse_append, List.takeWhile_append_dropWhile,
        List.reverse_reverse]

/-- A path with a last name and nothing behind it is tidy. -/
theorem tidy_of_fileName? {path : Path} {name : String} (isName : path.fileName? = some name)
    (trimmed : path.trimmed = path.text.toList) : Tidy path := by
  obtain ⟨plain, cut⟩ := plain_of_fileName? isName
  rw [trimmed] at cut
  refine ⟨?_, trimmed, ?_⟩
  · rw [cut]
    exact List.append_ne_nil_of_right_ne_nil _ plain.notEmpty
  · rw [cut]
    exact getLast?_append_plain plain _

/-- The path before a last name that stands behind a slash ends where that slash stood. -/
theorem below_of_parent? {path parent : Path} {name : String}
    (isParent : path.parent? = some parent) (isName : path.fileName? = some name) :
    Below path parent name := by
  obtain ⟨plain, cut⟩ := plain_of_fileName? isName
  have above : parent.text.toList =
      (dropEnd (path.trimmed.reverse.dropWhile (· != '/'))).reverse := by
    rw [parent?] at isParent
    split at isParent
    · cases isParent
    · cases isParent
      exact String.toList_ofList
  have stops := List.head?_dropWhile_not (· != '/') path.trimmed.reverse
  generalize path.trimmed.reverse.dropWhile (· != '/') = front at cut above stops
  cases front with
  | nil =>
    have alone : path.trimmed = name.toList := cut
    have nothing : parent.text.toList = [] := above
    refine ⟨plain, ?_, ?_⟩
    · rw [← namesOf_trimmed, alone, namesOf_plain plain, names_eq, nothing]
      rfl
    · rw [isAbsolute, ← head?_trimmed, alone, isAbsolute, nothing]
      exact isAbsolute_plain plain
  | cons c front =>
    obtain rfl : c = '/' := by simpa using stops
    refine ⟨plain, ?_, ?_⟩
    · rw [← namesOf_trimmed, cut, List.reverse_cons, List.append_assoc, List.singleton_append,
        namesOf_append, namesOf_plain plain, names_eq, above, namesOf_dropEnd, List.reverse_cons,
        namesOf_append]
      exact congrArg (· ++ [name]) (List.append_nil _).symm
    · rw [isAbsolute, ← head?_trimmed, cut, isAbsolute, above, List.head?_append,
        List.head?_reverse, List.head?_reverse, getLast?_dropEnd, List.getLast?_cons,
        Option.some_or]

/-- A name joined to a path is one more name on the way. -/
theorem names_join {name : String} (plain : Plain name) (base : Path) :
    (base.join name).names = base.names ++ [name] := by
  rw [join, isAbsolute_plain plain, Bool.false_or]
  split
  · rename_i empty
    rw [names_eq, names_eq, String.isEmpty_iff.mp empty, namesOf_plain plain]
    rfl
  · split
    · rename_i slash
      obtain ⟨front, text⟩ := List.getLast?_eq_some_iff.mp (beq_iff_eq.mp slash)
      rw [names_eq, names_eq, String.toList_append, text, List.append_assoc, List.singleton_append,
        namesOf_append, namesOf_append, namesOf_plain plain]
      exact congrArg (· ++ [name]) (List.append_nil _).symm
    · have text : (base.text ++ "/" ++ name).toList = base.text.toList ++ '/' :: name.toList := by
        simp [String.toList_append]
      rw [names_eq, names_eq, text, namesOf_append, namesOf_plain plain]

theorem isAbsolute_join {name : String} (plain : Plain name) (base : Path) :
    (base.join name).isAbsolute = base.isAbsolute := by
  have below := isAbsolute_plain plain
  rw [join, below, Bool.false_or]
  split
  · rename_i empty
    rw [below, isAbsolute, String.isEmpty_iff.mp empty]
    rfl
  · rename_i some
    have starts (text : List Char) : (base.text.toList ++ text).head? = base.text.toList.head? := by
      cases whole : base.text.toList with
      | nil => exact absurd (String.isEmpty_iff.mpr (String.toList_eq_nil_iff.mp whole)) some
      | cons c rest => rfl
    split
    · rw [isAbsolute, isAbsolute, String.toList_append, starts]
    · rw [isAbsolute, isAbsolute, String.toList_append, String.toList_append, List.append_assoc,
        starts]

theorem below_join {name : String} (plain : Plain name) (base : Path) :
    Below (base.join name) base name :=
  ⟨plain, names_join plain base, isAbsolute_join plain base⟩

/-- The way to a path passes the path itself and those it lies below. -/
inductive Passes : Path → Path → Prop
  | here (path : Path) : Passes path path
  | above {path parent other : Path} (isParent : path.parent? = some parent)
    (passes : Passes parent other) : Passes path other

section Join

variable {base : Path} {name : String} (tidy : Tidy base) (plain : Plain name)

include tidy plain

theorem text_join : (base.join name).text.toList = base.text.toList ++ '/' :: name.toList := by
  have notEmpty := tidy.isEmpty_text
  have last : (base.text.toList.getLast? == some '/') = false := by
    rw [beq_eq_false_iff_ne]
    exact tidy.last
  rw [join, isAbsolute_plain plain, notEmpty, last]
  simp only [Bool.or_self, Bool.false_eq_true, ↓reduceIte, String.toList_append, List.append_assoc]
  rfl

theorem trimmed_join :
    (base.join name).trimmed.reverse = name.toList.reverse ++ '/' :: base.text.toList.reverse := by
  rw [(tidy_join plain base).trimmed, text_join tidy plain, List.reverse_append,
    List.reverse_cons, List.append_assoc, List.singleton_append]

/-- The path before the last name. -/
theorem parent?_join : (base.join name).parent? = some base := by
  have reversed := trimmed_join tidy plain
  have notEmpty : (base.join name).trimmed ≠ [] := by
    rw [(tidy_join plain base).trimmed]
    exact (tidy_join plain base).notEmpty
  have notRoot : (base.join name).trimmed ≠ ['/'] := by
    intro root
    rw [(tidy_join plain base).trimmed] at root
    apply (tidy_join plain base).last
    rw [root]
    rfl
  have cut : (name.toList.reverse ++ '/' :: base.text.toList.reverse).dropWhile (· != '/') =
      '/' :: base.text.toList.reverse := by
    rw [List.dropWhile_append_of_pos]
    · rfl
    · intro c member
      rw [List.mem_reverse] at member
      rw [bne, plain.slash c member]
      rfl
  have dropped : dropEnd ('/' :: base.text.toList.reverse) = base.text.toList.reverse := by
    have front : dropEnd base.text.toList.reverse = base.text.toList.reverse := by
      have trimmed := congrArg List.reverse tidy.trimmed
      rwa [Path.trimmed, List.reverse_reverse] at trimmed
    cases reversed : base.text.toList.reverse with
    | nil => exact absurd (List.reverse_eq_nil_iff.mp reversed) tidy.notEmpty
    | cons c rest =>
      rw [reversed] at front
      rwa [dropEnd]
      exact fun none => nomatch none
  rw [parent?]
  simp only [reversed, cut, dropped, List.reverse_reverse, List.isEmpty_iff, notEmpty, notRoot,
    String.ofList_toList, Bool.or_eq_true, beq_iff_eq, or_self, ↓reduceIte]

/-- The last name. -/
theorem fileName?_join : (base.join name).fileName? = some name := by
  have cut : ('/' :: base.text.toList.reverse).takeWhile (· != '/') = [] := by simp
  have taken := takeWhile_plain plain cut
  rw [fileName?]
  simp only [trimmed_join tidy plain, taken, List.reverse_reverse, List.isEmpty_iff, plain.notEmpty,
    plain.noDot, plain.noDots, beq_iff_eq, Bool.or_eq_true, or_self, ↓reduceIte,
    String.ofList_toList]

theorem extension?_join : (base.join name).extension? = (Path.mk name).extension? := by
  rw [extension?, fileName?_join tidy plain, extension?, fileName?_plain plain]

end Join

end TaskLoop.Path
