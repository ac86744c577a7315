import TaskLoop.Proofs.Disk.Write

/-!
Lines that are added to a file, some of them cut short. Whatever an addition comes to, the file
consists of the whole lines and perhaps the beginning of one more, which the next addition cuts
off.
-/

set_option autoImplicit false

namespace TaskLoop

namespace Act

variable {ε ε' β γ : Type} {before : Host}

/-- Work comes to its end in a way that is asked for, or fails in one. -/
def Ends (act : Act ε β) (before : Host) (done : β → Host → Prop) (failed : ε → Host → Prop) :
    Prop :=
  match act before with
  | .ok value after => done value after
  | .error e after => failed e after

theorem Ends.of_ok {act : Act ε β} {done : β → Host → Prop} {failed : ε → Host → Prop}
    {after : Host} {value : β} (ends : act.Ends before done failed)
    (ran : act before = .ok value after) : done value after := by
  rwa [Ends, ran] at ends

theorem Ends.of_error {act : Act ε β} {done : β → Host → Prop} {failed : ε → Host → Prop}
    {after : Host} {e : ε} (ends : act.Ends before done failed)
    (ran : act before = .error e after) : failed e after := by
  rw [Ends, ran] at ends
  exact ends

theorem Ends.bind {act : Act ε β} {next : β → Act ε γ} {done : γ → Host → Prop}
    {failed : ε → Host → Prop}
    (first : act.Ends before (fun value between => (next value).Ends between done failed) failed) :
    (act >>= next).Ends before done failed := by
  simp only [Ends, Bind.bind, EStateM.bind] at first ⊢
  cases ran : act before with
  | ok value between =>
    rw [ran] at first
    exact first
  | error e between =>
    rw [ran] at first
    exact first

theorem Ends.get {next : Host → Act ε γ} {done : γ → Host → Prop} {failed : ε → Host → Prop}
    (rest : (next before).Ends before done failed) : (get >>= next).Ends before done failed := rest

theorem Ends.tryCatch {act : Act ε β} {handler : ε → Act ε β} {done : β → Host → Prop}
    {failed : ε → Host → Prop}
    (first : act.Ends before done fun e between => (handler e).Ends between done failed) :
    (tryCatch act handler).Ends before done failed := by
  simp only [Ends, Act.tryCatch_eq] at first ⊢
  cases ran : act before with
  | ok value between =>
    rw [ran] at first
    exact first
  | error e between =>
    rw [ran] at first
    exact first

theorem Ends.of_forall {act : Act ε β} {done : β → Host → Prop} {failed : ε → Host → Prop}
    (good : ∀ value after, done value after) (bad : ∀ e after, failed e after) :
    act.Ends before done failed := by
  rw [Ends]
  split
  · exact good _ _
  · exact bad _ _

theorem Ends.mono {act : Act ε β} {done done' : β → Host → Prop} {failed failed' : ε → Host → Prop}
    (ends : act.Ends before done failed) (good : ∀ value after, done value after → done' value after)
    (bad : ∀ e after, failed e after → failed' e after) : act.Ends before done' failed' := by
  simp only [Ends] at ends ⊢
  cases ran : act before with
  | ok value after =>
    rw [ran] at ends
    exact good value after ends
  | error e after =>
    rw [ran] at ends
    exact bad e after ends

theorem Ends.and {act : Act ε β} {done done' : β → Host → Prop} {failed failed' : ε → Host → Prop}
    (ends : act.Ends before done failed) (ends' : act.Ends before done' failed') :
    act.Ends before (fun value after => done value after ∧ done' value after)
      fun e after => failed e after ∧ failed' e after := by
  simp only [Ends] at ends ends' ⊢
  cases ran : act before with
  | ok value after =>
    rw [ran] at ends ends'
    exact ⟨ends, ends'⟩
  | error e after =>
    rw [ran] at ends ends'
    exact ⟨ends, ends'⟩

theorem Ends.mapError {change : ε → ε'} {act : Act ε β} {done : β → Host → Prop}
    {failed : ε' → Host → Prop} (ends : act.Ends before done fun e => failed (change e)) :
    (act.mapError change).Ends before done failed := by
  simp only [Ends, Act.mapError] at ends ⊢
  cases ran : act before with
  | ok value after =>
    rw [ran] at ends
    exact ends
  | error e after =>
    rw [ran] at ends
    exact ends

theorem Ends.within {doing : String} {act : Act DiskError β} {done : β → Host → Prop}
    {failed : Failure → Host → Prop}
    (ends : act.Ends before done fun e => failed ((Failure.root e.message).within doing)) :
    (act.within doing).Ends before done failed := Ends.mapError ends

end Act

/-- A coming step on files fails. -/
def Host.Faulty (host : Host) : Prop := ∃ count, some count ∈ host.faults

namespace Disk

open TaskLoop.Path (Tidy)
open Act (Ends)

variable {before after : Host} {path : Path} {line lines content : List UInt8}

/-! ### Directories -/

/-- One host is what the other came to be when directories were made where nothing stood. -/
structure Builds (before after : Host) : Prop where
  workingDir : after.disk.workingDir = before.disk.workingDir
  node? : ∀ place, after.disk.node? place = before.disk.node? place ∨
    before.disk.node? place = none ∧ after.disk.node? place = some .directory
  faults : after.faults <:+ before.faults

namespace Builds

theorem refl (host : Host) : Builds host host := ⟨rfl, fun _ => .inl rfl, List.suffix_refl _⟩

theorem trans {first second third : Host} (one : Builds first second) (two : Builds second third) :
    Builds first third := by
  refine ⟨two.workingDir.trans one.workingDir, fun place => ?_, two.faults.trans one.faults⟩
  rcases one.node? place with same | ⟨free, made⟩
  · rcases two.node? place with same' | ⟨free, made⟩
    · exact .inl (same'.trans same)
    · exact .inr ⟨same ▸ free, made⟩
  · rcases two.node? place with same' | ⟨free', -⟩
    · exact .inr ⟨free, same'.trans made⟩
    · rw [made] at free'
      cases free'

end Builds

/-- A step either leaves the disk alone, for a fault or because it cannot be done, or changes it as
it was to. -/
theorem step_ends {change : Disk → Except DiskError Disk} {done : Unit → Host → Prop}
    {failed : DiskError → Host → Prop}
    (bad : ∀ e, before.Faulty ∧ e = .noSpace ∨ change before.disk = .error e →
      failed e { before with faults := before.faults.tail })
    (good : ∀ disk, change before.disk = .ok disk →
      done () { before with faults := before.faults.tail, disk := disk }) :
    Ends (Host.step change) before done failed := by
  simp only [Ends, Host.step]
  split
  · rename_i ran
    split at ran
    · cases ran
    · split at ran
      · rename_i changed
        cases ran
        exact good _ changed
      · cases ran
  · rename_i ran
    split at ran
    · rename_i count fault
      cases ran
      exact bad _ (.inl ⟨⟨count, List.mem_of_head? (Option.join_eq_some_iff.mp fault)⟩, rfl⟩)
    · split at ran
      · cases ran
      · rename_i refused
        cases ran
        exact bad _ (.inr refused)

/-- One host is what the other came to be when directories were made on the way to a path. -/
structure BuildsWay (path : Path) (before after : Host) : Prop where
  workingDir : after.disk.workingDir = before.disk.workingDir
  node? : ∀ place, after.disk.node? place = before.disk.node? place ∨
    (before.disk.node? place = none ∧ after.disk.node? place = some .directory) ∧
      ∃ other, path.Passes other ∧ place = before.disk.destination other
  faults : after.faults <:+ before.faults

namespace BuildsWay

theorem builds (way : BuildsWay path before after) : Builds before after :=
  ⟨way.workingDir, fun place => (way.node? place).imp_right And.left, way.faults⟩

theorem refl (host : Host) : BuildsWay path host host :=
  ⟨rfl, fun _ => .inl rfl, List.suffix_refl _⟩

theorem trans {first second third : Host} (one : BuildsWay path first second)
    (two : BuildsWay path second third) : BuildsWay path first third := by
  refine ⟨two.workingDir.trans one.workingDir, fun place => ?_, two.faults.trans one.faults⟩
  rcases (one.builds.trans two.builds).node? place with same | changed
  · exact .inl same
  · rcases one.node? place with same | ⟨-, onWay⟩
    · rcases two.node? place with same' | ⟨-, other, passes, isPlace⟩
      · exact .inl (same'.trans same)
      · rw [destination_of_workingDir other one.workingDir] at isPlace
        exact .inr ⟨changed, other, passes, isPlace⟩
    · exact .inr ⟨changed, onWay⟩

end BuildsWay

theorem makeDirectory_buildsWay {other : Path} (passes : path.Passes other) (host : Host) :
    Ends (makeDirectory other) host (fun _ => BuildsWay path host) fun _ => BuildsWay path host := by
  have spent : BuildsWay path host { host with faults := host.faults.tail } :=
    ⟨rfl, fun _ => .inl rfl, List.tail_suffix _⟩
  refine step_ends (fun _ _ => spent) fun disk changed => ?_
  simp only [bind, Except.bind] at changed
  split at changed
  · cases changed
  · rename_i place located
    split at changed
    · cases changed
    · rename_i free
      cases changed
      refine ⟨rfl, fun another => ?_, List.tail_suffix _⟩
      by_cases same : another = place
      · subst same
        have below : another ≠ [] := ne_nil_of_node? (by rw [free]; exact nofun)
        exact .inr ⟨⟨free, node?_put_self _ _ below⟩, other, passes, locate_eq_ok located⟩
      · exact .inl (node?_put_of_ne _ _ same)

/-- What holds of the making of each directory on a way holds of the making of all. -/
theorem makeDirectoriesFrom_relates {relates : Host → Host → Prop}
    (refl : ∀ host, relates host host)
    (trans : ∀ first second third, relates first second → relates second third →
      relates first third) (depth : Nat) {path : Path}
    (each : ∀ other, path.Passes other → ∀ host,
      Ends (makeDirectory other) host (fun _ => relates host) fun _ => relates host) (host : Host) :
    Ends (makeDirectoriesFrom depth path) host (fun _ => relates host) fun _ => relates host := by
  induction depth generalizing path host with
  | zero => exact refl host
  | succ depth ih =>
    have settles {e : DiskError} {between : Host} (built : relates host between) :
        Ends (do if (← Host.files).isDirectory path then pure () else throw e : Act DiskError Unit)
          between (fun _ => relates host) fun _ => relates host := by
      refine Ends.bind ?_
      show Ends (if between.disk.isDirectory path = true then pure () else throw e) between _ _
      split
      · exact built
      · exact built
    have own := each path (.here path)
    rw [makeDirectoriesFrom]
    split
    · exact refl host
    · refine Ends.bind (Ends.tryCatch (Ends.bind ?_))
      refine (own host).mono (fun _ _ built => built) fun e between built => ?_
      cases e with
      | notFound =>
        dsimp only
        cases isParent : path.parent? with
        | none => exact built
        | some parent =>
          have upper := ih (fun other passes => each other (.above isParent passes)) between
          refine Ends.bind (upper.mono (fun _ housed above => ?_) fun _ _ => trans _ _ _ built)
          have onward := (own housed).mono (fun _ _ => trans _ _ _ (trans _ _ _ built above))
            fun _ _ => trans _ _ _ (trans _ _ _ built above)
          exact Ends.tryCatch (onward.mono (fun _ _ => id) fun _ _ => settles)
      | _ => exact settles built

theorem makeDirectoriesFrom_buildsWay (depth : Nat) (path : Path) (host : Host) :
    Ends (makeDirectoriesFrom depth path) host (fun _ => BuildsWay path host)
      fun _ => BuildsWay path host :=
  makeDirectoriesFrom_relates .refl (fun _ _ _ => .trans) depth
    (fun _ passes => makeDirectory_buildsWay passes) host

theorem makeDirectoriesFrom_builds (depth : Nat) (path : Path) (host : Host) :
    Ends (makeDirectoriesFrom depth path) host (fun _ => Builds host) fun _ => Builds host :=
  (makeDirectoriesFrom_buildsWay depth path host).mono (fun _ _ => BuildsWay.builds)
    fun _ _ => BuildsWay.builds

theorem makeParent_builds (path : Path) (host : Host) :
    Ends (makeParent path) host (fun _ => Builds host) fun _ => Builds host := by
  rw [makeParent]
  cases path.parent? with
  | none => exact Builds.refl host
  | some parent => exact Ends.within (makeDirectoriesFrom_builds _ parent host)

/-! ### Lines -/

/-- What stands at a place consists of lines and perhaps the beginning of one more. Without a
file there are no lines. -/
def Lined (lines : List UInt8) : Option Node → Prop
  | some (.file content) => ∃ torn, 10 ∉ torn ∧ content = lines ++ torn
  | _ => lines = []

/-- Where a path leads to there are lines and perhaps the beginning of one more. -/
def Standing (path : Path) (lines : List UInt8) (host : Host) : Prop :=
  Lined lines (host.disk.node? (host.disk.destination path))

theorem Standing.builds (standing : Standing path lines before) (built : Builds before after) :
    Standing path lines after := by
  have same := destination_of_workingDir path built.workingDir
  rw [Standing] at standing ⊢
  rw [same]
  rcases built.node? (before.disk.destination path) with kept | ⟨free, made⟩
  · rwa [kept]
  · rw [free] at standing
    rw [made]
    exact standing

/-- A path leads to a file at a place, of lines and perhaps the beginning of one more. -/
structure Opened (path : Path) (lines : List UInt8) (place : Place) (content : List UInt8)
    (host : Host) : Prop where
  located : host.disk.locate path = .ok place
  holds : host.disk.node? place = some (.file content)
  lined : Lined lines (some (.file content))

namespace Opened

variable {place : Place}

theorem standing (opened : Opened path lines place content before) :
    Standing path lines before := by
  rw [Standing, ← locate_eq_ok opened.located, opened.holds]
  exact opened.lined

theorem read (opened : Opened path lines place content before) :
    before.disk.read path = .ok content :=
  read_eq_ok.mpr ⟨place, opened.located, opened.holds⟩

/-- The file gets another content. -/
theorem put {others other : List UInt8} (opened : Opened path lines place content before)
    (tidy : Tidy path) (faults : List (Option Nat)) (lined : Lined others (some (.file other))) :
    Opened path others place other
      { before with faults := faults, disk := before.disk.put place (.file other) } := by
  have free : before.disk.node? place ≠ some .directory := by
    rw [opened.holds]
    exact nofun
  exact ⟨(Grows.put _ (.inr free)).locate tidy opened.located,
    node?_put_self _ _ (ne_nil_of_node? free), lined⟩

theorem spent (opened : Opened path lines place content before) (faults : List (Option Nat)) :
    Opened path lines place content { before with faults := faults } :=
  ⟨opened.located, opened.holds, opened.lined⟩

end Opened

theorem openFile_ends (tidy : Tidy path) (standing : Standing path lines before) :
    Ends (openFile path) before
      (fun found after => Opened path lines found.1 found.2 after ∧
        after.faults <:+ before.faults) fun _ => Standing path lines := by
  refine Ends.bind ?_
  cases located : before.disk.locate path with
  | error e =>
    simp only [Ends, Act.look, located]
    exact standing
  | ok place =>
    have here : Lined lines (before.disk.node? place) := by
      rw [locate_eq_ok located]
      exact standing
    simp only [Ends, Act.look, located]
    refine Ends.bind (step_ends (fun _ _ => standing) fun disk changed => ?_)
    refine Ends.bind ?_
    cases stands : before.disk.node? place with
    | none =>
      rw [stands] at changed here
      cases changed
      have top : place ≠ [] := ne_nil_of_node? fun held => by cases stands.symm.trans held
      have made : (before.disk.put place (.file [])).node? place = some (.file []) :=
        node?_put_self _ _ top
      have grows : Grows before.disk (before.disk.put place (.file [])) := by
        refine .put _ (.inr ?_)
        simp [stands]
      simp only [Ends, Host.files, made]
      refine ⟨⟨grows.locate tidy located, made, ?_⟩, List.tail_suffix _⟩
      exact ⟨[], List.not_mem_nil, by rw [here]; rfl⟩
    | some node =>
      cases node with
      | directory =>
        rw [stands] at changed
        cases changed
      | file content =>
        rw [stands] at changed here
        cases changed
        simp only [Ends, Host.files, stands]
        exact ⟨⟨located, stands, here⟩, List.tail_suffix _⟩

/-- Behind whole lines the beginning of a line is cut off. -/
theorem completeLines_append {torn : List UInt8} (whole : lines = [] ∨ lines.getLast? = some 10)
    (oneLine : 10 ∉ torn) : completeLines (lines ++ torn) = lines := by
  have inside : ∀ byte ∈ torn.reverse, (byte != 10) = true := by
    intro byte member
    rw [bne_iff_ne]
    rintro rfl
    exact oneLine (List.mem_reverse.mp member)
  rw [completeLines, List.reverse_append, List.dropWhile_append_of_pos inside]
  rcases whole with rfl | last
  · rfl
  · rw [← List.head?_reverse] at last
    cases reversed : lines.reverse with
    | nil =>
      rw [reversed] at last
      cases last
    | cons byte rest =>
      rw [reversed] at last
      cases last
      rw [List.dropWhile_cons_of_neg (by decide), ← reversed, List.reverse_reverse]

/-- The whole lines of a content are whole. -/
theorem whole_completeLines (content : List UInt8) :
    completeLines content = [] ∨ (completeLines content).getLast? = some 10 := by
  rw [completeLines, List.getLast?_reverse]
  cases rest : content.reverse.dropWhile (· != 10) with
  | nil => exact .inl rfl
  | cons byte rest' =>
    have feed := List.head?_dropWhile_not (· != 10) content.reverse
    rw [rest] at feed
    simp only [List.head?_cons, bne_eq_false_iff_eq] at feed
    exact .inr (congrArg some feed)

/-- A content is its whole lines and perhaps the beginning of one more. -/
theorem lined_completeLines (content : List UInt8) :
    Lined (completeLines content) (some (.file content)) := by
  refine ⟨(content.reverse.takeWhile (· != 10)).reverse, fun member => ?_, ?_⟩
  · have others := List.all_takeWhile (p := (· != 10)) (l := content.reverse)
    have other := List.all_eq_true.mp others _ (List.mem_reverse.mp member)
    exact absurd other (by decide)
  · rw [completeLines, ← List.reverse_append, List.takeWhile_append_dropWhile,
      List.reverse_reverse]

/-- The whole lines of the file a path leads to, none without one. -/
def linesOf (disk : Disk) (path : Path) : List UInt8 :=
  match disk.read path with
  | .ok content => completeLines content
  | .error _ => []

theorem whole_linesOf (disk : Disk) (path : Path) :
    disk.linesOf path = [] ∨ (disk.linesOf path).getLast? = some 10 := by
  rw [linesOf]
  split
  · exact whole_completeLines _
  · exact .inl rfl

/-- A file that ends with a line feed, or has no content, ends with a whole line. -/
theorem eq_of_not_torn {torn : List UInt8} (oneLine : 10 ∉ torn)
    (ends : ¬ ((lines ++ torn).getLast?.any (· != 10)) = true) : lines ++ torn = lines := by
  cases last : torn.getLast? with
  | none => rw [List.getLast?_eq_none_iff.mp last, List.append_nil]
  | some byte =>
    rw [List.getLast?_append, last, Option.some_or, Option.any_some, bne_iff_ne,
      Decidable.not_not] at ends
    subst ends
    exact absurd (List.mem_of_getLast? last) oneLine

theorem writeBytes_ends {place : Place} {bytes : List UInt8} {done : Unit → Host → Prop}
    {failed : DiskError → Host → Prop} (holds : before.disk.node? place = some (.file content))
    (bad : ∀ count, some count ∈ before.faults → failed .noSpace { before with
      faults := before.faults.tail
      disk := before.disk.put place (.file (content ++ bytes.take count)) })
    (good : done () { before with
      faults := before.faults.tail
      disk := before.disk.put place (.file (content ++ bytes)) }) :
    Ends (Host.writeBytes place bytes) before done failed := by
  simp only [Ends, Host.writeBytes, holds]
  cases fault : before.faults.head?.join with
  | none => exact good
  | some count => exact bad count (List.mem_of_head? (Option.join_eq_some_iff.mp fault))

theorem standing_of_read (content : before.disk.read path = .ok lines) :
    Standing path lines before := by
  obtain ⟨place, located, stands⟩ := read_eq_ok.mp content
  rw [Standing, ← locate_eq_ok located, stands]
  exact ⟨[], List.not_mem_nil, (List.append_nil _).symm⟩

/-- A line that is added stands behind the lines that were there. When its addition fails no more
than its beginning stands behind them, or all of it if the failure comes that late. -/
theorem appendLine_ends (tidy : Tidy path) (whole : lines = [] ∨ lines.getLast? = some 10)
    (oneLine : 10 ∉ line) (standing : Standing path lines before) :
    Ends (appendLine path line) before
      (fun _ after => after.disk.read path = .ok (lines ++ (line ++ [10])))
      fun _ after => Standing path lines after ∨
        after.disk.read path = .ok (lines ++ (line ++ [10])) ∧
          ∃ count, some count ∈ before.faults ∧ line.length < count := by
  refine Ends.bind ((makeParent_builds path before).mono (fun _ housed built => ?_)
    fun _ _ built => .inl (standing.builds built))
  refine Ends.bind (Ends.within ((openFile_ends tidy (standing.builds built)).mono ?_
    fun _ _ => .inl))
  rintro ⟨place, content⟩ opened ⟨isOpen, fewer⟩
  have spent := fewer.trans built.faults
  obtain ⟨torn, part, rfl⟩ := isOpen.lined
  -- The line is written behind whole lines.
  have writes {host : Host} (ready : Opened path lines place lines host)
      (rest : host.faults <:+ before.faults) :
      Ends ((Host.writeBytes place (line ++ [10])).within s!"Failed to append to {path.text}") host
        (fun _ after => after.disk.read path = .ok (lines ++ (line ++ [10])))
        fun _ after => Standing path lines after ∨
          after.disk.read path = .ok (lines ++ (line ++ [10])) ∧
            ∃ count, some count ∈ before.faults ∧ line.length < count := by
    have added (faults : List (Option Nat)) :=
      (ready.put tidy faults ⟨[], List.not_mem_nil, (List.append_nil _).symm⟩ :
        Opened path (lines ++ (line ++ [10])) _ _ _).read
    refine Ends.within (writeBytes_ends ready.holds (fun count found => ?_) (added _))
    rcases Nat.lt_or_ge line.length count with late | proper
    · have all : (line ++ [10]).length ≤ count := by
        rw [List.length_append, List.length_singleton]
        exact late
      rw [List.take_of_length_le all]
      exact .inr ⟨added _, count, rest.subset found, late⟩
    · rw [List.take_append_of_le_length proper]
      refine .inl (ready.put tidy _ ?_).standing
      exact ⟨line.take count, fun member => oneLine (List.mem_of_mem_take member), rfl⟩
  dsimp only
  split
  · refine Ends.bind (Ends.within (step_ends (fun _ _ => .inl (isOpen.spent _).standing)
      fun disk changed => ?_))
    cases changed
    rw [completeLines_append whole part]
    exact writes (isOpen.put tidy _ ⟨[], List.not_mem_nil, (List.append_nil _).symm⟩)
      ((List.tail_suffix _).trans spent)
  · rename_i ends
    rw [eq_of_not_torn part ends] at isOpen
    exact writes isOpen spent

end Disk

end TaskLoop
