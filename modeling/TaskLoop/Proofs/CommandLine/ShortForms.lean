import TaskLoop.CommandLine.Checkpoints
import TaskLoop.CommandLine.Progress
import TaskLoop.CommandLine.Run
import TaskLoop.Proofs.Checkpoint.Confined
import TaskLoop.Proofs.Engine.Interruption
import TaskLoop.Proofs.Store.History

/-!
Short forms of identifiers, which are their first eight bytes. An identifier has none if the eighth
byte is not the last of a character, and a command that comes to such an identifier ends there: a
table is shown up to its row, and a run is not taken up.
-/

set_option autoImplicit false

namespace TaskLoop.CommandLine

open Text.Utf8 (CutOf encode decode? encode_append encode_cons decode?_encode decode?_cut
  prefix_encode)

/-! ### Identifiers -/

/-- The short form of an identifier would end inside one of its characters. -/
def EndsInside (id : String) : Prop :=
  ∃ front c rest, id.toList = front ++ c :: rest ∧ (encode front).length < shortLength ∧
    shortLength < (encode (front ++ [c])).length

theorem encode_singleton (c : Char) : encode [c] = String.utf8EncodeChar c :=
  List.flatMap_singleton _ _

/-- The bytes up to the eighth are whole characters and a part of the next. -/
theorem shortId?_of_endsInside {id : String} (inside : EndsInside id) : shortId? id = none := by
  obtain ⟨front, c, rest, text, before, behind⟩ := inside
  have whole : encode id.toList = encode front ++ (String.utf8EncodeChar c ++ encode rest) := by
    rw [text, encode_append, encode_cons]
  rw [encode_append, encode_singleton, List.length_append] at behind
  have long : ¬ (encode id.toList).length ≤ shortLength := by
    rw [whole]
    simp only [List.length_append]
    omega
  have part : CutOf ((String.utf8EncodeChar c).take (shortLength - (encode front).length)) c := by
    refine ⟨List.take_prefix _ _, fun none => ?_, fun all => ?_⟩
    · have length := congrArg List.length none
      simp only [List.length_take, List.length_nil] at length
      omega
    · have length := congrArg List.length all
      simp only [List.length_take] at length
      omega
  have taken : (encode id.toList).take shortLength =
      encode front ++ (String.utf8EncodeChar c).take (shortLength - (encode front).length) := by
    rw [whole, List.take_append, List.take_of_length_le (Nat.le_of_lt before),
      List.take_append_of_le_length]
    omega
  rw [shortId?]
  simp only [if_neg long, taken, decode?_cut part, Option.map_none]

/-- Otherwise the short form is made of the first characters of the identifier. -/
theorem exists_shortId? {id : String} (outside : ¬ EndsInside id) : ∃ short,
    shortId? id = some short ∧ short.toList <+: id.toList ∧
      (encode short.toList).length = min shortLength (encode id.toList).length := by
  rw [shortId?]
  by_cases few : (encode id.toList).length ≤ shortLength
  · exact ⟨id, if_pos few, List.prefix_rfl, (Nat.min_eq_right few).symm⟩
  have length : ((encode id.toList).take shortLength).length = shortLength := by
    rw [List.length_take]
    omega
  obtain ⟨front, rest, text, taken | ⟨c, others, part, isRest, cut, taken⟩⟩ :=
    prefix_encode (List.take_prefix shortLength (encode id.toList))
  · refine ⟨String.ofList front, ?_, ?_, ?_⟩
    · simp only [if_neg few, taken, decode?_encode, Option.map_some]
    · rw [String.toList_ofList, text]
      exact List.prefix_append front rest
    · rw [String.toList_ofList, ← taken, length]
      omega
  · have proper : part.length < (String.utf8EncodeChar c).length := by
      apply Nat.lt_of_le_of_ne cut.start.length_le
      exact fun full => cut.notAll (cut.start.eq_of_length full)
    have some := List.length_pos_iff.mpr cut.some
    rw [taken, List.length_append] at length
    refine absurd ⟨front, c, others, isRest ▸ text, ?_, ?_⟩ outside
    · omega
    · rw [encode_append, encode_singleton, List.length_append]
      omega

theorem shortId?_eq_none_iff {id : String} : shortId? id = none ↔ EndsInside id := by
  constructor
  · intro none
    by_cases inside : EndsInside id
    · exact inside
    · obtain ⟨short, some, -⟩ := exists_shortId? inside
      rw [none] at some
      cases some
  · exact shortId?_of_endsInside

/-- The short form of an identifier, where it has one. -/
def shortForm (id : String) : String := (shortId? id).getD ""

theorem shortId_inside {id : String} (inside : EndsInside id) (console : Console) :
    shortId id console = .error .splitCharacter console := by
  rw [shortId, shortId?_of_endsInside inside]
  rfl

theorem shortId_outside {id : String} (outside : ¬ EndsInside id) (console : Console) :
    shortId id console = .ok (shortForm id) console := by
  obtain ⟨short, some, -⟩ := exists_shortId? outside
  rw [shortId, shortForm, some]
  rfl

/-! ### Commands -/

section Commands

variable {β γ : Type} {console between after : Console} {e : CommandError}

theorem bind_of_ok {command : Command β} {next : β → Command γ} {value : β}
    (ran : command console = .ok value between) :
    (command >>= next) console = next value between := by
  simp only [bind, EStateM.bind, ran]

theorem bind_of_error {command : Command β} {next : β → Command γ}
    (failed : command console = .error e between) :
    (command >>= next) console = .error e between := by
  simp only [bind, EStateM.bind, failed]

theorem onHost_eq_ok {ε : Type} {message : ε → String} {act : Act ε β} {value : β} :
    onHost message act console = .ok value after ↔
      ∃ host, act console.host = .ok value host ∧ after = { console with host := host } := by
  cases ran : act console.host with
  | ok other host =>
    simp only [onHost, ran, EStateM.Result.ok.injEq]
    constructor
    · rintro ⟨rfl, rfl⟩
      exact ⟨host, ⟨rfl, rfl⟩, rfl⟩
    · rintro ⟨_, ⟨rfl, rfl⟩, rfl⟩
      exact ⟨rfl, rfl⟩
  | error e host => simp [onHost, ran]

/-- The lines that a console has when more are printed. -/
def Console.with (console : Console) (lines : List String) : Console :=
  { console with lines := console.lines ++ lines }

theorem printLines_eq (lines : List String) (console : Console) :
    printLines lines console = .ok () (console.with lines) := rfl

theorem with_append (console : Console) (first second : List String) :
    (console.with first).with second = console.with (first ++ second) := by
  rw [Console.with, Console.with, Console.with, List.append_assoc]

/-- Rows are printed one by one, and then the loop goes on. -/
theorem forIn_rows {row : β → String} {body : β → PUnit → Command (ForInStep PUnit)}
    (front rest : List β) (each : ∀ item ∈ front, ∀ console,
      body item ⟨⟩ console = .ok (.yield ⟨⟩) (console.with [row item])) (console : Console) :
    forIn (front ++ rest) PUnit.unit body console =
      forIn rest PUnit.unit body (console.with (front.map row)) := by
  induction front generalizing console with
  | nil =>
    rw [List.map_nil, Console.with, List.append_nil]
    rfl
  | cons item front ih =>
    obtain ⟨first, others⟩ := List.forall_mem_cons.mp each
    rw [List.cons_append, List.forIn_cons]
    apply (bind_of_ok (first console)).trans
    show forIn (front ++ rest) PUnit.unit body _ = _
    rw [ih others, with_append, List.map_cons, List.singleton_append]

/-- What the printing of a table comes to: all rows are printed, or those before the first that is
broken. -/
structure Tabulates (answer : EStateM.Result CommandError Console Unit) (begun : Console)
    (head : List (Nat × String)) (broken : β → Prop) (row : β → String) (items : List β) :
    Prop where
  whole : (∀ item ∈ items, ¬ broken item) →
    answer = .ok () (begun.with ("" :: tableHead head ++ items.map row ++ [""]))
  partly : ∀ front item rest, items = front ++ item :: rest → (∀ other ∈ front, ¬ broken other) →
    broken item → answer = .error .splitCharacter
      (begun.with ("" :: tableHead head ++ front.map row))

theorem tabulates {head : List (Nat × String)} {broken : β → Prop} {row : β → String}
    {body : β → PUnit → Command (ForInStep PUnit)} (items : List β) (begun : Console)
    (prints : ∀ item, ¬ broken item → ∀ console,
      body item ⟨⟩ console = .ok (.yield ⟨⟩) (console.with [row item]))
    (stops : ∀ item, broken item → ∀ console,
      body item ⟨⟩ console = .error .splitCharacter console) :
    Tabulates ((do
        print ""
        printLines (tableHead head)
        forIn items PUnit.unit body
        print "" : Command Unit) begun) begun head broken row items := by
  have begins : (do
      print ""
      printLines (tableHead head)
      forIn items PUnit.unit body
      print "" : Command Unit) begun = (do
        forIn items PUnit.unit body
        print "" : Command Unit) (begun.with ("" :: tableHead head)) := by
    apply (bind_of_ok (printLines_eq [""] begun)).trans
    apply (bind_of_ok (printLines_eq _ _)).trans
    rw [with_append]
    rfl
  rw [begins]
  constructor
  · intro each
    have printed := forIn_rows items [] (fun item member => prints item (each item member))
      (begun.with ("" :: tableHead head))
    rw [List.append_nil] at printed
    apply (bind_of_ok printed).trans
    rw [print, printLines_eq, with_append, with_append, ← List.append_assoc]
  · rintro front item rest rfl each isBroken
    apply bind_of_error
    have printed := forIn_rows front (item :: rest)
      (fun item member => prints item (each item member)) (begun.with ("" :: tableHead head))
    rw [printed, List.forIn_cons, with_append]
    exact bind_of_error (stops item isBroken _)

/-! ### Tables -/

variable {project : Project}

/-- The row of a finished iteration. -/
def historyRow (entry : History.Entry) : String :=
  historyLine (shortForm entry.session) entry.iteration

/-- The row of a checkpoint. -/
def checkpointRow (handle : CheckpointHandle) : String :=
  Text.columns [(10, shortForm handle.id), (10, shortForm handle.session),
    (20, Text.cut 20 handle.label), (24, String.ofList handle.createdAt.plainText)]

theorem showHistory_tabulates {session : Option String} {limit : Option Nat}
    {entries : List History.Entry}
    (read : onHost Failure.message (History.read project.historyFile) console = .ok entries after)
    (some : (selectEntries session limit entries).1 ≠ []) :
    Tabulates (showHistory project session limit console) after historyHead
      (fun entry => EndsInside entry.session) historyRow
      (selectEntries session limit entries).2 := by
  have found : ¬ (selectEntries session limit entries).1.isEmpty = true := by
    rwa [List.isEmpty_iff]
  rw [showHistory, bind_of_ok read]
  simp only [if_neg found]
  apply tabulates
  · intro entry outside console
    rw [bind_of_ok (shortId_outside outside console)]
    rfl
  · intro entry inside console
    exact bind_of_error (shortId_inside inside console)

/-- The checkpoints that are listed: those of one session or of all. -/
def listing (project : Project) (session : Option String) :
    Act CheckpointError (List CheckpointHandle) :=
  match session with
  | some session => Checkpoint.list project.checkpointsDir session
  | none => Checkpoint.listAll project.checkpointsDir

theorem listCheckpoints_eq (project : Project) (session : Option String) :
    listCheckpoints project session = (do
      let handles ← onHost CheckpointError.message (listing project session)
      if handles.isEmpty then print "No checkpoints found."
      else
        print ""
        printLines (tableHead checkpointHead)
        for handle in handles do
          let id ← shortId handle.id
          let session ← shortId handle.session
          print (Text.columns [(10, id), (10, session), (20, Text.cut 20 handle.label),
            (24, String.ofList handle.createdAt.plainText)])
        print "") := by
  cases session <;> rfl

theorem listCheckpoints_tabulates {session : Option String} {handles : List CheckpointHandle}
    (listed : onHost CheckpointError.message (listing project session) console =
      .ok handles after) (some : handles ≠ []) :
    Tabulates (listCheckpoints project session console) after checkpointHead
      (fun handle => EndsInside handle.id ∨ EndsInside handle.session) checkpointRow handles := by
  have found : ¬ handles.isEmpty = true := by
    rwa [List.isEmpty_iff]
  rw [listCheckpoints_eq, bind_of_ok listed]
  simp only [if_neg found]
  apply tabulates
  · intro handle outside console
    rw [not_or] at outside
    rw [bind_of_ok (shortId_outside outside.1 console),
      bind_of_ok (shortId_outside outside.2 console)]
    rfl
  · intro handle inside console
    by_cases own : EndsInside handle.id
    · exact bind_of_error (shortId_inside own console)
    · rw [bind_of_ok (shortId_outside own console)]
      exact bind_of_error (shortId_inside (inside.resolve_left own) console)

/-! ### Runs -/

/-- A command that may fail, but not over an identifier, and what holds of its result. -/
def Avoids (command : Command β) (done : β → Prop) : Prop := ∀ console,
  match command console with
  | .ok value _ => done value
  | .error e _ => e ≠ .splitCharacter

namespace Avoids

theorem bind {command : Command β} {next : β → Command γ} {done : β → Prop} {done' : γ → Prop}
    (first : Avoids command done) (rest : ∀ value, done value → Avoids (next value) done') :
    Avoids (command >>= next) done' := by
  intro console
  have ends := first console
  cases ran : command console with
  | ok value between =>
    rw [ran] at ends
    rw [bind_of_ok ran]
    exact rest value ends between
  | error e between =>
    rw [ran] at ends
    rw [bind_of_error ran]
    exact ends

theorem printLines (lines : List String) : Avoids (printLines lines) fun _ => True :=
  fun _ => trivial

theorem onHost {ε : Type} {message : ε → String} {act : Act ε β} {done : β → Prop}
    (each : ∀ host value after, act host = .ok value after → done value) :
    Avoids (onHost message act) done := by
  intro console
  cases ran : act console.host with
  | ok value host =>
    simp only [CommandLine.onHost, ran]
    exact each _ _ _ ran
  | error e host =>
    simp only [CommandLine.onHost, ran]
    exact CommandError.noConfusion

theorem shortId {id : String} (outside : ¬ EndsInside id) : Avoids (shortId id) fun _ => True := by
  intro console
  rw [shortId_outside outside]
  trivial

theorem not_split {command : Command β} (avoids : Avoids command fun _ => True) :
    command console ≠ .error .splitCharacter after := by
  intro split
  have ends := avoids console
  rw [split] at ends
  exact ends rfl

end Avoids

theorem openEngine_avoids (project : Project) : Avoids (openEngine project) fun _ => True :=
  (Avoids.onHost fun _ _ _ _ => trivial).bind fun _ _ => Avoids.onHost fun _ _ _ _ => trivial

/-- What is said of a session that is taken up. -/
def resumingLine (session : Session) : String :=
  s!"Resuming session {shortForm session.id} after {session.completedIterations} iteration(s)"

theorem chooseSession_inside {live : LiveEngine Unit} {options : RunOptions} {reference : String}
    {session : Session} {iteration : Option Iteration}
    (taken : onHost EngineError.message (live.engine.project.resumeSession reference) console =
      .ok (session, iteration) after) (inside : EndsInside session.id) :
    chooseSession live { options with resume := some reference } console =
      .error .splitCharacter after := by
  apply (bind_of_ok taken).trans
  exact bind_of_error (shortId_inside inside after)

theorem chooseSession_outside {live : LiveEngine Unit} {options : RunOptions} {reference : String}
    {session : Session} {iteration : Option Iteration}
    (taken : onHost EngineError.message (live.engine.project.resumeSession reference) console =
      .ok (session, iteration) after) (outside : ¬ EndsInside session.id) :
    chooseSession live { options with resume := some reference } console =
      .ok session (after.with [resumingLine session]) := by
  apply (bind_of_ok taken).trans
  apply (bind_of_ok (shortId_outside outside after)).trans
  rfl

/-- A run is summed up under the identifier of its session. -/
theorem session_of_run {live : LiveEngine Unit} {session : Session} {host : Host}
    {summary : RunSummary} {later : LiveEngine Unit} {state : EngineState Unit Float}
    (worked : live.work live.engine.run session () host = (.ok summary, later, state)) :
    summary.session = session.id := by
  rw [LiveEngine.work] at worked
  split at worked
  · rename_i finished
    cases worked
    obtain ⟨_, _, got, finished⟩ := Step.bind_eq_ok.1 finished
    cases got
    dsimp only at finished
    split at finished
    · cases finished
    · obtain ⟨_, _, -, finished⟩ := Step.bind_eq_ok.1 finished
      obtain ⟨_, _, -, finished⟩ := Step.bind_eq_ok.1 finished
      obtain ⟨_, _, -, finished⟩ := Step.bind_eq_ok.1 finished
      cases finished
      rfl
  · cases worked

/-- What a run does with the session that was chosen. -/
def runChosen (project : Project) (live : LiveEngine Unit) (session : Session) : Command Unit := do
  printLines (openingLines project session)
  let summary ← onHost EngineError.message fun host =>
    match live.work live.engine.run session () host with
    | (.ok summary, _, state) => .ok summary state.host
    | (.error e, _, state) => .error e state.host
  printLines (summary.results.map resultLine)
  print ""
  let id ← shortId summary.session
  printLines [s!"Session {id} finished: {summary.reason.message} "
    ++ s!"({summary.successes}/{summary.results.length} successful)",
    s!"Checkpoint: {summary.finalCheckpoint.path.text}"]

theorem runSession_eq (project : Project) (options : RunOptions) :
    runSession project options = (do
      let live ← openEngine project
      let session ← chooseSession live options
      runChosen project live session) := rfl

/-- Once the session is chosen its identifier is cut as it was before, so nothing new comes of it. -/
theorem runChosen_avoids {live : LiveEngine Unit} {session : Session}
    (outside : ¬ EndsInside session.id) :
    Avoids (runChosen project live session) fun _ => True := by
  have same : Avoids (onHost EngineError.message fun host =>
      match live.work live.engine.run session () host with
      | (.ok summary, _, state) => .ok summary state.host
      | (.error e, _, state) => .error e state.host)
        fun (summary : RunSummary) => summary.session = session.id := by
    apply Avoids.onHost
    intro host summary after ran
    split at ran
    · rename_i worked
      cases ran
      exact session_of_run worked
    · cases ran
  apply Avoids.bind (Avoids.printLines _)
  intro _ _
  apply Avoids.bind same
  intro summary same
  have outside : ¬ EndsInside summary.session := same ▸ outside
  apply Avoids.bind (Avoids.printLines _)
  intro _ _
  apply Avoids.bind (Avoids.printLines _)
  intro _ _
  apply Avoids.bind (Avoids.shortId outside)
  intro _ _
  exact Avoids.printLines _

/-- A run is given up over an identifier just if it takes up a session whose identifier has no short
form, and then before the session goes on. -/
theorem runSession_split_iff (project : Project) (options : RunOptions) (reference : String)
    (console after : Console) :
    runSession project { options with resume := some reference } console =
        .error .splitCharacter after ↔
      ∃ live opened session iteration, openEngine project console = .ok live opened ∧
        onHost EngineError.message (live.engine.project.resumeSession reference) opened =
          .ok (session, iteration) after ∧ EndsInside session.id := by
  rw [runSession_eq]
  constructor
  · intro split
    cases opens : openEngine project console with
    | error e between =>
      rw [bind_of_error opens] at split
      cases split
      exact absurd opens (openEngine_avoids project).not_split
    | ok live opened =>
    rw [bind_of_ok opens] at split
    cases takes : onHost EngineError.message (live.engine.project.resumeSession reference)
      opened with
    | error e between =>
      have failed : chooseSession live { options with resume := some reference } opened =
        .error e between := bind_of_error takes
      rw [bind_of_error failed] at split
      cases split
      have avoids : Avoids (onHost EngineError.message
          (live.engine.project.resumeSession reference)) fun _ => True :=
        Avoids.onHost fun _ _ _ _ => trivial
      exact absurd takes avoids.not_split
    | ok taken between =>
    obtain ⟨session, iteration⟩ := taken
    by_cases inside : EndsInside session.id
    · rw [bind_of_error (chooseSession_inside takes inside)] at split
      cases split
      exact ⟨live, opened, session, iteration, rfl, takes, inside⟩
    · rw [bind_of_ok (chooseSession_outside takes inside)] at split
      exact absurd split (runChosen_avoids inside).not_split
  · rintro ⟨live, opened, session, iteration, opens, taken, inside⟩
    rw [bind_of_ok opens]
    exact bind_of_error (chooseSession_inside taken inside)

/-- An identifier has a short form unless it would end inside a character. Tables of iterations and
of checkpoints are printed whole, or up to the first identifier that has none, and a run is given up
over an identifier just if that of the session it takes up has none. -/
theorem short_forms_decide (project : Project) (console : Console) :
    (∀ id, (shortId? id = none ↔ EndsInside id) ∧ (¬ EndsInside id →
      (shortForm id).toList <+: id.toList ∧
        (encode (shortForm id).toList).length = min shortLength (encode id.toList).length)) ∧
    (∀ session limit entries after,
      onHost Failure.message (History.read project.historyFile) console = .ok entries after →
      (selectEntries session limit entries).1 ≠ [] →
      Tabulates (showHistory project session limit console) after historyHead
        (fun entry => EndsInside entry.session) historyRow
        (selectEntries session limit entries).2) ∧
    (∀ session handles after,
      onHost CheckpointError.message (listing project session) console = .ok handles after →
      handles ≠ [] →
      Tabulates (listCheckpoints project session console) after checkpointHead
        (fun handle => EndsInside handle.id ∨ EndsInside handle.session) checkpointRow handles) ∧
    ∀ (options : RunOptions) reference after,
      runSession project { options with resume := some reference } console =
          .error .splitCharacter after ↔
        ∃ live opened session iteration, openEngine project console = .ok live opened ∧
          onHost EngineError.message (live.engine.project.resumeSession reference) opened =
            .ok (session, iteration) after ∧ EndsInside session.id := by
  refine ⟨fun id => ⟨shortId?_eq_none_iff, fun outside => ?_⟩, fun _ _ _ _ read some => ?_,
    fun _ _ _ listed some => ?_, fun _ _ _ => ?_⟩
  · obtain ⟨short, isShort, start, length⟩ := exists_shortId? outside
    rw [shortForm, isShort, Option.getD_some]
    exact ⟨start, length⟩
  · exact showHistory_tabulates read some
  · exact listCheckpoints_tabulates listed some
  · exact runSession_split_iff project _ _ console _

end Commands

end TaskLoop.CommandLine

namespace TaskLoop.Sample

open CommandLine
open Checkpoint (handleIn?_eq_some listAllFrom_of_names listFrom_of_names)

/-- The entry of a first iteration of a session. -/
def entryOf (id : String) : History.Entry := { entry with session := id }

/-- A host with a project's state: the history of one iteration, and one checkpoint. -/
def keptHost (id : String) : Host :=
  { tickingHost with disk := ⟨.ofList [([".reloop"], .directory),
    ([".reloop", "history.jsonl"], .file (entryOf id).record),
    ([".reloop", "checkpoints"], .directory), ([".reloop", "checkpoints", "s"], .directory),
    ([".reloop", "checkpoints", "s", "c.json"],
      .file (Text.Utf8.encode (posted id).toJson.fileText))], []⟩ }

def keptPath : Path := ⟨".reloop/checkpoints/s/c.json"⟩

def keptPlace : Place := [".reloop", "checkpoints", "s", "c.json"]

theorem read_kept (id : String) : onHost Failure.message (History.read bareProject.historyFile)
    ⟨keptHost id, []⟩ = .ok [entryOf id] ⟨keptHost id, []⟩ := by
  have fits : ∀ other ∈ [entryOf id], other.Fits := List.forall_mem_singleton.mpr entry_fits
  have content : (keptHost id).disk.read bareProject.historyFile = .ok (entryOf id).record := rfl
  have record : (entryOf id).record =
      Text.Utf8.encode (Text.ended ([entryOf id].map History.Entry.line)) := by
    rw [← History.records_eq, List.flatMap_singleton]
  rw [record] at content
  have read := History.read_of_text content (Text.Utf8.decode?_encode _) (History.ofText_ended fits)
  exact onHost_eq_ok.mpr ⟨_, read, rfl⟩

/-- The checkpoint is read where its file stands. -/
theorem loadFrom_kept {id : String} {disk : Disk} (located : disk.locate keptPath = .ok keptPlace)
    (stands : disk.node? keptPlace =
      some (.file (Text.Utf8.encode (posted id).toJson.fileText))) :
    Checkpoint.loadFrom disk keptPath = .ok (posted id) := by
  apply loadFrom_posted
  have held := Disk.read_eq_ok.mpr ⟨_, located, stands⟩
  exact Disk.readText_eq_ok.mpr ⟨_, held, Text.Utf8.decode?_encode _⟩

theorem list_kept (id : String) : onHost CheckpointError.message (listing bareProject none)
    ⟨keptHost id, []⟩ = .ok [(posted id).handle keptPath] ⟨keptHost id, []⟩ := by
  have json : keptPath.extension? = some "json" := by decide
  have handle : Checkpoint.handleIn? (keptHost id).disk keptPath =
      some ((posted id).handle keptPath) :=
    handleIn?_eq_some.mpr ⟨json, _, loadFrom_kept rfl rfl, rfl⟩
  have sessions : Checkpoint.namesIn (keptHost id).disk bareProject.checkpointsDir = .ok ["s"] :=
    rfl
  have files : Checkpoint.namesIn (keptHost id).disk (bareProject.checkpointsDir.join "s") =
      .ok ["c.json"] := rfl
  have isDirectory : (keptHost id).disk.isDirectory (bareProject.checkpointsDir.join "s") = true :=
    rfl
  have path : (bareProject.checkpointsDir.join "s").join "c.json" = keptPath := by decide
  have own := listFrom_of_names files
  rw [List.filterMap_cons, path, handle, List.filterMap_nil, List.mergeSort_singleton] at own
  have found : ["s"].filter (fun session =>
      (keptHost id).disk.isDirectory (bareProject.checkpointsDir.join session)) = ["s"] :=
    List.filter_cons_of_pos isDirectory
  have each : ∀ session ∈ ["s"].filter fun session =>
      (keptHost id).disk.isDirectory (bareProject.checkpointsDir.join session),
      Checkpoint.listFrom (keptHost id).disk bareProject.checkpointsDir session =
        .ok [(posted id).handle keptPath] := by
    rw [found]
    exact List.forall_mem_singleton.mpr own
  have all := listAllFrom_of_names sessions each
  rw [found, List.map_singleton, List.flatten_singleton, List.mergeSort_singleton] at all
  have listed : listing bareProject none (keptHost id) =
      .ok [(posted id).handle keptPath] (keptHost id) := by
    rw [listing, Checkpoint.listAll]
    exact Act.look_eq_ok.mpr ⟨all, rfl⟩
  exact onHost_eq_ok.mpr ⟨_, listed, rfl⟩

theorem not_endsInside_accented : ¬ EndsInside "é" := by
  intro inside
  have none := shortId?_of_endsInside inside
  exact absurd none (by decide +kernel)

/-- Tables of a session whose identifier is short are printed whole. -/
theorem accented_tables_whole :
    (shortForm "é").toList <+: "é".toList ∧
    showHistory bareProject none none ⟨keptHost "é", []⟩ = .ok ()
      ⟨keptHost "é", "" :: tableHead historyHead ++ [historyRow (entryOf "é")] ++ [""]⟩ ∧
    listCheckpoints bareProject none ⟨keptHost "é", []⟩ = .ok ()
      ⟨keptHost "é", "" :: tableHead checkpointHead ++
        [checkpointRow ((posted "é").handle keptPath)] ++ [""]⟩ := by
  obtain ⟨identifiers, history, checkpoints, -⟩ :=
    short_forms_decide bareProject ⟨keptHost "é", []⟩
  have iterations := history none none _ _ (read_kept "é") (List.cons_ne_nil _ _)
  have handles := checkpoints none _ _ (list_kept "é") (List.cons_ne_nil _ _)
  refine ⟨((identifiers "é").2 not_endsInside_accented).1, ?_, ?_⟩
  · apply iterations.whole
    exact List.forall_mem_singleton.mpr not_endsInside_accented
  · apply handles.whole
    intro handle member
    rw [List.mem_singleton.mp member]
    rintro (own | session)
    · exact absurd (shortId?_of_endsInside own) (by decide +kernel)
    · exact not_endsInside_accented session

/-- An engine that is opened leaves the checkpoint, and the session is taken up. -/
theorem resumed_kept {id : String} {live : LiveEngine Unit} {opened : Console}
    (opens : openEngine bareProject ⟨keptHost id, []⟩ = .ok live opened) :
    onHost EngineError.message (live.engine.project.resumeSession keptPath.text) opened =
      .ok (revived id, none) opened := by
  have unmarked : onHost Failure.message ( Annotation.load bareProject.annotationsFile)
      ⟨keptHost id, []⟩ = .ok [] ⟨keptHost id, []⟩ := rfl
  rw [openEngine, bind_of_ok unmarked] at opens
  obtain ⟨_, starts, rfl⟩ := onHost_eq_ok.mp opens
  obtain ⟨_, host, stores, starts⟩ := Act.bind_eq_ok.mp starts
  obtain ⟨rfl, rfl⟩ := Act.pure_eq_ok.mp starts
  have keeping : bareProject.Keeping [".reloop"] "checkpoints" (some .directory)
      (keptHost id).disk := ⟨rfl, rfl, rfl⟩
  have spares := Project.openStores_spares keeping stores
  have apart : ¬ ∃ name ∈ ["checkpoints", "logs", "engine.lock"],
      keptPlace = [".reloop"] ++ [name] := by
    rintro ⟨name, -, same⟩
    cases same
  have stands : host.disk.node? keptPlace =
      some (.file (Text.Utf8.encode (posted id).toJson.fileText)) :=
    (spares.nodes keptPlace apart).trans rfl
  have before : (keptHost id).disk.locate keptPath = .ok keptPlace := rfl
  have tidy : keptPath.Tidy := Path.tidy_of_last rfl (by decide) (by decide)
  have located := spares.grows.locate tidy before
  have loaded : Checkpoint.loadFrom host.disk keptPath = .ok (posted id) :=
    loadFrom_kept located stands
  have isFile : host.disk.isFile keptPath = true := by
    simp only [Disk.isFile, Disk.at?, located, stands]
  have unfinished : (posted id).payload.session.status ≠ .completed := SessionStatus.noConfusion
  have found := Checkpoint.resolveFrom_path bareProject.checkpointsDir isFile loaded
  have resumed : bareProject.resumeSession keptPath.text host = .ok (revived id, none) host :=
    Project.resumeSession_of_found found loaded unfinished
  exact onHost_eq_ok.mpr ⟨host, resumed, rfl⟩

/-- An identifier of seven bytes and a character of two. -/
def splitId : String := "aaaaaaaé"

theorem endsInside_splitId : EndsInside splitId := by
  apply shortId?_eq_none_iff.mp
  decide +kernel

theorem opens_splitId : ∃ live opened,
    openEngine bareProject ⟨keptHost splitId, []⟩ = .ok live opened := by
  have opens : (match openEngine bareProject ⟨keptHost splitId, []⟩ with
    | .ok _ _ => true
    | .error _ _ => false) = true := by decide +kernel
  split at opens
  · rename_i ended
    exact ⟨_, _, ended⟩
  · cases opens

/-- An iteration of a session with such an identifier is read, its checkpoint is listed, and the
session is taken up, but both tables and the run are given up. -/
theorem split_identifier_given_up :
    onHost Failure.message (History.read bareProject.historyFile) ⟨keptHost splitId, []⟩ =
      .ok [entryOf splitId] ⟨keptHost splitId, []⟩ ∧
    showHistory bareProject none none ⟨keptHost splitId, []⟩ = .error .splitCharacter
      ⟨keptHost splitId, "" :: tableHead historyHead⟩ ∧
    onHost CheckpointError.message (listing bareProject none) ⟨keptHost splitId, []⟩ =
      .ok [(posted splitId).handle keptPath] ⟨keptHost splitId, []⟩ ∧
    listCheckpoints bareProject none ⟨keptHost splitId, []⟩ = .error .splitCharacter
      ⟨keptHost splitId, "" :: tableHead checkpointHead⟩ ∧
    ∃ live opened, openEngine bareProject ⟨keptHost splitId, []⟩ = .ok live opened ∧
      onHost EngineError.message (live.engine.project.resumeSession keptPath.text) opened =
        .ok (revived splitId, none) opened ∧
      runSession bareProject ⟨none, some keptPath.text, none, none, false, none, none⟩
        ⟨keptHost splitId, []⟩ = .error .splitCharacter opened := by
  have read := read_kept splitId
  have listed := list_kept splitId
  have some : (selectEntries none none [entryOf splitId]).1 ≠ [] := List.cons_ne_nil _ _
  obtain ⟨live, opened, opens⟩ := opens_splitId
  have resumed := resumed_kept opens
  refine ⟨read, ?_, listed, ?_, live, opened, opens, resumed, ?_⟩
  · have table := showHistory_tabulates read some
    exact table.partly [] _ [] rfl (List.forall_mem_nil _) endsInside_splitId
  · have table := listCheckpoints_tabulates listed (List.cons_ne_nil _ _)
    exact table.partly [] _ [] rfl (List.forall_mem_nil _) (.inr endsInside_splitId)
  · exact (runSession_split_iff _ ⟨none, none, none, none, false, none, none⟩ _ _ _).mpr
      ⟨live, opened, _, _, opens, resumed, endsInside_splitId⟩

end TaskLoop.Sample
