import TaskLoop.Text.Words
import TaskLoop.Decimal.Read

/-!
The arguments of the program: what each command accepts, and what was asked for.
-/

set_option autoImplicit false

namespace TaskLoop.CommandLine

/-- What may stand for an argument. -/
inductive ValueKind where
  | text
  | path
  | natural (bound : Nat)
  deriving DecidableEq, Repr

/-- An option by its long name and its letter if it has one; without a kind it takes no value. -/
structure Switch where
  name : String
  letter : Option Char := none
  kind : Option ValueKind := none

/-- What a command accepts: options, arguments by their place of which the first so many are
required, and commands of its own. -/
inductive Grammar where
  | mk (name : String) (switches : List Switch) (places : List ValueKind) (required : Nat)
      (commands : List Grammar) (commandRequired : Bool)

namespace Grammar

/-- The name of the command. -/
def name : Grammar → String | mk name .. => name

/-- The options of the command. -/
def switches : Grammar → List Switch | mk _ switches .. => switches

/-- The arguments by their place. -/
def places : Grammar → List ValueKind | mk _ _ places .. => places

/-- How many arguments are required. -/
def required : Grammar → Nat | mk _ _ _ required .. => required

/-- The commands below the command. -/
def commands : Grammar → List Grammar | mk _ _ _ _ commands _ => commands

/-- Whether one of the commands below must be given. -/
def commandRequired : Grammar → Bool | mk _ _ _ _ _ required => required

/-- A command without commands of its own. -/
def leaf (name : String) (switches : List Switch) (places : List ValueKind) (required : Nat) :
    Grammar :=
  mk name switches places required [] false

end Grammar

/-- The options every command accepts. -/
def commonSwitches : List Switch :=
  [{ name := "verbose", letter := some 'v' }, { name := "log-json" },
    { name := "project-dir", kind := some .path }]

/-- The bound of counts that settings hold. -/
def countBound : Nat := powerOfTwo 32

/-- The bound of all other counts. -/
def sizeBound : Nat := powerOfTwo 64

/-- The commands of the program. -/
def grammar : Grammar :=
  .mk "reloop" [] [] 0 [
    .leaf "init" [{ name := "from", kind := some .path }] [] 0,
    .leaf "run" [{ name := "task", letter := some 't', kind := some .text },
      { name := "resume", kind := some .text },
      { name := "max-iterations", kind := some (.natural countBound) },
      { name := "max-retries", kind := some (.natural countBound) },
      { name := "adaptive-retries" },
      { name := "checkpoint-interval", kind := some (.natural countBound) },
      { name := "use-mock" }, { name := "no-mock" }] [] 0,
    .leaf "status" [] [] 0,
    .leaf "history" [{ name := "session", kind := some .text },
      { name := "limit", letter := some 'l', kind := some (.natural sizeBound) }] [] 0,
    .mk "checkpoints" [] [] 0 [
      .leaf "list" [{ name := "session", kind := some .text }] [] 0,
      .leaf "show" [] [.text] 1,
      .leaf "diff" [] [.text, .text] 2] true,
    .mk "patterns" [] [] 0 [
      .leaf "show" [] [] 0,
      .leaf "recommend" [{ name := "complexity", letter := some 'c', kind := some .text }]
        [.text] 1,
      .leaf "export" [] [.path] 0,
      .leaf "import" [{ name := "replace" }] [.path] 1] false,
    .mk "errors" [] [] 0 [
      .leaf "list" [{ name := "unresolved" }] [] 0,
      .leaf "similar"
        [{ name := "top-k", letter := some 'k', kind := some (.natural sizeBound) }] [.text] 1,
      .leaf "resolve" [] [.text, .text] 2,
      .leaf "stats" [] [] 0] false,
    .leaf "report" [{ name := "output", letter := some 'o', kind := some .path }] [] 0,
    .mk "config" [] [] 0 [.leaf "show" [] [] 0, .leaf "validate" [] [] 0] false] true

/-- Why there is nothing to do: the arguments make no sense, or ask for help or the version. -/
inductive Refusal where
  | usage
  | help
  | version
  deriving DecidableEq, Repr

/-- Arguments sorted out: the names of the commands, the options given with their values, and the
arguments by place. -/
structure Sorted where
  commands : List String := []
  options : List (String × String) := []
  places : List String := []

/-- The number an argument writes, with an optional plus sign. -/
def natural? (bound : Nat) (text : String) : Option Nat :=
  match text.toList with
  | '+' :: digits => Decimal.natBelow? bound digits
  | digits => Decimal.natBelow? bound digits

/-- Whether a text may stand for an argument. -/
def ValueKind.accepts : ValueKind → String → Bool
  | .text, _ => true
  | .path, given => !given.isEmpty
  | .natural bound, given => (natural? bound given).isSome

/-- Whether an argument can only be an option. -/
def isOption (argument : String) : Bool :=
  argument.toList.head? == some '-' && argument != "-"

/-- How far arguments have been sorted: what they said, which options the present command was
given, and whether options may still come. -/
structure Progress where
  sorted : Sorted := {}
  given : List String := []
  optionsOver : Bool := false

namespace Progress

/-- Takes an option that the present command must not have been given before. -/
def take (progress : Progress) (switch : Switch) (value : String) : Except Refusal Progress :=
  if progress.given.contains switch.name
    || (switch.kind.any fun kind => !kind.accepts value) then .error .usage
  else .ok { progress with
    given := switch.name :: progress.given
    sorted := { progress.sorted with
      options := (switch.name, value) :: progress.sorted.options } }

/-- Takes an argument by its place. -/
def takePlace (progress : Progress) (grammar : Grammar) (value : String) :
    Except Refusal Progress :=
  match grammar.places[progress.sorted.places.length]? with
  | some kind =>
    if kind.accepts value then
      .ok { progress with
        sorted := { progress.sorted with places := progress.sorted.places ++ [value] } }
    else .error .usage
  | none => .error .usage

/-- Takes letters that stand for options; the last may need the argument that follows. -/
def takeLetters (grammar : Grammar) (isRoot : Bool) :
    List Char → Progress → Except Refusal (Progress × Option Switch)
  | [], progress => .ok (progress, none)
  | letter :: rest, progress =>
    if letter == 'h' then .error .help
    else if letter == 'V' && isRoot then .error .version
    else
      match (grammar.switches ++ commonSwitches).find? fun s => s.letter == some letter with
      | none => .error .usage
      | some switch =>
        match switch.kind, rest with
        | none, _ =>
          match progress.take switch "" with
          | .ok progress => takeLetters grammar isRoot rest progress
          | .error e => .error e
        | some _, [] => .ok (progress, some switch)
        | some _, '=' :: value => (progress.take switch (String.ofList value)).map (·, none)
        | some _, value => (progress.take switch (String.ofList value)).map (·, none)

/-- Takes an option by its long name. -/
def takeLong (grammar : Grammar) (isRoot : Bool) (text : List Char) (progress : Progress) :
    Except Refusal (Progress × Option Switch) :=
  let (name, value) := match Text.splitFirst? '=' text with
    | some (name, value) => (String.ofList name, some (String.ofList value))
    | none => (String.ofList text, none)
  if name == "help" && value.isNone then .error .help
  else if name == "version" && value.isNone && isRoot then .error .version
  else
    match (grammar.switches ++ commonSwitches).find? fun s => s.name == name with
    | none => .error .usage
    | some switch =>
      match switch.kind, value with
      | none, none => (progress.take switch "").map (·, none)
      | none, some _ => .error .usage
      | some _, some value => (progress.take switch value).map (·, none)
      | some _, none => .ok (progress, some switch)

/-- Ends the sorting, if nothing required is missing. -/
def finish (progress : Progress) (grammar : Grammar) : Except Refusal Sorted :=
  if progress.sorted.places.length < grammar.required || grammar.commandRequired then
    .error .usage
  else .ok progress.sorted

end Progress

/-- Sorts arguments out; an option may still wait for its value. -/
def sort (grammar : Grammar) (isRoot : Bool) (progress : Progress) (waiting : Option Switch) :
    List String → Except Refusal Sorted
  | [] => if waiting.isSome then .error .usage else progress.finish grammar
  | argument :: rest =>
    match waiting with
    | some switch =>
      if isOption argument then .error .usage
      else do
        let progress ← progress.take switch argument
        sort grammar isRoot progress none rest
    | none =>
      if progress.optionsOver then do
        let progress ← progress.takePlace grammar argument
        sort grammar isRoot progress none rest
      else
        match argument.toList with
        | ['-', '-'] => sort grammar isRoot { progress with optionsOver := true } none rest
        | '-' :: '-' :: text => do
          let (progress, waiting) ← progress.takeLong grammar isRoot text
          sort grammar isRoot progress waiting rest
        | '-' :: letter :: letters => do
          let (progress, waiting) ← Progress.takeLetters grammar isRoot (letter :: letters) progress
          sort grammar isRoot progress waiting rest
        | _ =>
          if grammar.commands.isEmpty then do
            let progress ← progress.takePlace grammar argument
            sort grammar isRoot progress none rest
          else if argument == "help" then .error .help
          else
            match grammar.commands.find? fun command => command.name == argument with
            | some command =>
              let sorted := { progress.sorted with
                commands := progress.sorted.commands ++ [argument] }
              sort command false { sorted := sorted } none rest
            | none => .error .usage

/-- What a run is asked to do otherwise than the settings say. -/
structure RunOptions where
  task : Option String
  resume : Option String
  maxIterations : Option Nat
  maxRetries : Option Nat
  adaptive : Bool
  checkpointInterval : Option Nat
  useTemplate : Option Bool

/-- What the program is asked to do. -/
inductive Request where
  | init (source : Option String)
  | run (options : RunOptions)
  | status
  | history (session : Option String) (limit : Option Nat)
  | listCheckpoints (session : Option String)
  | showCheckpoint (reference : String)
  | compareCheckpoints (older newer : String)
  | showPatterns
  | recommend (phase : String) (complexity : Option String)
  | exportPatterns (target : Option String)
  | importPatterns (source : String) (replace : Bool)
  | listErrors (unresolvedOnly : Bool)
  | similarErrors (text : String) (top : Option Nat)
  | resolveError (hash note : String)
  | errorTotals
  | report (target : Option String)
  | showSettings
  | validateSettings

/-- A request with the options that every command accepts. -/
structure Invocation where
  verbose : Bool
  directory : Option String
  request : Request

namespace Sorted

/-- The value of an option. -/
def option? (sorted : Sorted) (name : String) : Option String := sorted.options.lookup name

/-- Whether an option was given. -/
def has (sorted : Sorted) (name : String) : Bool := (sorted.option? name).isSome

/-- The number that is the value of an option. -/
def count? (sorted : Sorted) (name : String) : Option Nat :=
  (sorted.option? name).bind (natural? sizeBound)

/-- What a run is asked to do otherwise than the settings say. -/
def runOptions (sorted : Sorted) : RunOptions where
  task := sorted.option? "task"
  resume := sorted.option? "resume"
  maxIterations := sorted.count? "max-iterations"
  maxRetries := sorted.count? "max-retries"
  adaptive := sorted.has "adaptive-retries"
  checkpointInterval := sorted.count? "checkpoint-interval"
  useTemplate :=
    if sorted.has "use-mock" then some true
    else if sorted.has "no-mock" then some false else none

/-- The request of sorted arguments. -/
def request? (sorted : Sorted) : Option Request :=
  match sorted.commands, sorted.places with
  | ["init"], _ => some (.init (sorted.option? "from"))
  | ["run"], _ =>
    if sorted.has "use-mock" && sorted.has "no-mock" then none
    else some (.run sorted.runOptions)
  | ["status"], _ => some .status
  | ["history"], _ => some (.history (sorted.option? "session") (sorted.count? "limit"))
  | ["checkpoints", "list"], _ => some (.listCheckpoints (sorted.option? "session"))
  | ["checkpoints", "show"], [reference] => some (.showCheckpoint reference)
  | ["checkpoints", "diff"], [older, newer] => some (.compareCheckpoints older newer)
  | ["patterns"], _ | ["patterns", "show"], _ => some .showPatterns
  | ["patterns", "recommend"], [phase] =>
    some (.recommend phase (sorted.option? "complexity"))
  | ["patterns", "export"], places => some (.exportPatterns places.head?)
  | ["patterns", "import"], [source] => some (.importPatterns source (sorted.has "replace"))
  | ["errors"], _ => some (.listErrors false)
  | ["errors", "list"], _ => some (.listErrors (sorted.has "unresolved"))
  | ["errors", "similar"], [text] => some (.similarErrors text (sorted.count? "top-k"))
  | ["errors", "resolve"], [hash, note] => some (.resolveError hash note)
  | ["errors", "stats"], _ => some .errorTotals
  | ["report"], _ => some (.report (sorted.option? "output"))
  | ["config"], _ | ["config", "show"], _ => some .showSettings
  | ["config", "validate"], _ => some .validateSettings
  | _, _ => none

end Sorted

/-- What arguments ask for. -/
def Invocation.ofArguments (arguments : List String) : Except Refusal Invocation := do
  let sorted ← sort grammar true {} none arguments
  match sorted.request? with
  | some request =>
    return ⟨sorted.has "verbose", sorted.option? "project-dir", request⟩
  | none => throw .usage

end TaskLoop.CommandLine
