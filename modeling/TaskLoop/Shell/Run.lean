import TaskLoop.Shell.Expansion
import TaskLoop.Shell.Reader
import TaskLoop.Shell.Tools

/-!
Running commands. Each function takes a number that bounds the work; where it is spent the time
is held to have run out.
-/

set_option autoImplicit false

namespace TaskLoop.Shell

/-- Work after which variables, the working directory and the input are as they were, and in
which `exit` ends no more than the work itself. -/
def inSubshell (work : Work Unit) : Work Unit := do
  let before ← get
  let halt : Option Halt ← tryCatch (do work; pure none) (pure ∘ some)
  modify fun machine => { machine with
    assigned := before.assigned
    strict := before.strict
    input := before.input
    disk := { machine.disk with workingDir := before.disk.workingDir } }
  match halt with
  | some (.exit status) => modify fun machine => { machine with status := status }
  | some .killed => throw .killed
  | some .outOfTime => throw .outOfTime
  | _ => return ()

/-- What work writes to its first stream. -/
def capture (streams : Streams) (work : Streams → Work Unit) : Work (List UInt8) := do
  let level := (← get).captures.size
  modify fun machine => { machine with captures := machine.captures.insert level [] }
  inSubshell (work { streams with out := .capture level })
  let machine ← get
  set { machine with captures := machine.captures.erase level }
  return (machine.captures.find? level).getD []

/-- A text without the ends of lines at its end. -/
def dropLineEnds (text : List Char) : List Char :=
  (text.reverse.dropWhile (· == '\n')).reverse

/-- Opens a file to write to. -/
def openOutput (append : Bool) (name : String) : Work (Except String Sink) := do
  let disk := (← get).disk
  let refuse (reason : String) : Except String Sink :=
    .error s!"cannot create {name}: {reason}"
  match name with
  | "/dev/null" => return .ok .nowhere
  | "/dev/stdout" => return .ok .out
  | "/dev/stderr" => return .ok .err
  | _ =>
    match disk.locate ⟨name⟩ with
    | .error .nameTooLong => return refuse "File name too long"
    | .error _ => return refuse "Directory nonexistent"
    | .ok place =>
      match disk.node? place with
      | some .directory => return refuse "Is a directory"
      | some (.file _) =>
        if !append then changeDisk (·.put place (.file []))
        return .ok (.file place)
      | none =>
        changeDisk (·.put place (.file []))
        return .ok (.file place)

/-- Opens a file to read from. -/
def openInput (name : String) : Work (Except String (List UInt8)) := do
  if name == "/dev/null" then return .ok []
  match (← get).disk.read ⟨name⟩ with
  | .ok bytes => return .ok bytes
  | .error .isDirectory => return .ok []
  | .error _ => return .error s!"cannot open {name}: No such file"

/-- The value that is given to an unset variable. -/
def special? (machine : Machine) : String → Option String
  | "?" => some (toString machine.status)
  | "$" => some processNumber
  | "#" => some "0"
  | "0" => some "sh"
  | _ => none

/-- Ends work that went wrong, if the shell is to stop at the first fault. -/
def settle (tested : Bool) (status : Nat) : Work Unit := do
  modify fun machine => { machine with status := status }
  if status != 0 && !tested && (← get).strict then throw (.exit status)

mutual

/-- The fragments of a word. -/
def expand (streams : Streams) : Nat → Word → Work (List Fragment)
  | 0, _ => throw .outOfTime
  | _ + 1, [] => return []
  | fuel + 1, piece :: rest => do
    let first : List Fragment ← match piece with
      | .text chars quoted => pure [⟨chars, quoted, false⟩]
      | .parameter name instead quoted => do
        let machine ← get
        match special? machine name <|> machine.assigned.find? name with
        | some value =>
          if value.isEmpty && !instead.isEmpty then expand streams fuel instead
          else pure [⟨value.toList, quoted, !quoted⟩]
        | none => expand streams fuel instead
      | .output body quoted => do
        let bytes ← capture streams fun streams => run streams false fuel body
        pure [⟨dropLineEnds (Text.Utf8.decodeLossy bytes), quoted, !quoted⟩]
      | .sum expression => do
        let fragments ← expand streams fuel expression
        let machine ← get
        let value := sumOf (fun name => machine.assigned.find? name)
          ((fragments.flatMap (·.chars)).filter (· != '$'))
        pure [⟨(toString value).toList, true, false⟩]
    return first ++ (← expand streams fuel rest)

/-- The text of a word that is not split. -/
def expandText (streams : Streams) : Nat → Word → Work String
  | 0, _ => throw .outOfTime
  | fuel + 1, word => do
    let fragments ← expand streams fuel word
    return String.ofList (fragments.flatMap (·.chars))

/-- The words that words stand for. -/
def expandWords (streams : Streams) : Nat → List Word → Work (List String)
  | 0, _ => throw .outOfTime
  | _ + 1, [] => return []
  | fuel + 1, word :: rest => do
    let fields := fieldsOf (← expand streams fuel word)
    let disk := (← get).disk
    return fields.flatMap (Field.words disk) ++ (← expandWords streams fuel rest)

/-- Follows redirections one after another; nothing comes back where one fails. -/
def redirect (streams : Streams) : Nat → List Redirect → Work (Option Streams)
  | 0, _ => throw .outOfTime
  | _ + 1, [] => return some streams
  | fuel + 1, .mk stream kind target :: rest => do
    let name ← expandText streams fuel target
    let lead (sink : Sink) : Streams :=
      if stream == 1 then { streams with out := sink }
      else if stream == 2 then { streams with err := sink }
      else streams
    match kind with
    | .input =>
      match ← openInput name with
      | .ok bytes =>
        modify fun machine => { machine with input := bytes }
        redirect streams fuel rest
      | .error message =>
        complain streams message
        return none
    | .duplicate =>
      let sink := match name with
        | "1" => streams.out
        | "2" => streams.err
        | _ => .nowhere
      redirect (lead sink) fuel rest
    | .output | .append =>
      match ← openOutput (kind == .append) name with
      | .ok sink => redirect (lead sink) fuel rest
      | .error message =>
        complain streams message
        return none

/-- Gives variables their values. -/
def assignAll (streams : Streams) : Nat → List (String × Word) → Work Unit
  | 0, _ => throw .outOfTime
  | _ + 1, [] => return ()
  | fuel + 1, (name, word) :: rest => do
    assign name (← expandText streams fuel word)
    assignAll streams fuel rest

/-- Calls what a name stands for. The answer is its status. -/
def call (streams : Streams) : Nat → String → List String → Work Nat
  | 0, _, _ => throw .outOfTime
  | fuel + 1, name, args => do
    let loops := ((args.head?.bind integer?).getD 1).toNat
    match name with
    | "exit" | "return" =>
      match args with
      | [] => throw (.exit (← get).status)
      | code :: _ =>
        if !code.isEmpty && code.toList.all Char.isDigit then
          throw (.exit (Decimal.ofDigits code.toList % 256))
        else
          complain streams s!"{name}: Illegal number: {code}"
          throw (.exit 2)
    | "break" => throw (.leave loops)
    | "continue" => throw (.again loops)
    | "set" =>
      let mode := args.head?.getD ""
      if mode.startsWith "-" && mode.toList.contains 'e' then
        modify fun machine => { machine with strict := true }
      else if mode.startsWith "+" && mode.toList.contains 'e' then
        modify fun machine => { machine with strict := false }
      return 0
    | "export" | "readonly" | "local" =>
      args.forM fun arg =>
        match Text.splitFirst? '=' arg.toList with
        | some (name, value) => assign (String.ofList name) (String.ofList value)
        | none => return ()
      return 0
    | "unset" =>
      args.forM fun arg => modify fun machine =>
        { machine with assigned := machine.assigned.erase arg }
      return 0
    | "read" =>
      let machine ← get
      let line := (byteLines machine.input).head?.getD []
      let text := Text.trim (Text.Utf8.decodeLossy line)
      set { machine with input := machine.input.drop line.length }
      args.head?.forM fun name => assign name (String.ofList text)
      return if line.getLast? == some 10 then 0 else 1
    | "eval" =>
      runLines streams fuel (Script.ofText (" ".intercalate args).toList)
      return (← get).status
    | "." =>
      let file := args.head?.getD ""
      match (← get).disk.readText ⟨file⟩ with
      | .ok text =>
        runLines streams fuel (Script.ofText text)
        return (← get).status
      | .error _ =>
        complain streams s!".: cannot open {file}: No such file"
        throw (.exit 2)
    | "sh" | "bash" | "dash" =>
      match args with
      | "-c" :: text :: _ =>
        inSubshell (runLines streams fuel (Script.ofText text.toList))
        return (← get).status
      | file :: _ =>
        match (← get).disk.readText ⟨file⟩ with
        | .ok text =>
          inSubshell (runLines streams fuel (Script.ofText text))
          return (← get).status
        | .error _ =>
          say streams.err s!"{name}: 0: cannot open {file}: No such file\n"
          return 2
      | [] => return 0
    | "exec" | "command" | "env" =>
      match args with
      | [] => return 0
      | next :: args =>
        let status ← call streams fuel next args
        if name == "exec" then throw (.exit status) else return status
    | _ =>
      match callTool? streams name args with
      | some work => work
      | none =>
        if name.toList.contains '/' && (← get).disk.pathExists ⟨name⟩ then
          complain streams s!"{name}: Permission denied"
          return 126
        else
          complain streams s!"{name}: not found"
          return 127

/-- Runs a command; `tested` says that someone looks at its status. -/
def run (streams : Streams) (tested : Bool) : Nat → Command → Work Unit
  | 0, _ => throw .outOfTime
  | fuel + 1, command => do
    match command with
    | .simple line assignments words redirects =>
      modify fun machine => { machine with line := line }
      let input := (← get).input
      let assigned := (← get).assigned
      let args ← expandWords streams fuel words
      if args.isEmpty then modify fun machine => { machine with status := 0 }
      match ← redirect streams fuel redirects with
      | none => settle tested 2
      | some inner =>
        assignAll streams fuel assignments
        match args with
        | [] => settle tested (← get).status
        | name :: args =>
          let status ← call inner fuel name args
          if !assignments.isEmpty then
            modify fun machine => { machine with assigned := assigned }
          if redirects.any fun | .mk _ kind _ => kind == .input then
            modify fun machine => { machine with input := input }
          settle tested status
    | .pipeline negated parts =>
      runPipeline streams fuel parts
      let status := (← get).status
      if negated then settle true (if status == 0 then 1 else 0) else settle tested status
    | .both first second =>
      run streams true fuel first
      if (← get).status == 0 then run streams tested fuel second
    | .either first second =>
      run streams true fuel first
      if (← get).status != 0 then run streams tested fuel second
    | .sequence [] => return ()
    | .sequence (first :: rest) =>
      run streams tested fuel first
      run streams tested fuel (.sequence rest)
    | .background body =>
      inSubshell (run streams tested fuel body)
      settle true 0
    | .subshell body redirects =>
      let input := (← get).input
      match ← redirect streams fuel redirects with
      | none => settle tested 2
      | some inner =>
        inSubshell (run inner tested fuel body)
        modify fun machine => { machine with input := input }
        settle tested (← get).status
    | .group body redirects =>
      let input := (← get).input
      match ← redirect streams fuel redirects with
      | none => settle tested 2
      | some inner =>
        run inner tested fuel body
        if redirects.any fun | .mk _ kind _ => kind == .input then
          modify fun machine => { machine with input := input }
    | .choice condition yes no =>
      run streams true fuel condition
      let chosen := if (← get).status == 0 then yes else no
      modify fun machine => { machine with status := 0 }
      run streams tested fuel chosen
    | .loop stopOn condition body =>
      run streams true fuel condition
      if ((← get).status == 0) == stopOn then modify fun machine => { machine with status := 0 }
      else if ← runBody streams tested fuel body then
        run streams tested fuel (.loop stopOn condition body)
    | .each name words body =>
      let values ← expandWords streams fuel words
      runEach streams tested name body fuel values

/-- Runs the body of a loop; the answer is whether the loop goes on. -/
def runBody (streams : Streams) (tested : Bool) : Nat → Command → Work Bool
  | 0, _ => throw .outOfTime
  | fuel + 1, body => do
    let halt : Option Halt ← tryCatch (do run streams tested fuel body; pure none) (pure ∘ some)
    match halt with
    | none => return true
    | some (.leave (loops + 2)) => throw (.leave (loops + 1))
    | some (.leave _) =>
      modify fun machine => { machine with status := 0 }
      return false
    | some (.again (loops + 2)) => throw (.again (loops + 1))
    | some (.again _) =>
      modify fun machine => { machine with status := 0 }
      return true
    | some halt => throw halt

/-- Runs the body of a loop for each value. -/
def runEach (streams : Streams) (tested : Bool) (name : String) (body : Command) :
    Nat → List String → Work Unit
  | 0, _ => throw .outOfTime
  | _ + 1, [] => return ()
  | fuel + 1, value :: rest => do
    assign name value
    if ← runBody streams tested fuel body then runEach streams tested name body fuel rest

/-- Runs commands each of which reads what the one before writes. -/
def runPipeline (streams : Streams) : Nat → List Command → Work Unit
  | 0, _ => throw .outOfTime
  | _ + 1, [] => return ()
  | fuel + 1, [last] => inSubshell (run streams true fuel last)
  | fuel + 1, first :: rest => do
    let bytes ← capture streams fun streams => run streams true fuel first
    let input := (← get).input
    modify fun machine => { machine with input := bytes }
    runPipeline streams fuel rest
    modify fun machine => { machine with input := input }

/-- Runs the commands of a text, and ends at its fault if it has one. -/
def runLines (streams : Streams) : Nat → Script → Work Unit
  | 0, _ => throw .outOfTime
  | fuel + 1, script => do
    run streams false fuel (.sequence script.commands)
    match script.fault with
    | none => return ()
    | some message =>
      say streams.err message
      throw (.exit 2)

end

/-- How a shell ended: with a status unless it was killed, or not in time. -/
inductive Ending where
  | exited (status : Nat)
  | killed
  | outOfTime
  deriving DecidableEq, Repr

/-- How deep the work of a shell may go. -/
def depth : Nat := 100000

/-- Runs a text in a directory for at most a number of milliseconds. -/
def runText (disk : Disk) (directory : Place) (limit : Nat) (text : String) : Ending × Machine :=
  let start : Machine := { disk := { disk with workingDir := directory }, limit := limit }
  let back (machine : Machine) : Machine :=
    { machine with disk := { machine.disk with workingDir := disk.workingDir } }
  match runLines {} depth (Script.ofText text.toList) start with
  | .ok () machine => (.exited machine.status, back machine)
  | .error (.exit status) machine => (.exited status, back machine)
  | .error .killed machine => (.killed, back machine)
  | .error .outOfTime machine => (.outOfTime, back machine)
  | .error (.leave _) machine | .error (.again _) machine => (.exited 0, back machine)

end TaskLoop.Shell
