import TaskLoop.Decimal.Read
import TaskLoop.Disk.Basic
import TaskLoop.Text.Words

/-!
What a shell works on: files, variables, what was written to which stream, and the time it has
slept.
-/

set_option autoImplicit false

namespace TaskLoop.Shell

/-- Where what is written goes. -/
inductive Sink where
  | out
  | err
  | capture (level : Nat)
  | file (place : Place)
  | nowhere
  deriving DecidableEq, Repr

/-- Where the two streams of a command go. -/
structure Streams where
  out : Sink := .out
  err : Sink := .err

/-- What a shell works on. Times are in milliseconds. -/
structure Machine where
  disk : Disk
  limit : Nat
  slept : Nat := 0
  assigned : OrderedMap String String := .empty
  status : Nat := 0
  line : Nat := 1
  strict : Bool := false
  input : List UInt8 := []
  out : List UInt8 := []
  err : List UInt8 := []
  captures : OrderedMap Nat (List UInt8) := .empty

/-- Why work ends before its end. -/
inductive Halt where
  | exit (status : Nat)
  | killed
  | outOfTime
  | leave (loops : Nat)
  | again (loops : Nat)

/-- Work of a shell. -/
abbrev Work := EStateM Halt Machine

/-- Writes bytes. -/
def emit (sink : Sink) (bytes : List UInt8) : Work Unit := modify fun machine =>
  match sink with
  | .out => { machine with out := machine.out ++ bytes }
  | .err => { machine with err := machine.err ++ bytes }
  | .capture level =>
    let before := (machine.captures.find? level).getD []
    { machine with captures := machine.captures.insert level (before ++ bytes) }
  | .file place =>
    let before := match machine.disk.node? place with
      | some (.file content) => content
      | _ => []
    { machine with disk := machine.disk.put place (.file (before ++ bytes)) }
  | .nowhere => machine

/-- Writes a text. -/
def say (sink : Sink) (text : String) : Work Unit := emit sink (Text.Utf8.encode text.toList)

/-- Writes a complaint of the shell itself. -/
def complain (streams : Streams) (message : String) : Work Unit := do
  let line := (← get).line
  say streams.err s!"sh: {line}: {message}\n"

/-- Changes the files. -/
def changeDisk (change : Disk → Disk) : Work Unit :=
  modify fun machine => { machine with disk := change machine.disk }

/-- Sleeps, unless the time runs out before. -/
def sleep (milliseconds : Nat) : Work Unit := do
  let machine ← get
  set { machine with slept := machine.slept + milliseconds }
  if machine.limit ≤ machine.slept + milliseconds then throw .outOfTime

/-- The reason of a failed operation on files as tools give it. -/
def reasonOf (e : DiskError) : String :=
  String.ofList (Text.trim (e.message.toList.takeWhile (· != '(')))

/-- The text of a path that leads to a place. -/
def textOf (place : Place) : String := "/" ++ "/".intercalate place

/-- The value of a variable. -/
def valueOf? (name : String) : Work (Option String) := return (← get).assigned.find? name

/-- Gives a variable a value. -/
def assign (name value : String) : Work Unit := modify fun machine =>
  { machine with assigned := machine.assigned.insert name value }

/-- The number a text writes, with a sign or without. -/
def integer? (text : String) : Option Int :=
  let digits (text : List Char) : Option Nat :=
    if !text.isEmpty && text.all Char.isDigit then some (Decimal.ofDigits text) else none
  match text.toList with
  | '-' :: rest => (digits rest).map fun n => -(n : Int)
  | '+' :: rest => (digits rest).map fun n => (n : Int)
  | rest => (digits rest).map fun n => (n : Int)

/-- The milliseconds of a span of seconds that may have a fraction. -/
def milliseconds? (text : String) : Option Nat :=
  let (digits, unit) := match text.toList.getLast? with
    | some 's' => (text.toList.dropLast, 1000)
    | some 'm' => (text.toList.dropLast, 60000)
    | some 'h' => (text.toList.dropLast, 3600000)
    | _ => (text.toList, 1000)
  let whole := digits.takeWhile Char.isDigit
  let fraction := (digits.drop whole.length).drop 1
  if (whole ++ fraction).isEmpty || !(fraction.all Char.isDigit) then none
  else some ((Decimal.ofDigits (whole ++ fraction)) * unit / powerOfTen fraction.length)

end TaskLoop.Shell
