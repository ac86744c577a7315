import TaskLoop.Shell.Machine
import TaskLoop.Text.Regex.Reader

/-!
The tools a command may call: what each writes, what it does to files, and the status it ends
with.
-/

set_option autoImplicit false

namespace TaskLoop.Shell

/-- The value of up to `count` octal digits and what follows them. -/
def readOctal (count : Nat) (text : List Char) : Nat × List Char :=
  let digits := (text.takeWhile fun c => '0' ≤ c && c ≤ '7').take count
  (digits.foldl (fun n c => 8 * n + Decimal.digitValue c) 0, text.drop digits.length)

/-- The byte that a letter behind a backslash stands for. -/
def escapeOf? : Char → Option UInt8
  | 'a' => some 7
  | 'b' => some 8
  | 'f' => some 12
  | 'n' => some 10
  | 'r' => some 13
  | 't' => some 9
  | 'v' => some 11
  | '\\' => some 92
  | _ => none

/-- The bytes of a text with its escapes put in, and whether it asked to stop there. In what
`echo` is given an octal number begins with an additional nought. -/
def unescape (leadingNought : Bool) : Nat → List Char → List UInt8 × Bool
  | 0, _ | _, [] => ([], false)
  | fuel + 1, '\\' :: c :: rest =>
    let more (bytes : List UInt8) (rest : List Char) : List UInt8 × Bool :=
      let (after, stop) := unescape leadingNought fuel rest
      (bytes ++ after, stop)
    if c == 'c' then ([], true)
    else match escapeOf? c with
    | some byte => more [byte] rest
    | none =>
      if leadingNought && c == '0' then
        let (n, rest) := readOctal 3 rest
        more [UInt8.ofNat n] rest
      else if !leadingNought && '0' ≤ c && c ≤ '7' then
        let (n, rest) := readOctal 3 (c :: rest)
        more [UInt8.ofNat n] rest
      else more (Text.Utf8.encode ['\\', c]) rest
  | fuel + 1, c :: rest =>
    let (after, stop) := unescape leadingNought fuel rest
    (Text.Utf8.encode [c] ++ after, stop)

/-- What `echo` writes. -/
def echoBytes (args : List String) : List UInt8 :=
  let (args, newline) := match args with
    | "-n" :: rest => (rest, false)
    | args => (args, true)
  let text := (" ".intercalate args).toList
  let (bytes, stop) := unescape true (text.length + 1) text
  if newline && !stop then bytes ++ [10] else bytes

/-- One field of a format: its flags, width, precision and kind, and what follows. -/
def readField (text : List Char) : List Char × Nat × Option Nat × Char × List Char :=
  let flags := text.takeWhile "-+ 0#".toList.contains
  let text := text.drop flags.length
  let width := text.takeWhile Char.isDigit
  let text := text.drop width.length
  let (precision, text) := match text with
    | '.' :: rest =>
      let digits := rest.takeWhile Char.isDigit
      (some (Decimal.ofDigits digits), rest.drop digits.length)
    | text => (none, text)
  (flags, Decimal.ofDigits width, precision, text.head?.getD '%', text.drop 1)

/-- The text of one argument under a field of a format. -/
def formatField (flags : List Char) (width : Nat) (precision : Option Nat) (kind : Char)
    (arg : String) : List UInt8 :=
  let number : Int := (integer? arg).getD 0
  let digits (base : Nat) : List Char :=
    (if number < 0 then ['-'] else []) ++ Nat.toDigits base number.natAbs
  let text : List Char := match kind with
    | 'd' | 'i' | 'u' => digits 10
    | 'x' => digits 16
    | 'X' => (digits 16).map Char.toUpper
    | 'o' => digits 8
    | 'c' => arg.toList.take 1
    | _ => match precision with
      | some n => arg.toList.take n
      | none => arg.toList
  let padded :=
    if flags.contains '-' then Text.padRight width text
    else if flags.contains '0' && kind != 's' then
      List.replicate (width - text.length) '0' ++ text
    else Text.padLeft width text
  if kind == 'b' then (unescape true (arg.length + 1) arg.toList).1 else Text.Utf8.encode padded

/-- What a format makes of its arguments in one pass, and the arguments left over. -/
def formatOnce : Nat → List Char → List String → List UInt8 × List String
  | 0, _, args | _, [], args => ([], args)
  | fuel + 1, '%' :: '%' :: rest, args =>
    let (bytes, args) := formatOnce fuel rest args
    (37 :: bytes, args)
  | fuel + 1, '%' :: rest, args =>
    let (flags, width, precision, kind, rest) := readField rest
    let field := formatField flags width precision kind (args.head?.getD "")
    let (bytes, args) := formatOnce fuel rest (args.drop 1)
    (field ++ bytes, args)
  | fuel + 1, text, args =>
    let run := text.takeWhile (· != '%')
    let (bytes, stop) := unescape false (run.length + 1) run
    if stop then (bytes, [])
    else
      let (after, args) := formatOnce fuel (text.drop run.length) args
      (bytes ++ after, args)

/-- What `printf` writes: the format is used again while arguments are left. -/
def printfBytes (format : String) : Nat → List String → List UInt8
  | 0, _ => []
  | fuel + 1, args =>
    let (bytes, rest) := formatOnce (format.length + 1) format.toList args
    if rest.isEmpty || rest.length == args.length then bytes
    else bytes ++ printfBytes format fuel rest

/-- Whether a condition of `test` holds. -/
def testHolds (disk : Disk) : List String → Bool
  | [] => false
  | ["!"] => true
  | ["!", a] => a.isEmpty
  | ["!", a, b] => !testHolds disk [a, b]
  | ["!", a, b, c] => !testHolds disk [a, b, c]
  | [a] => !a.isEmpty
  | ["-n", a] => !a.isEmpty
  | ["-z", a] => a.isEmpty
  | ["-f", a] => disk.isFile ⟨a⟩
  | ["-d", a] => disk.isDirectory ⟨a⟩
  | ["-s", a] =>
    match disk.at? ⟨a⟩ with
    | some (.file content) => !content.isEmpty
    | some .directory => true
    | none => false
  | [flag, a] => ["-e", "-r", "-w"].contains flag && disk.pathExists ⟨a⟩
  | [a, "-a", b] => !a.isEmpty && !b.isEmpty
  | [a, "-o", b] => !a.isEmpty || !b.isEmpty
  | [a, "=", b] | [a, "==", b] => a == b
  | [a, "!=", b] => a != b
  | [a, relation, b] =>
    match integer? a, integer? b with
    | some a, some b =>
      match relation with
      | "-eq" => a == b
      | "-ne" => a != b
      | "-lt" => a < b
      | "-le" => a ≤ b
      | "-gt" => b < a
      | "-ge" => b ≤ a
      | _ => false
    | _, _ => false
  | _ => false

/-- The signals that end nothing. -/
def harmlessSignals : List String :=
  ["0", "17", "18", "23", "28", "CHLD", "CONT", "URG", "WINCH"]

/-- The process number of a shell. -/
def processNumber : String := "4242"

/-- Sends a signal. -/
def kill (streams : Streams) (args : List String) : Work Nat := do
  let (signal, targets) := match args with
    | "-s" :: name :: rest => (name, rest)
    | first :: rest =>
      match first.toList with
      | '-' :: name => (String.ofList name, rest)
      | _ => ("TERM", first :: rest)
    | [] => ("TERM", [])
  if targets.contains processNumber then
    if harmlessSignals.contains signal then return 0
    else if ["19", "STOP"].contains signal then throw .outOfTime
    else throw .killed
  else
    complain streams "kill: No such process"
    return 1

/-- The bytes of the files named, or of the input where none is, and whether all could be read. -/
def gather (streams : Streams) (tool : String) : List String → Work (List UInt8 × Bool)
  | [] => return ([], true)
  | name :: rest => do
    let machine ← get
    let found := if name == "-" then .ok machine.input else machine.disk.read ⟨name⟩
    if name == "-" then set { machine with input := [] }
    match found with
    | .ok bytes =>
      let (more, fine) ← gather streams tool rest
      return (bytes ++ more, fine)
    | .error e =>
      say streams.err s!"{tool}: {name}: {reasonOf e}\n"
      let (more, _) ← gather streams tool rest
      return (more, false)

/-- The bytes a tool reads. -/
def readAll (streams : Streams) (tool : String) (names : List String) :
    Work (List UInt8 × Bool) :=
  gather streams tool (if names.isEmpty then ["-"] else names)

/-- Lines of bytes, each with its end. -/
def byteLines : List UInt8 → List (List UInt8)
  | [] => []
  | byte :: rest =>
    if byte == 10 then [10] :: byteLines rest
    else match byteLines rest with
      | [] => [[byte]]
      | line :: lines => (byte :: line) :: lines

/-- A line with its end, whether it had one or not. -/
def endLine (line : List UInt8) : List UInt8 :=
  if line.getLast? == some 10 then line else line ++ [10]

/-- A count in the first argument of a tool, and the other arguments. -/
def takeCount (default : Nat) : List String → Nat × List String
  | "-n" :: count :: rest => (((integer? count).getD default).toNat, rest)
  | first :: rest =>
    match first.toList with
    | '-' :: 'n' :: digits | '-' :: digits =>
      match integer? (String.ofList digits) with
      | some n => (n.toNat, rest)
      | none => (default, first :: rest)
    | _ => (default, first :: rest)
  | [] => (default, [])

/-- A pattern in which only the basic signs have a meaning, written with the full ones. -/
def basicPattern (pattern : List Char) : List Char :=
  pattern.flatMap fun c => if "+?|()\x7b\x7d".toList.contains c then ['\\', c] else [c]

/-- Searches lines. -/
def grep (streams : Streams) (args : List String) : Work Nat := do
  let flags := (args.takeWhile fun arg => arg.startsWith "-").flatMap (·.toList.drop 1)
  match args.dropWhile fun arg => arg.startsWith "-" with
  | [] =>
    say streams.err "Usage: grep [OPTION]... PATTERNS [FILE]...\n"
    return 2
  | pattern :: names =>
    let (bytes, fine) ← readAll streams "grep" names
    let pattern := pattern.toList
    let pattern := if flags.contains 'F' then pattern.flatMap fun c =>
        if Text.Regex.isMeta c then ['\\', c] else [c]
      else if flags.contains 'E' then pattern else basicPattern pattern
    let pattern := if flags.contains 'i' then "(?i)".toList ++ pattern else pattern
    let hits (line : List UInt8) : Bool :=
      let text := Text.Utf8.decodeLossy (line.filter (· != 10))
      match Text.Regex.ofText? pattern with
      | some expression => expression.matches text != flags.contains 'v'
      | none => false
    let found := ((byteLines bytes).zipIdx 1).filter fun (line, _) => hits line
    if flags.contains 'c' then say streams.out s!"{found.length}\n"
    else if !flags.contains 'q' then
      emit streams.out (found.flatMap fun (line, number) =>
        (if flags.contains 'n' then Text.Utf8.encode (s!"{number}:").toList else [])
          ++ endLine line)
    return if !fine then 2 else if found.isEmpty then 1 else 0

/-- Does something for each name; the status is one if it fails for any. -/
def forEachName (names : List String) (act : String → Work Bool) : Work Nat := do
  let results ← names.mapM act
  return if results.all id then 0 else 1

/-- Makes a directory. -/
def makeDirectory (streams : Streams) (parents : Bool) (name : String) : Work Bool := do
  let disk := (← get).disk
  let refuse (reason : String) : Work Bool := do
    say streams.err ("mkdir: cannot create directory '" ++ name ++ "': " ++ reason ++ "\n")
    return false
  if parents then
    let above := (List.range (Path.mk name).names.length).map fun n =>
      (if (Path.mk name).isAbsolute then [] else disk.workingDir)
        ++ (Path.mk name).names.take (n + 1)
    if above.any fun place => match disk.node? place with
        | some (.file _) => true
        | _ => false then refuse "Not a directory"
    else
      changeDisk fun disk => above.foldl (fun disk place => disk.put place .directory) disk
      return true
  else
    match disk.locate ⟨name⟩ with
    | .error e => refuse (reasonOf e)
    | .ok place =>
      if (disk.node? place).isSome then refuse "File exists"
      else
        changeDisk (·.put place .directory)
        return true

/-- Removes a file, or a directory and all below it. -/
def remove (streams : Streams) (whole forced : Bool) (name : String) : Work Bool := do
  let disk := (← get).disk
  let refuse (reason : String) : Work Bool := do
    say streams.err ("rm: cannot remove '" ++ name ++ "': " ++ reason ++ "\n")
    return false
  match disk.locate ⟨name⟩ with
  | .error e => if forced then return true else refuse (reasonOf e)
  | .ok place =>
    match disk.node? place with
    | none => if forced then return true else refuse (reasonOf .notFound)
    | some .directory =>
      if whole then
        changeDisk (·.removeTree place)
        return true
      else refuse "Is a directory"
    | some (.file _) =>
      changeDisk (·.remove place)
      return true

/-- Makes an empty file where there is none. -/
def touch (streams : Streams) (name : String) : Work Bool := do
  let disk := (← get).disk
  match disk.locate ⟨name⟩ with
  | .error e =>
    say streams.err ("touch: cannot touch '" ++ name ++ "': " ++ reasonOf e ++ "\n")
    return false
  | .ok place =>
    if (disk.node? place).isNone then changeDisk (·.put place (.file []))
    return true

/-- Lists a file or the names in a directory that are not hidden. -/
def list (streams : Streams) (name : String) : Work Bool := do
  let disk := (← get).disk
  match disk.at? ⟨name⟩ with
  | none =>
    say streams.err ("ls: cannot access '" ++ name ++ "': " ++ reasonOf .notFound ++ "\n")
    return false
  | some (.file _) =>
    say streams.out (name ++ "\n")
    return true
  | some .directory =>
    let names := match disk.list ⟨name⟩ with
      | .ok names => names.filter fun (name : String) => !name.startsWith "."
      | .error _ => []
    say streams.out (String.join (names.map (· ++ "\n")))
    return true

/-- Copies or moves a file. -/
def transfer (streams : Streams) (tool : String) (keep : Bool) (source target : String) :
    Work Nat := do
  let disk := (← get).disk
  match disk.read ⟨source⟩ with
  | .error e =>
    say streams.err (s!"{tool}: cannot stat '" ++ source ++ "': " ++ reasonOf e ++ "\n")
    return 1
  | .ok bytes =>
    let path : Path := if disk.isDirectory ⟨target⟩
      then (Path.mk target).join (((Path.mk source).fileName?).getD source) else ⟨target⟩
    match disk.locate path, disk.locate ⟨source⟩ with
    | .ok place, .ok old =>
      changeDisk fun disk => (if keep then disk else disk.remove old).put place (.file bytes)
      return 0
    | _, _ =>
      say streams.err (s!"{tool}: cannot create regular file '" ++ target ++ "': "
        ++ reasonOf .notFound ++ "\n")
      return 1

/-- The options at the start of arguments, and the others. -/
def splitOptions (args : List String) : List Char × List String :=
  ((args.takeWhile fun arg => arg.startsWith "-").flatMap (·.toList.drop 1),
    args.dropWhile fun arg => arg.startsWith "-")

/-- How many lines are written to a reader that may take fewer, by a tool that writes without
end. -/
def pipeLines : Nat := 4096

/-- Calls a tool, if there is one of that name. -/
def callTool? (streams : Streams) (name : String) (args : List String) : Option (Work Nat) :=
  match name with
  | "true" | ":" => some (return 0)
  | "false" => some (return 1)
  | "echo" => some do
    emit streams.out (echoBytes args)
    return 0
  | "printf" => some do
    match args with
    | [] =>
      complain streams "printf: usage: printf format [arg ...]"
      return 2
    | format :: args =>
      emit streams.out (printfBytes format (args.length + 1) args)
      return 0
  | "cat" => some do
    let (bytes, fine) ← readAll streams "cat" args
    emit streams.out bytes
    return if fine then 0 else 1
  | "head" => some do
    if let "-c" :: count :: names := args then
      let (bytes, fine) ← readAll streams "head" names
      emit streams.out (bytes.take ((integer? count).getD 0).toNat)
      return if fine then 0 else 1
    let (count, names) := takeCount 10 args
    let (bytes, fine) ← readAll streams "head" names
    emit streams.out ((byteLines bytes).take count).flatten
    return if fine then 0 else 1
  | "tail" => some do
    let (count, names) := takeCount 10 args
    let (bytes, fine) ← readAll streams "tail" names
    let lines := byteLines bytes
    emit streams.out (lines.drop (lines.length - count)).flatten
    return if fine then 0 else 1
  | "sort" => some do
    let (flags, names) := splitOptions args
    let (bytes, fine) ← readAll streams "sort" names
    let sorted := ((byteLines bytes).map endLine).mergeSort fun a b => !(b < a)
    emit streams.out (if flags.contains 'r' then sorted.reverse else sorted).flatten
    return if fine then 0 else 2
  | "yes" => some do
    let line := if args.isEmpty then "y" else " ".intercalate args
    match streams.out with
    | .capture _ =>
      say streams.out (String.join (List.replicate pipeLines (line ++ "\n")))
      return 0
    | _ => throw .outOfTime
  | "wait" => some (return 0)
  | "wc" => some do
    let (flags, names) := splitOptions args
    let (bytes, fine) ← readAll streams "wc" names
    let count := if flags.contains 'l' then bytes.count 10 else bytes.length
    say streams.out (" ".intercalate (toString count :: names) ++ "\n")
    return if fine then 0 else 1
  | "seq" => some do
    let (first, last) := match args.filterMap integer? with
      | [last] => (1, last)
      | first :: last :: _ => (first, last)
      | [] => (1, 0)
    say streams.out (String.join ((List.range (last + 1 - first).toNat).map fun (n : Nat) =>
      toString (first + Int.ofNat n) ++ "\n"))
    return 0
  | "grep" => some (grep streams args)
  | "pwd" => some do
    say streams.out (textOf (← get).disk.workingDir ++ "\n")
    return 0
  | "test" => some (return if testHolds (← get).disk args then 0 else 1)
  | "[" => some do
    if args.getLast? == some "]" then
      return if testHolds (← get).disk args.dropLast then 0 else 1
    else
      complain streams "[: missing ]"
      return 2
  | "kill" => some (kill streams args)
  | "sleep" => some do
    match args with
    | [] =>
      say streams.err "sleep: missing operand\nTry 'sleep --help' for more information.\n"
      return 1
    | args =>
      match args.mapM milliseconds? with
      | some spans =>
        sleep (spans.foldl (· + ·) 0)
        return 0
      | none =>
        let bad := (args.find? fun arg => (milliseconds? arg).isNone).getD ""
        say streams.err ("sleep: invalid time interval '" ++ bad
          ++ "'\nTry 'sleep --help' for more information.\n")
        return 1
  | "cd" => some do
    let target := args.head?.getD ((← valueOf? "HOME").getD "")
    let disk := (← get).disk
    match disk.locate ⟨target⟩, disk.isDirectory ⟨target⟩ with
    | .ok place, true =>
      changeDisk ({ · with workingDir := place })
      return 0
    | _, _ =>
      complain streams ("cd: can't cd to " ++ target)
      return 2
  | "mkdir" => some do
    let (flags, names) := splitOptions args
    forEachName names (makeDirectory streams (flags.contains 'p'))
  | "rm" => some do
    let (flags, names) := splitOptions args
    forEachName names (remove streams (flags.any "rR".toList.contains) (flags.contains 'f'))
  | "touch" => some (forEachName args (touch streams))
  | "ls" => some do
    let names := (splitOptions args).2
    let status ← forEachName (if names.isEmpty then ["."] else names) (list streams)
    return 2 * status
  | "cp" | "mv" => some do
    match (splitOptions args).2 with
    | [source, target] => transfer streams name (name == "cp") source target
    | _ =>
      say streams.err s!"{name}: missing file operand\n"
      return 1
  | _ => none

end TaskLoop.Shell
