import TaskLoop.Shell.Command

/-!
Reading shell commands. Each function takes a number that bounds how deep it may go; a text needs
no more than a multiple of its length.
-/

set_option autoImplicit false

namespace TaskLoop.Shell

/-- What is left to read, and the number of its first line. -/
structure Cursor where
  rest : List Char
  line : Nat

/-- A reader that may end at a fault. -/
abbrev Reader := StateT Cursor (Except String)

namespace Reader

/-- The next character. -/
def peek : Reader (Option Char) := return (← get).rest.head?

/-- Whether a text comes next. -/
def sees (text : String) : Reader Bool := return text.toList.isPrefixOf (← get).rest

/-- Goes past characters. -/
def skip (count : Nat) : Reader Unit := modify fun cursor =>
  ⟨cursor.rest.drop count, cursor.line + (cursor.rest.take count).count '\n'⟩

/-- Takes the longest run of characters of a kind. -/
def takeRun (kind : Char → Bool) : Reader (List Char) := do
  let run := (← get).rest.takeWhile kind
  skip run.length
  return run

/-- Goes past a text if it comes next. -/
def accept (text : String) : Reader Bool := do
  if ← sees text then
    skip text.length
    return true
  else return false

/-- Stops at a fault. -/
def fault {α : Type} (message : String) : Reader α := do
  let line := (← get).line
  throw s!"sh: {line}: Syntax error: {message}\n"

end Reader

open Reader

/-- Whether a character ends a word. -/
def endsWord (c : Char) : Bool := " \t\n;&|<>()".toList.contains c

/-- Whether a character may begin a name. -/
def beginsName (c : Char) : Bool := c.isAlpha || c == '_'

/-- Whether a character may stand in a name. -/
def inName (c : Char) : Bool := c.isAlphanum || c == '_'

/-- The words that are part of how commands are joined. -/
def reserved : List String :=
  ["if", "then", "elif", "else", "fi", "while", "until", "for", "do", "done", "in", "\x7b", "\x7d",
    "!"]

/-- Goes past blanks, continued lines and a comment. -/
def skipBlanks : Nat → Reader Unit
  | 0 => return ()
  | fuel + 1 => do
    if ← accept "\\\n" then skipBlanks fuel
    else
      match ← peek with
      | some ' ' | some '\t' =>
        skip 1
        skipBlanks fuel
      | some '#' => let _ ← takeRun (· != '\n')
      | _ => return ()

/-- Goes past blanks and ends of lines. -/
def skipLines : Nat → Reader Unit
  | 0 => return ()
  | fuel + 1 => do
    skipBlanks (fuel + 1)
    if ← accept "\n" then skipLines fuel

/-- What comes next, in the words of a fault. -/
def nextToken : Reader String := do
  let operators := ["&&", "||", ";;", ";", "&", "|", "(", ")"]
  let rest := (← get).rest
  match rest with
  | [] => return "end of file"
  | '\n' :: _ => return "newline"
  | '<' :: _ | '>' :: _ => return "redirection"
  | _ =>
    match operators.find? fun operator => operator.toList.isPrefixOf rest with
    | some operator => return "\"" ++ operator ++ "\""
    | none =>
      let word := String.ofList (rest.takeWhile fun c => !endsWord c)
      return if reserved.contains word then "\"" ++ word ++ "\"" else "word"

/-- Stops at what comes next. -/
def unexpected {α : Type} (wanted : Option String) : Reader α := do
  let token ← nextToken
  match wanted with
  | some wanted => fault (token ++ " unexpected (expecting \"" ++ wanted ++ "\")")
  | none => fault (token ++ " unexpected")

/-- Whether a reserved word comes next. -/
def seesReserved (word : String) : Reader Bool := do
  let rest := (← get).rest
  return String.ofList (rest.takeWhile fun c => !endsWord c) == word

/-- Goes past a reserved word. -/
def expectReserved (fuel : Nat) (word : String) : Reader Unit := do
  skipLines fuel
  if ← seesReserved word then skip word.length else unexpected (some word)

/-- The operator of a redirection and the stream it concerns, if one comes next. -/
def readRedirectHead : Reader (Option (Nat × RedirectKind)) := do
  let rest := (← get).rest
  let digits := rest.takeWhile Char.isDigit
  let stream (default : Nat) : Nat :=
    match digits with
    | [] => default
    | digits => (digits.foldl (fun n c => 10 * n + (c.toNat - 48)) 0)
  let found : Option (Nat × Nat × RedirectKind) :=
    match rest.drop digits.length with
    | '>' :: '>' :: _ => some (2, stream 1, .append)
    | '>' :: '&' :: _ => some (2, stream 1, .duplicate)
    | '<' :: '&' :: _ => some (2, stream 0, .duplicate)
    | '>' :: '|' :: _ => some (2, stream 1, .output)
    | '>' :: _ => some (1, stream 1, .output)
    | '<' :: _ => some (1, stream 0, .input)
    | _ => none
  match found with
  | some (length, number, kind) =>
    skip (digits.length + length)
    return some (number, kind)
  | none => return none

/-- The name that is assigned to at the start of a word. -/
def readAssignedName : Reader (Option String) := do
  let rest := (← get).rest
  let name := rest.takeWhile inName
  match name, rest.drop name.length with
  | first :: _, '=' :: _ =>
    if beginsName first then
      skip (name.length + 1)
      return some (String.ofList name)
    else return none
  | _, _ => return none

/-- The text up to a closing mark, with what a backslash protects. -/
def readProtected (close : Char) : Nat → Reader (List Char)
  | 0 => return []
  | fuel + 1 => do
    match (← get).rest with
    | [] => fault "EOF in backquote substitution"
    | '\\' :: c :: _ =>
      skip 2
      let rest ← readProtected close fuel
      return if c == close || c == '\\' || c == '$' then c :: rest else '\\' :: c :: rest
    | c :: _ =>
      skip 1
      if c == close then return [] else return c :: (← readProtected close fuel)

mutual

/-- The pieces of a word up to a character that ends it. -/
def readPieces (ends : Char → Bool) : Nat → Reader Word
  | 0 => return []
  | fuel + 1 => do
    match (← get).rest with
    | [] => return []
    | c :: rest =>
      if ends c then return []
      else
        let piece ← match c with
          | '\'' => do
            skip 1
            let text ← takeRun (· != '\'')
            if ← accept "'" then pure [Piece.text text true]
            else fault "Unterminated quoted string"
          | '"' => do
            skip 1
            let inside ← readQuoted fuel
            pure (Piece.text [] true :: inside)
          | '\\' => do
            skip 2
            match rest with
            | [] => pure [Piece.text ['\\'] true]
            | '\n' :: _ => pure []
            | c :: _ => pure [Piece.text [c] true]
          | '$' => readDollar false fuel
          | '\x60' => readBackquote false fuel
          | c => do
            skip 1
            pure [Piece.text [c] false]
        return piece ++ (← readPieces ends fuel)

/-- The pieces up to a closing double quote, and past it. -/
def readQuoted : Nat → Reader Word
  | 0 => return []
  | fuel + 1 => do
    match (← get).rest with
    | [] => fault "Unterminated quoted string"
    | '"' :: _ =>
      skip 1
      return []
    | '\\' :: c :: _ =>
      skip 2
      let text := if "$\x60\"\\".toList.contains c then [c] else if c == '\n' then [] else ['\\', c]
      return Piece.text text true :: (← readQuoted fuel)
    | '$' :: _ => return (← readDollar true fuel) ++ (← readQuoted fuel)
    | '\x60' :: _ => return (← readBackquote true fuel) ++ (← readQuoted fuel)
    | c :: _ =>
      skip 1
      return Piece.text [c] true :: (← readQuoted fuel)

/-- A command between backquotes. -/
def readBackquote (quoted : Bool) : Nat → Reader Word
  | 0 => return []
  | fuel + 1 => do
    skip 1
    let line := (← get).line
    let text ← readProtected '\x60' fuel
    match (readList fuel).run ⟨text, line⟩ with
    | .ok (body, _) => return [.output body quoted]
    | .error message => throw message

/-- What a dollar sign introduces. -/
def readDollar (quoted : Bool) : Nat → Reader Word
  | 0 => return []
  | fuel + 1 => do
    skip 1
    match (← get).rest with
    | '(' :: '(' :: _ =>
      skip 2
      let expression ← readPieces (· == ')') fuel
      if ← accept "))" then return [.sum expression] else fault "Missing '))'"
    | '(' :: _ =>
      skip 1
      let body ← readList fuel
      skipLines fuel
      if ← accept ")" then return [.output body quoted] else unexpected (some ")")
    | '\x7b' :: _ =>
      skip 1
      let name ← takeRun fun c => c != '\x7d' && c != ':' && c != '-'
      let _ ← accept ":"
      let instead ← if ← accept "-" then readPieces (· == '\x7d') fuel else pure []
      if ← accept "\x7d" then return [.parameter (String.ofList name) instead quoted]
      else fault "Bad substitution"
    | c :: _ =>
      if beginsName c then
        let name ← takeRun inName
        return [.parameter (String.ofList name) [] quoted]
      else if c.isDigit || "?$#@*!-".toList.contains c then
        skip 1
        return [.parameter (String.ofList [c]) [] quoted]
      else return [.text ['$'] quoted]
    | [] => return [.text ['$'] quoted]

/-- The words and redirections of a simple command. -/
def readSimple (line : Nat) (assignments : List (String × Word)) (words : List Word)
    (redirects : List Redirect) : Nat → Reader Command
  | 0 => return default
  | fuel + 1 => do
    skipBlanks (fuel + 1)
    match ← readRedirectHead with
    | some (stream, kind) =>
      skipBlanks (fuel + 1)
      let target ← readPieces endsWord fuel
      if target.isEmpty then unexpected none
      else readSimple line assignments words (redirects ++ [.mk stream kind target]) fuel
    | none =>
      match ← peek with
      | none => return .simple line assignments words redirects
      | some c =>
        if endsWord c then
          if c == '(' then unexpected none
          else return .simple line assignments words redirects
        else
          match ← (if words.isEmpty then readAssignedName else pure none) with
          | some name =>
            let value ← readPieces endsWord fuel
            readSimple line (assignments ++ [(name, value)]) words redirects fuel
          | none =>
            let word ← readPieces endsWord fuel
            readSimple line assignments (words ++ [word]) redirects fuel

/-- The redirections behind a compound command. -/
def readRedirects : Nat → Reader (List Redirect)
  | 0 => return []
  | fuel + 1 => do
    skipBlanks (fuel + 1)
    match ← readRedirectHead with
    | some (stream, kind) =>
      skipBlanks (fuel + 1)
      let target ← readPieces endsWord fuel
      return .mk stream kind target :: (← readRedirects fuel)
    | none => return []

/-- The words that a loop goes through. -/
def readWords : Nat → Reader (List Word)
  | 0 => return []
  | fuel + 1 => do
    skipBlanks (fuel + 1)
    match ← peek with
    | none => return []
    | some c =>
      if endsWord c then return []
      else
        let word ← readPieces endsWord fuel
        return word :: (← readWords fuel)

/-- The rest of a choice, behind its first condition. -/
def readBranches : Nat → Reader Command
  | 0 => return default
  | fuel + 1 => do
    let condition ← readList fuel
    expectReserved fuel "then"
    let yes ← readList fuel
    skipLines fuel
    if ← seesReserved "elif" then
      skip 4
      return .choice condition yes (← readBranches fuel)
    else if ← seesReserved "else" then
      skip 4
      let no ← readList fuel
      expectReserved fuel "fi"
      return .choice condition yes no
    else
      expectReserved fuel "fi"
      return .choice condition yes (.sequence [])

/-- One command without the operators that join commands. -/
def readCommand : Nat → Reader Command
  | 0 => return default
  | fuel + 1 => do
    skipBlanks (fuel + 1)
    let line := (← get).line
    if ← accept "(" then
      let body ← readList fuel
      skipLines fuel
      if ← accept ")" then return .subshell body (← readRedirects fuel)
      else unexpected (some ")")
    else if ← seesReserved "\x7b" then
      skip 1
      let body ← readList fuel
      expectReserved fuel "\x7d"
      return .group body (← readRedirects fuel)
    else if ← seesReserved "if" then
      skip 2
      let choice ← readBranches fuel
      return .group choice (← readRedirects fuel)
    else if (← seesReserved "while") || (← seesReserved "until") then
      let stopOn ← seesReserved "until"
      skip 5
      let condition ← readList fuel
      expectReserved fuel "do"
      let body ← readList fuel
      expectReserved fuel "done"
      return .group (.loop stopOn condition body) (← readRedirects fuel)
    else if ← seesReserved "for" then
      skip 3
      skipBlanks (fuel + 1)
      let name ← takeRun inName
      skipBlanks (fuel + 1)
      let words ← if ← seesReserved "in" then do
          skip 2
          readWords fuel
        else pure []
      skipBlanks (fuel + 1)
      let _ ← accept ";"
      expectReserved fuel "do"
      let body ← readList fuel
      expectReserved fuel "done"
      return .group (.each (String.ofList name) words body) (← readRedirects fuel)
    else
      let word := String.ofList ((← get).rest.takeWhile fun c => !endsWord c)
      if reserved.contains word then unexpected none
      else
        let before := (← get).rest.length
        let command ← readSimple line [] [] [] fuel
        if (← get).rest.length == before then unexpected none else return command

/-- Commands joined by pipes. -/
def readPipeline (parts : List Command) : Nat → Reader (List Command)
  | 0 => return parts
  | fuel + 1 => do
    skipLines fuel
    let part ← readCommand fuel
    skipBlanks (fuel + 1)
    if (← sees "|") && !(← sees "||") then
      skip 1
      readPipeline (parts ++ [part]) fuel
    else return parts ++ [part]

/-- A pipeline that may be negated. -/
def readNegatable : Nat → Reader Command
  | 0 => return default
  | fuel + 1 => do
    skipLines (fuel + 1)
    if ← seesReserved "!" then
      skip 1
      return .pipeline true (← readPipeline [] fuel)
    else
      match ← readPipeline [] fuel with
      | [command] => return command
      | parts => return .pipeline false parts

/-- Pipelines joined by conditions, behind a first one. -/
def readConditions (first : Command) : Nat → Reader Command
  | 0 => return first
  | fuel + 1 => do
    skipBlanks (fuel + 1)
    if ← accept "&&" then
      let second ← readNegatable fuel
      readConditions (.both first second) fuel
    else if ← accept "||" then
      let second ← readNegatable fuel
      readConditions (.either first second) fuel
    else return first

/-- Commands one after another, on any number of lines, up to what cannot begin a command. -/
def readList : Nat → Reader Command
  | 0 => return default
  | fuel + 1 => do
    skipLines (fuel + 1)
    let token ← nextToken
    let ends := ["end of file", "\")\"", "\"then\"", "\"elif\"", "\"else\"", "\"fi\"", "\"do\"",
      "\"done\"", "\"\x7d\""]
    if ends.contains token then return .sequence []
    else
      let first ← readConditions (← readNegatable fuel) fuel
      let first ← readTerminator first fuel
      match ← readList fuel with
      | .sequence rest => return .sequence (first :: rest)
      | other => return .sequence [first, other]

/-- What ends a command: a semicolon or the end of a line, or a sign that it is not waited for. -/
def readTerminator (command : Command) : Nat → Reader Command
  | 0 => return command
  | fuel + 1 => do
    skipBlanks (fuel + 1)
    if (← sees ";") && !(← sees ";;") then
      skip 1
      return command
    else if (← sees "&") && !(← sees "&&") then
      skip 1
      return .background command
    else return command

end

/-- The commands of one line. -/
def readLine (fuel : Nat) : Reader (List Command) := do
  let rec go : Nat → Reader (List Command)
    | 0 => return []
    | n + 1 => do
      skipBlanks fuel
      match ← nextToken with
      | "end of file" => return []
      | "newline" => return []
      | _ =>
        let command ← readTerminator (← readConditions (← readNegatable fuel) fuel) fuel
        skipBlanks fuel
        match ← nextToken with
        | "end of file" | "newline" => return [command]
        | _ =>
          if (← get).rest.head?.any endsWord && (← nextToken) != "\"(\"" &&
              (← nextToken) != "redirection" then unexpected none
          else return command :: (← go n)
  go fuel

/-- All lines, up to the first fault. -/
def readLines (depth : Nat) : Nat → Cursor → Script
  | 0, _ => ⟨[], none⟩
  | fuel + 1, cursor =>
    let start := do
      skipLines depth
      let line ← readLine depth
      return line
    match start.run cursor with
    | .error message => ⟨[], some message⟩
    | .ok (line, after) =>
      if after.rest.isEmpty then ⟨line, none⟩
      else
        let script := readLines depth fuel after
        ⟨line ++ script.commands, script.fault⟩

/-- The commands of a text. -/
def Script.ofText (text : List Char) : Script :=
  readLines (16 * text.length + 64) (text.length + 1) ⟨text, 1⟩

end TaskLoop.Shell
