import TaskLoop.Text.Regex.Expression
import TaskLoop.Decimal.Read
import TaskLoop.Text.Hex

/-!
Reading search patterns: literals, classes, groups with flags, repetitions and anchors. Patterns
have neither back references nor looks around.
-/

set_option autoImplicit false

namespace TaskLoop.Text.Regex

/-- The flags in force at a place of a pattern. -/
structure Flags where
  anyCase : Bool := false
  multiLine : Bool := false
  dotAll : Bool := false
  spaced : Bool := false
  crlf : Bool := false
  unicode : Bool := true

/-- Drops blanks and comments where the pattern is written with spaces. -/
def dropSpace (flags : Flags) : List Char → List Char
  | text =>
    if flags.spaced then go text.length text else text
where
  /-- A comment runs from a hash to the end of its line. -/
  go : Nat → List Char → List Char
    | 0, text => text
    | steps + 1, text =>
      match text.dropWhile isBlank with
      | '#' :: rest => go steps (rest.dropWhile (· != '\n'))
      | rest => rest

/-- Characters that mean something outside of classes. -/
def isMeta (c : Char) : Bool := "\\.+*?()|[]\x7b\x7d^$#&-~".toList.contains c

/-- One character, in any letter case if the flags say so. -/
def literalSet (flags : Flags) (c : Char) : CharSet :=
  if flags.anyCase then .anyCase (.only c) else .only c

/-- What an escape stands for. -/
inductive Escape where
  | literal (c : Char)
  | class_ (set : CharSet)
  | anchor (place : Anchor)

/-- Reads the digits of a numeric escape: a fixed count of them, or any count in braces. -/
def readHex (width : Nat) : List Char → Option (Escape × List Char)
  | '\x7b' :: rest =>
    let digits := rest.takeWhile (· != '\x7d')
    match rest.drop digits.length with
    | _ :: rest =>
      if 8 < digits.length then none
      else do return (.literal (← charOf? (← hexNumber? digits)), rest)
    | [] => none
  | rest =>
    if rest.length < width then none
    else do return (.literal (← charOf? (← hexNumber? (rest.take width))), rest.drop width)

/-- The letters of a property's name without marks, in lower case. -/
def looseName (name : List Char) : List Char :=
  let letters := (name.filter fun c => !(c == ' ' || c == '_' || c == '-')).map Char.toLower
  match letters with
  | 'i' :: 's' :: rest => if rest.isEmpty then letters else rest
  | _ => letters

/-- All letters. -/
def letters : CharSet :=
  [CharClass.uppercaseLetter, CharClass.lowercaseLetter, CharClass.titlecaseLetter,
    CharClass.modifierLetter, CharClass.otherLetter].foldl
    (fun set table => .union set (.named (.ranges table))) .none

/-- The set of a property by its loose name. -/
def property? (name : List Char) : Option CharSet :=
  let table (ranges : List (Nat × Nat)) : Option CharSet := some (.named (.ranges ranges))
  match String.ofList name with
  | "l" | "letter" => some letters
  | "lu" | "uppercaseletter" | "upper" | "uppercase" => table CharClass.uppercaseLetter
  | "ll" | "lowercaseletter" | "lower" | "lowercase" => table CharClass.lowercaseLetter
  | "lt" | "titlecaseletter" => table CharClass.titlecaseLetter
  | "lm" | "modifierletter" => table CharClass.modifierLetter
  | "lo" | "otherletter" => table CharClass.otherLetter
  | "m" | "mark" | "combiningmark" => table CharClass.mark
  | "n" | "number" =>
    some (.union (.named (.ranges CharClass.decimalDigit)) (.named (.ranges CharClass.otherNumber)))
  | "nd" | "decimalnumber" | "digit" => table CharClass.decimalDigit
  | "nl" | "letternumber" => table CharClass.letterNumber
  | "no" | "othernumber" =>
    some (.minus (.named (.ranges CharClass.otherNumber))
      (.named (.ranges CharClass.letterNumber)))
  | "p" | "punctuation" | "punct" => table CharClass.punctuation
  | "s" | "symbol" => table CharClass.symbol
  | "alphabetic" | "alpha" => some (.named .alphabetic)
  | "whitespace" | "wspace" | "space" => some (.named .blank)
  | "any" => some (.complement .none)
  | "ascii" => some (.range (Char.ofNat 0) (Char.ofNat 127))
  | "latin" | "latn" => table CharClass.latin
  | "greek" | "grek" => table CharClass.greek
  | "cyrillic" | "cyrl" => table CharClass.cyrillic
  | "han" | "hani" => table CharClass.han
  | "hiragana" | "hira" => table CharClass.hiragana
  | "katakana" | "kana" => table CharClass.katakana
  | _ => none

/-- Reads the name of a property, one letter or a name in braces, after `\p` or `\P`. -/
def readProperty (negated : Bool) : List Char → Option (Escape × List Char)
  | '\x7b' :: rest =>
    let body := rest.takeWhile (· != '\x7d')
    match rest.drop body.length with
    | _ :: rest =>
      let (turned, body) := match body with
        | '^' :: body => (true, body)
        | body => (false, body)
      let (differs, name) :=
        match body.dropWhile (fun c => c != '=' && c != ':' && c != '!') with
        | '!' :: '=' :: value => (true, value)
        | _ :: value => (false, value)
        | [] => (false, body)
      do
        let set ← property? (looseName name)
        return (.class_ (if (negated != turned) != differs then .complement set else set), rest)
    | [] => none
  | c :: rest => do
    let set ← property? (looseName [c])
    return (.class_ (if negated then .complement set else set), rest)
  | [] => none

/-- The set of a one-letter class. -/
def perlClass? (flags : Flags) (c : Char) : Option CharSet :=
  let pick (wide ascii : Named) : CharSet := .named (if flags.unicode then wide else ascii)
  match c with
  | 'd' => some (pick .digit .asciiDigit)
  | 's' => some (pick .blank .asciiBlank)
  | 'w' => some (pick .word .asciiWord)
  | 'D' => if flags.unicode then some (.complement (.named .digit)) else none
  | 'S' => if flags.unicode then some (.complement (.named .blank)) else none
  | 'W' => if flags.unicode then some (.complement (.named .word)) else none
  | _ => none

/-- Reads what follows the `b` of a word boundary: one of four kinds in braces, or nothing. -/
def readBoundary (flags : Flags) (rest : List Char) : Option (Escape × List Char) :=
  let plain : Escape := .anchor (.boundary (!flags.unicode))
  match rest with
  | '\x7b' :: inner =>
    match inner with
    | c :: _ =>
      if c.isAlpha || c == '-' then
        let body := inner.takeWhile (· != '\x7d')
        match inner.drop body.length with
        | _ :: after =>
          match String.ofList body with
          | "start" => some (.anchor .wordStart, after)
          | "end" => some (.anchor .wordEnd, after)
          | "start-half" => some (.anchor .wordStartHalf, after)
          | "end-half" => some (.anchor .wordEndHalf, after)
          | _ => none
        | [] => none
      else some (plain, rest)
    | [] => none
  | _ => some (plain, rest)

/-- Reads an escape after its backslash. -/
def readEscape (flags : Flags) : List Char → Option (Escape × List Char)
  | [] => none
  | 'x' :: rest => readHex 2 rest
  | 'u' :: rest => readHex 4 rest
  | 'U' :: rest => readHex 8 rest
  | 'p' :: rest => readProperty false rest
  | 'P' :: rest => readProperty true rest
  | 'b' :: rest => readBoundary flags rest
  | c :: rest =>
    if ['d', 's', 'w', 'D', 'S', 'W'].contains c then
      (perlClass? flags c).map fun set => (.class_ set, rest)
    else if c.toNat < 128 && !c.isAlphanum && c != '<' && c != '>' then some (.literal c, rest)
    else
      match c with
      | 'a' => some (.literal '\x07', rest)
      | 'f' => some (.literal '\x0c', rest)
      | 't' => some (.literal '\t', rest)
      | 'n' => some (.literal '\n', rest)
      | 'r' => some (.literal '\r', rest)
      | 'v' => some (.literal '\x0b', rest)
      | 'A' => some (.anchor .textStart, rest)
      | 'z' => some (.anchor .textEnd, rest)
      | 'B' => if flags.unicode then some (.anchor .noBoundary, rest) else none
      | '<' => some (.anchor .wordStart, rest)
      | '>' => some (.anchor .wordEnd, rest)
      | _ => none

/-! ### Classes -/

/-- The ASCII classes that have a name in brackets and colons. -/
def bracketName? (name : List Char) : Option CharSet :=
  let union (parts : List (Char × Char)) : Option CharSet :=
    some (parts.foldl (fun set part => .union set (.range part.1 part.2)) .none)
  match String.ofList name with
  | "alnum" => union [('0', '9'), ('A', 'Z'), ('a', 'z')]
  | "alpha" => union [('A', 'Z'), ('a', 'z')]
  | "ascii" => union [(Char.ofNat 0, Char.ofNat 127)]
  | "blank" => union [('\t', '\t'), (' ', ' ')]
  | "cntrl" => union [(Char.ofNat 0, Char.ofNat 31), (Char.ofNat 127, Char.ofNat 127)]
  | "digit" => union [('0', '9')]
  | "graph" => union [('!', '~')]
  | "lower" => union [('a', 'z')]
  | "print" => union [(' ', '~')]
  | "punct" => union [('!', '/'), (':', '@'), ('[', '\x60'), ('\x7b', '~')]
  | "space" => union [('\t', '\r'), (' ', ' ')]
  | "upper" => union [('A', 'Z')]
  | "word" => union [('0', '9'), ('A', 'Z'), ('_', '_'), ('a', 'z')]
  | "xdigit" => union [('0', '9'), ('A', 'F'), ('a', 'f')]
  | _ => none

/-- Reads a named ASCII class such as `[:alpha:]`, after its bracket. -/
def readBracketName : List Char → Option (CharSet × List Char)
  | ':' :: rest =>
    let (negated, rest) := match rest with
      | '^' :: rest => (true, rest)
      | rest => (false, rest)
    let name := rest.takeWhile (· != ':')
    match rest.drop name.length with
    | ':' :: ']' :: rest =>
      (bracketName? name).map fun set => (if negated then .complement set else set, rest)
    | _ => none
  | _ => none

/-- One member of a class: a character, or a whole set. -/
def readMember (flags : Flags) : List Char → Option (Escape × List Char)
  | [] => none
  | '\\' :: rest =>
    match readEscape flags rest with
    | some (.anchor _, _) | none => none
    | found => found
  | c :: rest => some (.literal c, rest)

/-- The operators between the parts of a class. -/
def setOperator? : List Char → Option ((CharSet → CharSet → CharSet) × List Char)
  | '&' :: '&' :: rest => some (CharSet.both, rest)
  | '-' :: '-' :: rest => some (CharSet.minus, rest)
  | '~' :: '~' :: rest => some (CharSet.either, rest)
  | _ => none

/-- A finished class: without regard to letter case if the flags say so, and turned round if it is
negated. -/
def finishClass (flags : Flags) (negated : Bool) (set : CharSet) : CharSet :=
  let set := if flags.anyCase then .anyCase set else set
  if negated then .complement set else set

/-- Reads members of a class and a range between two of them. -/
def readRange (flags : Flags) (text : List Char) : Option (CharSet × List Char) := do
  let (first, rest) ← readMember flags text
  let rest := dropSpace flags rest
  let alone : Option (CharSet × List Char) := match first with
    | .literal c => some (.only c, rest)
    | .class_ set => some (set, rest)
    | .anchor _ => none
  match rest with
  | [] => none
  | '-' :: after =>
    match dropSpace flags after with
    | ']' :: _ | '-' :: _ => alone
    | after =>
      let (second, rest) ← readMember flags after
      match first, second with
      | .literal low, .literal high => if low ≤ high then some (.range low high, rest) else none
      | _, _ => none
  | _ => alone

mutual

/-- Reads a class after its opening bracket; the first argument bounds the steps. -/
def readClass (flags : Flags) : Nat → List Char → Option (CharSet × List Char)
  | 0, _ => none
  | steps + 1, text =>
    let text := dropSpace flags text
    let (negated, text) := match text with
      | '^' :: rest => (true, dropSpace flags rest)
      | rest => (false, rest)
    if negated && !flags.unicode then none
    else
      let hyphens := text.takeWhile (· == '-')
      let text := dropSpace flags (text.drop hyphens.length)
      let start : CharSet := if hyphens.isEmpty then .none else .only '-'
      let (start, text) := match text with
        | ']' :: rest => if hyphens.isEmpty then (CharSet.only ']', rest) else (start, text)
        | _ => (start, text)
      (readMembers flags steps none start text).map fun (set, rest) =>
        (finishClass flags negated set, rest)

/-- Reads the members of a class up to its closing bracket. The part before the last operator is
kept with the operator. -/
def readMembers (flags : Flags) : Nat → Option (CharSet → CharSet) → CharSet → List Char →
    Option (CharSet × List Char)
  | 0, _, _, _ => none
  | steps + 1, pending, current, text =>
    let text := dropSpace flags text
    let whole := match pending with
      | some combine => combine current
      | none => current
    match text with
    | [] => none
    | ']' :: rest => some (whole, rest)
    | '[' :: rest =>
      match readBracketName rest with
      | some (set, rest) => readMembers flags steps pending (.union current set) rest
      | none =>
        match readClass flags steps rest with
        | some (set, rest) => readMembers flags steps pending (.union current set) rest
        | none => none
    | text =>
      match setOperator? text with
      | some (operator, rest) => readMembers flags steps (some (operator whole)) .none rest
      | none =>
        match readRange flags text with
        | some (set, rest) => readMembers flags steps pending (.union current set) rest
        | none => none

end

/-! ### Groups -/

/-- Reads the flags of a group up to `:` or `)`, and says which of the two it was. -/
def readFlags : Flags → List Char → Bool → Bool → List Char → Option (Flags × Char × List Char)
  | _, _, _, _, [] => none
  | flags, seen, negated, dangling, c :: rest =>
    let set (flags : Flags) : Option (Flags × Char × List Char) :=
      if seen.contains c then none else readFlags flags (c :: seen) negated false rest
    match c with
    | ')' => if dangling || seen.isEmpty then none else some (flags, ')', rest)
    | ':' => if dangling then none else some (flags, ':', rest)
    | '-' => if negated then none else readFlags flags seen true true rest
    | 'i' => set { flags with anyCase := !negated }
    | 'm' => set { flags with multiLine := !negated }
    | 's' => set { flags with dotAll := !negated }
    | 'x' => set { flags with spaced := !negated }
    | 'u' => set { flags with unicode := !negated }
    | 'R' => set { flags with crlf := !negated }
    | 'U' => set flags
    | _ => none

/-- Reads the name of a group up to `>`. -/
def readGroupName (text : List Char) : Option (List Char × List Char) :=
  let name := text.takeWhile (· != '>')
  match text.drop name.length with
  | [] => none
  | _ :: rest =>
    let startsName (c : Char) : Bool := c == '_' || isAlphanumeric c && !isDecimalDigit c
    let inName (c : Char) : Bool :=
      c == '_' || c == '.' || c == '[' || c == ']' || isAlphanumeric c
    if name.head?.any startsName && name.all inName then some (name, rest) else none

/-- Reads a decimal number with blanks around it. -/
def readCount (text : List Char) : Option (Nat × List Char) :=
  let text := text.dropWhile isBlank
  let digits := text.takeWhile Char.isDigit
  (Decimal.natBelow? (powerOfTwo 32) digits).map fun n =>
    (n, (text.drop digits.length).dropWhile isBlank)

/-- Reads the bounds of a counted repetition after its brace. -/
def readBounds (text : List Char) : Option (Nat × Option Nat × List Char) := do
  let (least, rest) ← readCount text
  match rest with
  | '\x7d' :: rest => return (least, some least, rest)
  | ',' :: rest =>
    match rest.dropWhile isBlank with
    | '\x7d' :: rest => return (least, none, rest)
    | rest =>
      let (most, rest) ← readCount rest
      match rest with
      | '\x7d' :: rest => if least ≤ most then return (least, some most, rest) else none
      | _ => none
  | _ => none

/-- The characters a dot stands for. -/
def dotSet (flags : Flags) : CharSet :=
  if flags.dotAll then .complement .none
  else if flags.crlf then .complement (.union (.only '\n') (.only '\r'))
  else .complement (.only '\n')

/-- What is read of a group so far: its alternatives, the parts of the current one with the last
first (a change of flags is a part that nothing can repeat), and the names of groups. -/
structure Progress where
  flags : Flags
  alternatives : Option Expression
  parts : List (Option Expression)
  names : List (List Char)

namespace Progress

/-- The current alternative. -/
def branch (progress : Progress) : Expression :=
  progress.parts.foldl
    (fun rest part => match part with
      | some part => .seq part rest
      | none => rest)
    .empty

/-- Everything read so far. -/
def whole (progress : Progress) : Expression :=
  match progress.alternatives with
  | some others => .alt others progress.branch
  | none => progress.branch

/-- Adds a part. -/
def push (progress : Progress) (part : Expression) : Progress :=
  { progress with parts := some part :: progress.parts }

/-- Repeats the last part. -/
def repeatLast? (progress : Progress) (least : Nat) (most : Option Nat) : Option Progress :=
  match progress.parts with
  | some part :: rest => some { progress with parts := some (.repeat part least most) :: rest }
  | _ => none

end Progress

/-- The text after the mark of a reluctant repetition, which changes no answer. -/
def dropReluctant (flags : Flags) (text : List Char) : List Char :=
  match dropSpace flags text with
  | '?' :: rest => rest
  | rest => rest

/-- Reads the parts of a group up to its closing bracket, or of a whole pattern up to its end. -/
def readParts : Nat → Bool → Progress → List Char →
    Option (Expression × List (List Char) × List Char)
  | 0, _, _, _ => none
  | steps + 1, inGroup, progress, text =>
    let flags := progress.flags
    let repeated (least : Nat) (most : Option Nat) (rest : List Char) :
        Option (Expression × List (List Char) × List Char) :=
      match progress.repeatLast? least most with
      | some progress => readParts steps inGroup progress (dropReluctant flags rest)
      | none => none
    let group (flags : Flags) (names : List (List Char)) (rest : List Char) :
        Option (Expression × List (List Char) × List Char) :=
      match readParts steps true ⟨flags, none, [], names⟩ rest with
      | some (inner, names, rest) =>
        readParts steps inGroup { progress.push inner with names := names } rest
      | none => none
    match dropSpace flags text with
    | [] => if inGroup then none else some (progress.whole, progress.names, [])
    | ')' :: rest => if inGroup then some (progress.whole, progress.names, rest) else none
    | '|' :: rest =>
      readParts steps inGroup
        { progress with alternatives := some progress.whole, parts := [] } rest
    | '*' :: rest => repeated 0 none rest
    | '+' :: rest => repeated 1 none rest
    | '?' :: rest => repeated 0 (some 1) rest
    | '\x7b' :: rest =>
      match readBounds rest with
      | some (least, most, rest) => repeated least most rest
      | none => none
    | '(' :: rest =>
      match dropSpace flags rest with
      | '?' :: 'P' :: '<' :: rest | '?' :: '<' :: rest =>
        match readGroupName rest with
        | some (name, rest) =>
          if progress.names.contains name then none else group flags (name :: progress.names) rest
        | none => none
      | '?' :: rest =>
        match readFlags flags [] false false rest with
        | some (flags, ')', rest) =>
          readParts steps inGroup
            { progress with flags := flags, parts := none :: progress.parts } rest
        | some (flags, _, rest) => group flags progress.names rest
        | none => none
      | rest => group flags progress.names rest
    | '[' :: rest =>
      match readClass flags steps rest with
      | some (set, rest) => readParts steps inGroup (progress.push (.char set)) rest
      | none => none
    | '.' :: rest =>
      if flags.unicode then readParts steps inGroup (progress.push (.char (dotSet flags))) rest
      else none
    | '^' :: rest =>
      let place := if !flags.multiLine then Anchor.textStart
        else if flags.crlf then .crlfLineStart else .lineStart
      readParts steps inGroup (progress.push (.anchor place)) rest
    | '$' :: rest =>
      let place := if !flags.multiLine then Anchor.textEnd
        else if flags.crlf then .crlfLineEnd else .lineEnd
      readParts steps inGroup (progress.push (.anchor place)) rest
    | '\\' :: rest =>
      match readEscape flags rest with
      | some (.literal c, rest) =>
        readParts steps inGroup (progress.push (.char (literalSet flags c))) rest
      | some (.class_ set, rest) =>
        let set := if flags.anyCase then .anyCase set else set
        readParts steps inGroup (progress.push (.char set)) rest
      | some (.anchor place, rest) =>
        readParts steps inGroup (progress.push (.anchor place)) rest
      | none => none
    | c :: rest => readParts steps inGroup (progress.push (.char (literalSet flags c))) rest

/-- The most bytes the automaton of a pattern may take. -/
def weightLimit : Nat := 10 * 1024 * 1024

/-- Reads a search pattern. One that is too large is refused like one that is wrong. -/
def ofText? (text : List Char) : Option Expression :=
  match readParts (2 * text.length + 2) false ⟨{}, none, [], []⟩ text with
  | some (expression, _) => if expression.weight ≤ weightLimit then some expression else none
  | none => none

end TaskLoop.Text.Regex
