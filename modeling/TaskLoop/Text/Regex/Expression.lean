import TaskLoop.Text.Regex.CharSet

/-!
Search patterns and what they match. Matching runs over sets of positions: from the positions
where a part of a pattern may start to those where it may end.
-/

set_option autoImplicit false

namespace TaskLoop.Text.Regex

/-- A condition on a place in the text, between two characters or at an end. -/
inductive Anchor where
  | textStart
  | textEnd
  | lineStart
  | lineEnd
  | crlfLineStart
  | crlfLineEnd
  | boundary (ascii : Bool)
  | noBoundary
  | wordStart
  | wordEnd
  | wordStartHalf
  | wordEndHalf
  deriving DecidableEq, Repr

/-- A search pattern. -/
inductive Expression where
  | empty
  | char (set : CharSet)
  | anchor (place : Anchor)
  | seq (first second : Expression)
  | alt (left right : Expression)
  | repeat (inner : Expression) (least : Nat) (most : Option Nat)

/-- Whether a condition holds between two neighbours, either of which may be missing. -/
def Anchor.holds (place : Anchor) (before after : Option Char) : Bool :=
  let isWord (c : Option Char) : Bool := c.any isWordChar
  let isAsciiWord (c : Option Char) : Bool := c.any (Named.asciiWord.holds ·)
  match place with
  | textStart => before.isNone
  | textEnd => after.isNone
  | lineStart => before.isNone || before == some '\n'
  | lineEnd => after.isNone || after == some '\n'
  | crlfLineStart =>
    before.isNone || before == some '\n' || (before == some '\r' && after != some '\n')
  | crlfLineEnd =>
    after.isNone || after == some '\r' || (after == some '\n' && before != some '\r')
  | boundary ascii =>
    if ascii then isAsciiWord before != isAsciiWord after else isWord before != isWord after
  | noBoundary => isWord before == isWord after
  | wordStart => !isWord before && isWord after
  | wordEnd => isWord before && !isWord after
  | wordStartHalf => !isWord before
  | wordEndHalf => !isWord after

/-- About how many bytes the automaton of a pattern takes. A counted repetition is written out, with
a way round each part that may be missing. -/
def Expression.weight : Expression → Nat
  | empty => 0
  | char set => set.weight
  | anchor _ => 32
  | seq first second => first.weight + second.weight
  | alt left right => left.weight + right.weight + 40
  | .repeat inner least most =>
    match most with
    | some most => most * inner.weight + (most - least) * 40
    | none => max 1 least * inner.weight + 40

/-- A text with its characters by position. -/
abbrev Subject := Array Char

/-- The character before a position. -/
def charBefore (subject : Subject) : Nat → Option Char
  | 0 => none
  | position + 1 => subject[position]?

/-- Applies a step a number of times, until nothing is left. -/
def iterate (step : List Nat → List Nat) : Nat → List Nat → List Nat
  | 0, positions => positions
  | count + 1, positions => if positions.isEmpty then [] else iterate step count (step positions)

/-- All positions reached by at most a number of applications of a step. -/
def closure (step : List Nat → List Nat) : Nat → List Nat → List Nat → List Nat
  | 0, _, reached => reached
  | count + 1, fresh, reached =>
    let next := ((step fresh).filter fun position => !reached.contains position).eraseDups
    if next.isEmpty then reached else closure step count next (reached ++ next)

/-- The positions where a pattern can end when it starts at one of the given positions. More
repetitions than the text has characters and one add nothing. -/
def Expression.ends (subject : Subject) : Expression → List Nat → List Nat
  | empty, positions => positions
  | char set, positions =>
    positions.filterMap fun position =>
      match subject[position]? with
      | some c => if set.holds c then some (position + 1) else none
      | none => none
  | anchor place, positions =>
    positions.filter fun position =>
      place.holds (charBefore subject position) subject[position]?
  | seq first second, positions => second.ends subject (first.ends subject positions)
  | alt left right, positions =>
    (left.ends subject positions ++ right.ends subject positions).eraseDups
  | .repeat inner least most, positions =>
    let bound := subject.size + 1
    let step := fun reached => inner.ends subject reached
    let start := (iterate step (min least bound) positions).eraseDups
    match most with
    | some most => closure step (min (most - least) bound) start start
    | none => closure step bound start start

/-- Whether a pattern matches somewhere in a text. -/
def Expression.matches (expression : Expression) (text : List Char) : Bool :=
  let subject := text.toArray
  !(expression.ends subject (List.range (subject.size + 1))).isEmpty

end TaskLoop.Text.Regex
