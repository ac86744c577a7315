/-!
Commands as a shell reads them: words with what is to be expanded in them, redirections, and the
ways to join commands.
-/

set_option autoImplicit false

namespace TaskLoop.Shell

/-- Where a redirection leads: out of a file, into it, behind what it holds, or to wherever
another stream leads. -/
inductive RedirectKind where
  | input
  | output
  | append
  | duplicate
  deriving DecidableEq, Repr

mutual

/-- A piece of a word. A quoted piece is never split. -/
inductive Piece where
  | text (chars : List Char) (quoted : Bool)
  | parameter (name : String) (instead : List Piece) (quoted : Bool)
  | output (body : Command) (quoted : Bool)
  | sum (expression : List Piece)

/-- A redirection of the stream with a number. -/
inductive Redirect where
  | mk (stream : Nat) (kind : RedirectKind) (target : List Piece)

/-- A command. A simple one knows the line it stands on. -/
inductive Command where
  | simple (line : Nat) (assignments : List (String × List Piece)) (words : List (List Piece))
      (redirects : List Redirect)
  | pipeline (negated : Bool) (parts : List Command)
  | both (first second : Command)
  | either (first second : Command)
  | sequence (parts : List Command)
  | background (body : Command)
  | subshell (body : Command) (redirects : List Redirect)
  | group (body : Command) (redirects : List Redirect)
  | choice (condition yes no : Command)
  | loop (stopOn : Bool) (condition body : Command)
  | each (name : String) (words : List (List Piece)) (body : Command)

end

/-- A word: pieces without a blank between them. -/
abbrev Word := List Piece

instance : Inhabited Command := ⟨.sequence []⟩

/-- A text as a shell reads it: complete commands, each of which is run before the next is read,
and the fault that reading ended at. -/
structure Script where
  commands : List Command
  fault : Option String

end TaskLoop.Shell
