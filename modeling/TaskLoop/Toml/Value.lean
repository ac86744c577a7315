import TaskLoop.Decimal.Read

/-!
The values of a settings document, and how its lines build them up: what a line may still add to
depends on how a table came to be.
-/

set_option autoImplicit false

namespace TaskLoop

/-- How a table came to be: under a heading of its own, as the parent of one, through a key with
dots, or written in one piece. -/
inductive TableOrigin where
  | heading
  | parent
  | dotted
  | inline
  deriving DecidableEq, Repr

/-- A value of a settings document. `tables` is an array that grows by headings of its own. -/
inductive Toml where
  | string (value : String)
  | integer (value : Int)
  | real (value : Float)
  | bool (value : Bool)
  | dateTime
  | array (items : List Toml)
  | tables (items : List Toml)
  | table (origin : TableOrigin) (members : List (String × Toml))
  deriving Inhabited

namespace Toml

/-- The members of a table by name. -/
abbrev Members := List (String × Toml)

/-- Puts a value under a name that has none. -/
def define (name : String) (value : Toml) (members : Members) : Option Members :=
  if (members.lookup name).isSome then none else some (members ++ [(name, value)])

/-- Changes the value under a name that has one. -/
def change (name : String) (f : Toml → Option Toml) : Members → Option Members
  | [] => none
  | (key, value) :: rest =>
    if key == name then (f value).map fun value => (key, value) :: rest
    else (change name f rest).map ((key, value) :: ·)

/-- Changes the last item of a list. -/
def changeLast (f : Toml → Option Toml) : List Toml → Option (List Toml)
  | [] => none
  | [item] => (f item).map ([·])
  | item :: rest => (changeLast f rest).map (item :: ·)

/-- Changes the members of a table, or those of the last table of an array that headings made.
What is written in one piece stays as it is. -/
def extend (f : TableOrigin → Members → Option (TableOrigin × Members)) : Toml → Option Toml
  | table origin members =>
    if origin == .inline then none
    else (f origin members).map fun (origin, members) => table origin members
  | tables items =>
    let inner : Toml → Option Toml
      | table origin members =>
        (f origin members).map fun (origin, members) => table origin members
      | _ => none
    (changeLast inner items).map tables
  | _ => none

/-- Adds a key with dots and its value to a table. The tables on the way are made, or were made
by such keys. -/
def assign (value : Toml) : List String → Members → Option Members
  | [], _ => none
  | [name], members => define name value members
  | name :: next :: rest, members =>
    match members.lookup name with
    | none => do
      let inner ← assign value (next :: rest) []
      return members ++ [(name, table .dotted inner)]
    | some _ =>
      change name
        (extend fun origin inner =>
          if origin == .dotted || (origin == .parent && !rest.isEmpty) then
            (assign value (next :: rest) inner).map ((origin, ·))
          else none)
        members

/-- Makes the table of a heading. It may stand already as the parent of another one. -/
def openTable : List String → Members → Option Members
  | [], _ => none
  | [name], members =>
    match members.lookup name with
    | none => some (members ++ [(name, table .heading [])])
    | some _ =>
      change name
        (fun
          | table .parent inner => some (table .heading inner)
          | _ => none)
        members
  | name :: next :: rest, members =>
    match members.lookup name with
    | none => do
      let inner ← openTable (next :: rest) []
      return members ++ [(name, table .parent inner)]
    | some _ =>
      change name
        (extend fun origin inner => (openTable (next :: rest) inner).map ((origin, ·))) members

/-- Adds a table to the array of a heading. -/
def openItem : List String → Members → Option Members
  | [], _ => none
  | [name], members =>
    match members.lookup name with
    | none => some (members ++ [(name, tables [table .heading []])])
    | some _ =>
      change name
        (fun
          | tables items => some (tables (items ++ [table .heading []]))
          | _ => none)
        members
  | name :: next :: rest, members =>
    match members.lookup name with
    | none => do
      let inner ← openItem (next :: rest) []
      return members ++ [(name, table .parent inner)]
    | some _ =>
      change name
        (extend fun origin inner => (openItem (next :: rest) inner).map ((origin, ·))) members

/-- Changes the members of the table that a heading opened. -/
def within (f : Members → Option Members) : List String → Members → Option Members
  | [], members => f members
  | name :: rest, members =>
    change name (extend fun origin inner => (within f rest inner).map ((origin, ·))) members

/-- What a line of a document says. -/
inductive Line where
  | heading (path : List String)
  | itemHeading (path : List String)
  | entry (path : List String) (value : Toml)

/-- Takes in a line; keys belong to the table of the last heading. -/
def takeLine (state : List String × Members) (line : Line) : Option (List String × Members) :=
  match line with
  | .heading path => (openTable path state.2).map ((path, ·))
  | .itemHeading path => (openItem path state.2).map ((path, ·))
  | .entry path value => (within (assign value path) state.1 state.2).map ((state.1, ·))

/-- The members of a document given by its lines. -/
def ofLines (lines : List Line) : Option Members :=
  (lines.foldlM takeLine ([], [])).map (·.2)

/-! ### Reading values -/

/-- A text. -/
def string? : Toml → Option String
  | string value => some value
  | _ => none

/-- A truth value. -/
def bool? : Toml → Option Bool
  | bool value => some value
  | _ => none

/-- A natural number below a bound. -/
def natBelow? (bound : Nat) : Toml → Option Nat
  | integer (.ofNat value) => if value < bound then some value else none
  | _ => none

/-- A double-precision number; integers of 64 bits count as such. -/
def float? : Toml → Option Float
  | real value => some value
  | integer value =>
    if -(powerOfTwo 63 : Int) ≤ value && value < powerOfTwo 64 then
      some (Decimal.nearest (value < 0) value.natAbs 1)
    else none
  | _ => none

/-- A name out of a fixed set, given as a text or as a table that binds the name to nothing. -/
def choice? {α : Type} (ofName? : String → Option α) : Toml → Option α
  | string name => ofName? name
  | table _ [(name, table _ [])] => ofName? name
  | table _ [(name, array [])] => ofName? name
  | _ => none

/-- The fields of a record by name. A record may also be an array of its fields in order; a date
has none of them. -/
def fields? (names : List String) : Toml → Option Members
  | table _ members => some members
  | array items | tables items => some (names.zip items)
  | dateTime => some []
  | _ => none

/-- A field with a value to take when it is missing. -/
def orElse {α : Type} (fields : Members) (name : String) (decode : Toml → Option α)
    (missing : α) : Option α :=
  match fields.lookup name with
  | some value => decode value
  | none => some missing

/-- A field that may be missing. -/
def optional {α : Type} (fields : Members) (name : String) (decode : Toml → Option α) :
    Option (Option α) :=
  orElse fields name (fun value => (decode value).map some) none

end Toml

end TaskLoop
