import TaskLoop.Json.Value

/-!
Reading values of a known shape. A record is an object with known members, none of them twice and
others ignored, or an array of its fields in order.
-/

set_option autoImplicit false

namespace TaskLoop.Json

/-- A truth value. -/
def bool? : Json → Option Bool
  | .bool value => some value
  | _ => none

/-- A text. -/
def string? : Json → Option String
  | .string value => some value
  | _ => none

/-- A natural number below a bound, spelt without point or exponent. -/
def natBelow? (bound : Nat) : Json → Option Nat
  | .number spelling =>
    match JsonNumber.ofSpelling? spelling with
    | some (.natural value) => if value < bound then some value else none
    | _ => none
  | _ => none

/-- A natural number of 32 bits. -/
def nat32? : Json → Option Nat := natBelow? (powerOfTwo 32)

/-- A natural number of 64 bits. -/
def nat64? : Json → Option Nat := natBelow? (powerOfTwo 64)

/-- An integer. -/
def integer? : Json → Option Int
  | .number spelling =>
    match JsonNumber.ofSpelling? spelling with
    | some (.natural n) => some n
    | some (.negative n) => some (-(n : Int))
    | _ => none
  | _ => none

/-- A double-precision number; integers count as such. -/
def float? : Json → Option Float
  | .number spelling => (JsonNumber.ofSpelling? spelling).map JsonNumber.toFloat
  | _ => none

/-- Null, or a value of the given shape. -/
def option? {α : Type} (decode : Json → Option α) : Json → Option (Option α)
  | .null => some none
  | value => (decode value).map some

/-- An array of values of one shape. -/
def list? {α : Type} (decode : Json → Option α) : Json → Option (List α)
  | .array items => items.mapM decode
  | _ => none

/-- A name out of a fixed set, given as a text or as an object that binds the name to null. -/
def choice? {α : Type} (ofName? : String → Option α) : Json → Option α
  | .string name => ofName? name
  | .object [(name, .null)] => ofName? name
  | _ => none

/-- An object whose keys and values have one shape each; of several members for one key the last
counts. -/
def map? {κ α : Type} [Ord κ] [Std.TransOrd κ] [Std.LawfulEqOrd κ] (key? : String → Option κ)
    (decode : Json → Option α) : Json → Option (OrderedMap κ α)
  | .object members =>
    (members.mapM fun (name, value) => do return (← key? name, ← decode value)).map
      OrderedMap.ofList
  | _ => none

/-- The fields of a record that are present, and whether they were given by position. -/
structure Fields where
  present : List (String × Json)
  positional : Bool

/-- Takes a record apart into its known fields. -/
def fields? (names : List String) : Json → Option Fields
  | .object members =>
    let known := members.filter fun (name, _) => names.contains name
    if known.any fun (name, _) => 1 < (known.filter fun other => other.1 == name).length then none
    else some ⟨known, false⟩
  | .array items =>
    if names.length < items.length then none else some ⟨names.zip items, true⟩
  | _ => none

namespace Fields

/-- A field that must be present. -/
def required {α : Type} (fields : Fields) (name : String) (decode : Json → Option α) : Option α :=
  (fields.present.lookup name).bind decode

/-- A field with a value to take when it is missing. -/
def orElse {α : Type} (fields : Fields) (name : String) (decode : Json → Option α)
    (missing : α) : Option α :=
  match fields.present.lookup name with
  | some value => decode value
  | none => some missing

/-- A field that may be null, and may be missing unless the fields are given by position. -/
def nullable {α : Type} (fields : Fields) (name : String) (decode : Json → Option α) :
    Option (Option α) :=
  match fields.present.lookup name with
  | some value => option? decode value
  | none => if fields.positional then none else some none

/-- A field that may be null or missing. -/
def optional {α : Type} (fields : Fields) (name : String) (decode : Json → Option α) :
    Option (Option α) :=
  fields.orElse name (option? decode) none

end Fields

end TaskLoop.Json
