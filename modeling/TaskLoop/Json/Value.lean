import TaskLoop.OrderedMap
import TaskLoop.Decimal.Shortest
import TaskLoop.Decimal.Read

/-!
JSON as it is written: numbers keep their spelling and objects the order and the repetitions of
their members. What a spelling means as a number is decided by whoever reads the value.
-/

set_option autoImplicit false

namespace TaskLoop

/-- A JSON value. `unpaired` stands for a string with an escape that is half of a surrogate pair
and so names no text. -/
inductive Json where
  | null
  | bool (value : Bool)
  | number (spelling : List Char)
  | string (value : String)
  | unpaired
  | array (items : List Json)
  | object (members : List (String × Json))
  deriving Inhabited

/-- What the spelling of a JSON number means: a natural number below 2^64, a negative integer not
below -2^63, or a double-precision number. -/
inductive JsonNumber where
  | natural (value : Nat)
  | negative (magnitude : Nat)
  | real (value : Float)

namespace JsonNumber

/-- The digits before the point, the digits after it, and the exponent of an unsigned
spelling. -/
def parts (spelling : List Char) : List Char × List Char × Int :=
  let whole := spelling.takeWhile Char.isDigit
  let rest := spelling.drop whole.length
  let fraction := match rest with
    | '.' :: after => after.takeWhile Char.isDigit
    | _ => []
  let rest := rest.dropWhile fun c => c == '.' || c.isDigit
  let exponent : Int := match rest with
    | _ :: '-' :: digits => -(Decimal.ofDigits digits : Int)
    | _ :: '+' :: digits => Decimal.ofDigits digits
    | _ :: digits => Decimal.ofDigits digits
    | [] => 0
  (whole, fraction, exponent)

/-- The meaning of a spelling: integers that fit are kept exact, minus zero and all others are
double-precision numbers, and a number past the largest of these has no meaning. -/
def ofSpelling? (spelling : List Char) : Option JsonNumber :=
  let negative := spelling.head? == some '-'
  let unsigned := if negative then spelling.drop 1 else spelling
  let (whole, fraction, exponent) := parts unsigned
  let real := Decimal.ofParts negative whole fraction exponent
  let asReal := if Decimal.isFinite real then some (.real real) else none
  if unsigned.all Char.isDigit then
    let value := Decimal.ofDigits whole
    if negative then
      if value == 0 || powerOfTwo 63 < value then asReal else some (.negative value)
    else if value < powerOfTwo 64 then some (.natural value) else asReal
  else asReal

/-- The number as a double-precision one. -/
def toFloat : JsonNumber → Float
  | natural value => Decimal.nearest false value 1
  | negative magnitude => Decimal.nearest true magnitude 1
  | real value => value

/-- The spelling this library writes. -/
def spelling : JsonNumber → List Char
  | natural value => Decimal.digitsOf value
  | negative magnitude => '-' :: Decimal.digitsOf magnitude
  | real value => (Decimal.text? value).getD ['n', 'u', 'l', 'l']

end JsonNumber

namespace Json

/-- A natural number. -/
def ofNat (n : Nat) : Json := .number (Decimal.digitsOf n)

/-- An integer. -/
def ofInt (n : Int) : Json := .number (Decimal.integerText n)

/-- A double-precision number; one that is not finite is null. -/
def ofFloat (x : Float) : Json :=
  match Decimal.text? x with
  | some text => .number text
  | none => .null

/-- A text given by its characters. -/
def ofText (text : List Char) : Json := .string (String.ofList text)

/-- A value that may be missing is null. -/
def ofOption {α : Type} (encode : α → Json) : Option α → Json
  | some value => encode value
  | none => .null

/-- The members of a map in the order of its keys. -/
def ofMap {κ α : Type} [Ord κ] (key : κ → String) (encode : α → Json) (map : OrderedMap κ α) :
    Json :=
  .object (map.entries.map fun (name, value) => (key name, encode value))

/-- A member that is left out when its value is missing. -/
def optionalMember {α : Type} (name : String) (encode : α → Json) : Option α → List (String × Json)
  | some value => [(name, encode value)]
  | none => []

/-! ### Free-form values -/

mutual

/-- A free-form value in its settled form: numbers in the spelling of their meaning, the members
of objects sorted and each once, the last of several counting. Arrays and objects nest at most
`room` deep. -/
def settle? (room : Nat) : Json → Option Json
  | .number spelling => (JsonNumber.ofSpelling? spelling).map fun n => .number n.spelling
  | .unpaired => none
  | .array items => if room == 0 then none else (settleItems? (room - 1) items).map .array
  | .object members =>
    if room == 0 then none
    else (settleMembers? (room - 1) members).map fun settled =>
      .object (OrderedMap.ofList settled).entries
  | value => some value

/-- The settled forms of the items of an array. -/
def settleItems? (room : Nat) : List Json → Option (List Json)
  | [] => some []
  | item :: rest => do
    let settled ← settle? room item
    let others ← settleItems? room rest
    return settled :: others

/-- The settled forms of the members of an object. -/
def settleMembers? (room : Nat) : List (String × Json) → Option (List (String × Json))
  | [] => some []
  | (name, value) :: rest => do
    let settled ← settle? room value
    let others ← settleMembers? room rest
    return (name, settled) :: others

end

/-- A number in the form that numbers are compared in: both zeros are one. -/
def comparable (spelling : List Char) : List Char :=
  if spelling == ['-', '0', '.', '0'] then ['0', '.', '0'] else spelling

mutual

/-- Whether two settled values are equal as values. -/
def same : Json → Json → Bool
  | .null, .null => true
  | .bool left, .bool right => left == right
  | .number left, .number right => comparable left == comparable right
  | .string left, .string right => left == right
  | .unpaired, .unpaired => true
  | .array left, .array right => sameItems left right
  | .object left, .object right => sameMembers left right
  | _, _ => false

/-- Whether two arrays hold equal items. -/
def sameItems : List Json → List Json → Bool
  | [], [] => true
  | left :: leftRest, right :: rightRest => same left right && sameItems leftRest rightRest
  | _, _ => false

/-- Whether two objects hold equal members in the same order. -/
def sameMembers : List (String × Json) → List (String × Json) → Bool
  | [], [] => true
  | (leftName, left) :: leftRest, (rightName, right) :: rightRest =>
    leftName == rightName && same left right && sameMembers leftRest rightRest
  | _, _ => false

end

end Json

end TaskLoop
