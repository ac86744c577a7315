import TaskLoop.Arithmetic
import TaskLoop.OrderedMap
import TaskLoop.Sha256
import TaskLoop.Text.Case
import TaskLoop.Text.Utf8
import TaskLoop.Text.Words

/-!
When two failure texts are the same, and how alike they are: a settled form and its hash, and
the share of their words that they have in common.
-/

set_option autoImplicit false

namespace TaskLoop.Similarity

/-- The words of a text in lower case with one blank between neighbours. -/
def normalize (text : List Char) : List Char :=
  Text.joinWith [' '] ((Text.words text).map Text.lower)

/-- The first sixteen hexadecimal digits of the settled form's SHA-256 digest. -/
def errorHash (text : String) : String :=
  String.ofList ((Sha256.digest (Text.Utf8.encode (normalize text.toList))).take 16)

/-- Whether a character belongs to a word rather than to the punctuation around it. -/
def isTokenChar (c : Char) : Bool := Text.isAlphanumeric c || c == '_'

/-- A set of words, in ascending order. -/
abbrev TokenSet := OrderedMap String Unit

/-- The words of a text in lower case, without the punctuation around them. -/
def tokenize (text : String) : TokenSet :=
  let words := (Text.words text.toList).map fun word =>
    Text.lower (Text.trimBy (fun c => !isTokenChar c) word)
  OrderedMap.ofList ((words.filter fun word => !word.isEmpty).map fun word =>
    (String.ofList word, ()))

/-- How many words two sets share. -/
def sharedCount (left right : TokenSet) : Nat := (left.keys.filter right.contains).length

/-- How many words two sets have together. -/
def jointCount (left right : TokenSet) : Nat :=
  left.size + right.size - sharedCount left right

/-- The share of their words that two sets have in common; two empty sets have all. -/
def overlap {α : Type} [Arithmetic α] (left right : TokenSet) : α :=
  if left.size == 0 && right.size == 0 then Arithmetic.one
  else Arithmetic.ofNat (sharedCount left right) / Arithmetic.ofNat (jointCount left right)

/-- How alike two texts are. -/
def score {α : Type} [Arithmetic α] (left right : String) : α :=
  overlap (tokenize left) (tokenize right)

end TaskLoop.Similarity
