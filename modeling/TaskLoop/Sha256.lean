import TaskLoop.Decimal.Power

/-!
The SHA-256 digest of a byte string: padding to whole blocks, a message schedule of sixty-four
words by a four-term recurrence, and sixty-four rounds a block.
-/

set_option autoImplicit false

namespace TaskLoop.Sha256

/-- The eight words the digest starts from. -/
def initialState : List UInt32 := [
  0x6a09e667, 0xbb67ae85, 0x3c6ef372, 0xa54ff53a, 0x510e527f, 0x9b05688c, 0x1f83d9ab, 0x5be0cd19]

/-- The constant of each round. -/
def roundConstants : List UInt32 := [
  0x428a2f98, 0x71374491, 0xb5c0fbcf, 0xe9b5dba5, 0x3956c25b, 0x59f111f1, 0x923f82a4, 0xab1c5ed5,
  0xd807aa98, 0x12835b01, 0x243185be, 0x550c7dc3, 0x72be5d74, 0x80deb1fe, 0x9bdc06a7, 0xc19bf174,
  0xe49b69c1, 0xefbe4786, 0x0fc19dc6, 0x240ca1cc, 0x2de92c6f, 0x4a7484aa, 0x5cb0a9dc, 0x76f988da,
  0x983e5152, 0xa831c66d, 0xb00327c8, 0xbf597fc7, 0xc6e00bf3, 0xd5a79147, 0x06ca6351, 0x14292967,
  0x27b70a85, 0x2e1b2138, 0x4d2c6dfc, 0x53380d13, 0x650a7354, 0x766a0abb, 0x81c2c92e, 0x92722c85,
  0xa2bfe8a1, 0xa81a664b, 0xc24b8b70, 0xc76c51a3, 0xd192e819, 0xd6990624, 0xf40e3585, 0x106aa070,
  0x19a4c116, 0x1e376c08, 0x2748774c, 0x34b0bcb5, 0x391c0cb3, 0x4ed8aa4a, 0x5b9cca4f, 0x682e6ff3,
  0x748f82ee, 0x78a5636f, 0x84c87814, 0x8cc70208, 0x90befffa, 0xa4506ceb, 0xbef9a3f7, 0xc67178f2]

/-- A word with its bits turned to the right. -/
def rotate (word : UInt32) (by_ : UInt32) : UInt32 := (word >>> by_) ||| (word <<< (32 - by_))

/-- The bytes of a number, most significant first. -/
def bigEndian (count value : Nat) : List UInt8 :=
  (List.range count).map fun place =>
    UInt8.ofNat (value / powerOfTwo (8 * (count - 1 - place)))

/-- The message with a delimiter, zeros up to the last eight bytes of a block, and its length in
bits. -/
def pad (message : List UInt8) : List UInt8 :=
  message ++ 0x80 :: List.replicate ((119 - message.length % 64) % 64) 0
    ++ bigEndian 8 (8 * message.length)

/-- Four bytes at a time as words, most significant byte first. -/
def toWords : List UInt8 → List UInt32
  | a :: b :: c :: d :: rest =>
    (a.toUInt32 <<< 24 ||| b.toUInt32 <<< 16 ||| c.toUInt32 <<< 8 ||| d.toUInt32) :: toWords rest
  | _ => []

/-- Extends a schedule, its words in order, by the recurrence. -/
def extend : Nat → Array UInt32 → Array UInt32
  | 0, words => words
  | count + 1, words =>
    let back (distance : Nat) : UInt32 := words.getD (words.size - distance) 0
    let early := back 15
    let late := back 2
    let first := rotate early 7 ^^^ rotate early 18 ^^^ (early >>> 3)
    let second := rotate late 17 ^^^ rotate late 19 ^^^ (late >>> 10)
    extend count (words.push (back 16 + first + back 7 + second))

/-- The eight words a compression works on. -/
structure Registers where
  a : UInt32
  b : UInt32
  c : UInt32
  d : UInt32
  e : UInt32
  f : UInt32
  g : UInt32
  h : UInt32

/-- One round, with its constant and its word of the schedule added up. -/
def Registers.round (r : Registers) (input : UInt32) : Registers :=
  let sum1 := rotate r.e 6 ^^^ rotate r.e 11 ^^^ rotate r.e 25
  let choice := (r.e &&& r.f) ^^^ ((~~~r.e) &&& r.g)
  let temp1 := r.h + sum1 + choice + input
  let sum0 := rotate r.a 2 ^^^ rotate r.a 13 ^^^ rotate r.a 22
  let majority := (r.a &&& r.b) ^^^ (r.a &&& r.c) ^^^ (r.b &&& r.c)
  ⟨temp1 + (sum0 + majority), r.a, r.b, r.c, r.d + temp1, r.e, r.f, r.g⟩

/-- Mixes one block of sixteen words into the state. -/
def compress (r : Registers) (block : List UInt32) : Registers :=
  let schedule := (extend 48 block.toArray).toList
  let mixed := (List.zipWith (· + ·) roundConstants schedule).foldl Registers.round r
  ⟨r.a + mixed.a, r.b + mixed.b, r.c + mixed.c, r.d + mixed.d,
    r.e + mixed.e, r.f + mixed.f, r.g + mixed.g, r.h + mixed.h⟩

/-- Mixes every block of sixteen words, at most `blocks` of them. -/
def compressAll : Nat → Registers → List UInt32 → Registers
  | 0, r, _ => r
  | blocks + 1, r, words => compressAll blocks (compress r (words.take 16)) (words.drop 16)

/-- The registers before the first block. -/
def start : Registers :=
  match initialState with
  | [a, b, c, d, e, f, g, h] => ⟨a, b, c, d, e, f, g, h⟩
  | _ => ⟨0, 0, 0, 0, 0, 0, 0, 0⟩

/-- A word in eight hexadecimal digits. -/
def wordText (word : UInt32) : List Char :=
  let digits := Nat.toDigits 16 word.toNat
  List.replicate (8 - digits.length) '0' ++ digits

/-- The digest in sixty-four lower-case hexadecimal digits. -/
def digest (message : List UInt8) : List Char :=
  let words := toWords (pad message)
  let r := compressAll (words.length / 16) start words
  [r.a, r.b, r.c, r.d, r.e, r.f, r.g, r.h].flatMap wordText

end TaskLoop.Sha256
