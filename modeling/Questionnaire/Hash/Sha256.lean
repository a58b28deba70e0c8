import Questionnaire.Text.Quoted

/-!
The SHA-256 hash of bytes: the bytes are padded to blocks of 64, and every block is mixed into eight
words of 32 bits in 64 rounds.
-/

namespace Questionnaire.Sha256

/-- One word for each round: the fractional parts of the cube roots of the first 64 primes. -/
def roundWords : List UInt32 :=
  [0x428a2f98, 0x71374491, 0xb5c0fbcf, 0xe9b5dba5, 0x3956c25b, 0x59f111f1, 0x923f82a4, 0xab1c5ed5,
    0xd807aa98, 0x12835b01, 0x243185be, 0x550c7dc3, 0x72be5d74, 0x80deb1fe, 0x9bdc06a7, 0xc19bf174,
    0xe49b69c1, 0xefbe4786, 0x0fc19dc6, 0x240ca1cc, 0x2de92c6f, 0x4a7484aa, 0x5cb0a9dc, 0x76f988da,
    0x983e5152, 0xa831c66d, 0xb00327c8, 0xbf597fc7, 0xc6e00bf3, 0xd5a79147, 0x06ca6351, 0x14292967,
    0x27b70a85, 0x2e1b2138, 0x4d2c6dfc, 0x53380d13, 0x650a7354, 0x766a0abb, 0x81c2c92e, 0x92722c85,
    0xa2bfe8a1, 0xa81a664b, 0xc24b8b70, 0xc76c51a3, 0xd192e819, 0xd6990624, 0xf40e3585, 0x106aa070,
    0x19a4c116, 0x1e376c08, 0x2748774c, 0x34b0bcb5, 0x391c0cb3, 0x4ed8aa4a, 0x5b9cca4f, 0x682e6ff3,
    0x748f82ee, 0x78a5636f, 0x84c87814, 0x8cc70208, 0x90befffa, 0xa4506ceb, 0xbef9a3f7, 0xc67178f2]

/-- The eight words of a hash under way. -/
structure Words where
  a : UInt32
  b : UInt32
  c : UInt32
  d : UInt32
  e : UInt32
  f : UInt32
  g : UInt32
  h : UInt32
deriving DecidableEq, Repr

namespace Words

/-- The fractional parts of the square roots of the first eight primes. -/
def start : Words :=
  ⟨0x6a09e667, 0xbb67ae85, 0x3c6ef372, 0xa54ff53a, 0x510e527f, 0x9b05688c, 0x1f83d9ab, 0x5be0cd19⟩

def add (x y : Words) : Words :=
  ⟨x.a + y.a, x.b + y.b, x.c + y.c, x.d + y.d, x.e + y.e, x.f + y.f, x.g + y.g, x.h + y.h⟩

def toList (x : Words) : List UInt32 := [x.a, x.b, x.c, x.d, x.e, x.f, x.g, x.h]

end Words

/-- A rotation to the right. -/
def rotate (x : UInt32) (n : UInt32) : UInt32 := (x >>> n) ||| (x <<< (32 - n))

/-- One round, with the word of the round and the word of the message. -/
def round (x : Words) (words : UInt32 × UInt32) : Words :=
  let high := rotate x.e 6 ^^^ rotate x.e 11 ^^^ rotate x.e 25
  let choice := (x.e &&& x.f) ^^^ ((~~~ x.e) &&& x.g)
  let first := x.h + high + choice + words.1 + words.2
  let low := rotate x.a 2 ^^^ rotate x.a 13 ^^^ rotate x.a 22
  let majority := (x.a &&& x.b) ^^^ (x.a &&& x.c) ^^^ (x.b &&& x.c)
  ⟨first + (low + majority), x.a, x.b, x.c, x.d + first, x.e, x.f, x.g⟩

/-- The word after those so far, from the words 16, 15, 7 and 2 places before it. -/
def nextWord (words : Array UInt32) : UInt32 :=
  let back (n : Nat) : UInt32 := words.getD (words.size - n) 0
  let small (x : UInt32) : UInt32 := rotate x 7 ^^^ rotate x 18 ^^^ (x >>> 3)
  let large (x : UInt32) : UInt32 := rotate x 17 ^^^ rotate x 19 ^^^ (x >>> 10)
  back 16 + small (back 15) + back 7 + large (back 2)

/-- Adds words for the given number of further rounds. -/
def extend : Nat → Array UInt32 → Array UInt32
  | 0, words => words
  | n + 1, words => extend n (words.push (nextWord words))

/-- The words of the rounds for the sixteen words of a block. -/
def schedule (block : List UInt32) : Array UInt32 := extend 48 block.toArray

/-- Mixes a block into a hash. -/
def mixBlock (x : Words) (block : List UInt32) : Words :=
  x.add ((roundWords.zip (schedule block).toList).foldl round x)

/-- The bytes of a number, the highest first. -/
def bytesOf : Nat → Nat → List UInt8
  | 0, _ => []
  | n + 1, value => UInt8.ofNat (value >>> (8 * n)) :: bytesOf n value

/-- How many zero bytes go between a message with its end mark and its length. -/
def paddingZeros (length : Nat) : Nat := (119 - length % 64) % 64

/-- The message with its end mark, zeros and its length in bits. -/
def padded (message : List UInt8) : List UInt8 :=
  message ++ 0x80 :: (List.replicate (paddingZeros message.length) 0
    ++ bytesOf 8 (8 * message.length % UInt64.size))

/-- Four bytes each as a word. -/
def wordsOf : List UInt8 → List UInt32
  | a :: b :: c :: d :: rest =>
    ((a.toUInt32 <<< 24) ||| (b.toUInt32 <<< 16) ||| (c.toUInt32 <<< 8) ||| d.toUInt32)
      :: wordsOf rest
  | _ => []

/-- Mixes the blocks of sixteen words into a hash, at most the given number of them. -/
def mixBlocks : Nat → Words → List UInt32 → Words
  | 0, x, _ => x
  | _ + 1, x, [] => x
  | n + 1, x, words => mixBlocks n (mixBlock x (words.take 16)) (words.drop 16)

/-- The hash of a message as eight words. -/
def hash (message : List UInt8) : Words :=
  let words := wordsOf (padded message)
  mixBlocks words.length .start words

/-- The hash of a text in hexadecimal digits. -/
def hexHash (text : String) : String :=
  String.ofList
    ((hash text.toUTF8.toList).toList.flatMap fun word => Text.hexDigits 8 word.toNat)

theorem length_bytesOf (n value : Nat) : (bytesOf n value).length = n := by
  induction n generalizing value with
  | zero => rfl
  | succ n ih => simp [bytesOf, ih]

/-- Padded messages consist of whole blocks. -/
theorem length_padded_mod (message : List UInt8) : (padded message).length % 64 = 0 := by
  simp only [padded, List.length_append, List.length_cons, List.length_replicate, length_bytesOf,
    paddingZeros]
  omega

theorem size_extend (n : Nat) (words : Array UInt32) : (extend n words).size = words.size + n := by
  induction n generalizing words with
  | zero => rfl
  | succ n ih =>
    simp only [extend, ih, Array.size_push]
    omega

/-- Every round has its word. -/
theorem size_schedule (block : List UInt32) (h : block.length = 16) :
    (schedule block).size = roundWords.length := by
  simp [schedule, size_extend, h, roundWords]

end Questionnaire.Sha256
