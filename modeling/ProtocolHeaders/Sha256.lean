import ProtocolHeaders.Text.HexDigit

/-!
# SHA-256

The digest of a sequence of bytes: the message is padded to whole blocks of
sixteen words, and each block in turn is compressed into a state of eight words.
Words are 32 bits wide and their arithmetic wraps.
-/

namespace ProtocolHeaders.Sha256

/-- The eight words that blocks are compressed into. -/
structure State where
  a : UInt32
  b : UInt32
  c : UInt32
  d : UInt32
  e : UInt32
  f : UInt32
  g : UInt32
  h : UInt32
deriving Repr, DecidableEq

namespace State

/-- The state before the first block: the first 32 bits of the fractional parts of
the square roots of the first eight primes. -/
def start : State :=
  { a := 0x6a09e667, b := 0xbb67ae85, c := 0x3c6ef372, d := 0xa54ff53a,
    e := 0x510e527f, f := 0x9b05688c, g := 0x1f83d9ab, h := 0x5be0cd19 }

/-- The words of a state, in order. -/
def words (state : State) : List UInt32 :=
  [state.a, state.b, state.c, state.d, state.e, state.f, state.g, state.h]

/-- Two states added word by word. -/
def add (left right : State) : State :=
  { a := left.a + right.a, b := left.b + right.b, c := left.c + right.c, d := left.d + right.d,
    e := left.e + right.e, f := left.f + right.f, g := left.g + right.g, h := left.h + right.h }

end State

/-- The round constants: the first 32 bits of the fractional parts of the cube roots
of the first sixty-four primes. -/
def roundConstants : List UInt32 :=
  [0x428a2f98, 0x71374491, 0xb5c0fbcf, 0xe9b5dba5, 0x3956c25b, 0x59f111f1, 0x923f82a4, 0xab1c5ed5,
    0xd807aa98, 0x12835b01, 0x243185be, 0x550c7dc3, 0x72be5d74, 0x80deb1fe, 0x9bdc06a7, 0xc19bf174,
    0xe49b69c1, 0xefbe4786, 0x0fc19dc6, 0x240ca1cc, 0x2de92c6f, 0x4a7484aa, 0x5cb0a9dc, 0x76f988da,
    0x983e5152, 0xa831c66d, 0xb00327c8, 0xbf597fc7, 0xc6e00bf3, 0xd5a79147, 0x06ca6351, 0x14292967,
    0x27b70a85, 0x2e1b2138, 0x4d2c6dfc, 0x53380d13, 0x650a7354, 0x766a0abb, 0x81c2c92e, 0x92722c85,
    0xa2bfe8a1, 0xa81a664b, 0xc24b8b70, 0xc76c51a3, 0xd192e819, 0xd6990624, 0xf40e3585, 0x106aa070,
    0x19a4c116, 0x1e376c08, 0x2748774c, 0x34b0bcb5, 0x391c0cb3, 0x4ed8aa4a, 0x5b9cca4f, 0x682e6ff3,
    0x748f82ee, 0x78a5636f, 0x84c87814, 0x8cc70208, 0x90befffa, 0xa4506ceb, 0xbef9a3f7, 0xc67178f2]

/-- A word turned to the right by a number of bits between 1 and 31. -/
def rotateRight (word bits : UInt32) : UInt32 :=
  (word >>> bits) ||| (word <<< (32 - bits))

/-- The word that follows in the schedule, from the words before it, latest first. -/
def nextWord (latestFirst : List UInt32) : UInt32 :=
  let word2 := latestFirst.getD 1 0
  let word7 := latestFirst.getD 6 0
  let word15 := latestFirst.getD 14 0
  let word16 := latestFirst.getD 15 0
  let low := rotateRight word15 7 ^^^ rotateRight word15 18 ^^^ (word15 >>> 3)
  let high := rotateRight word2 17 ^^^ rotateRight word2 19 ^^^ (word2 >>> 10)
  word16 + low + word7 + high

/-- A schedule, latest word first, extended by a number of words. -/
def extendSchedule : Nat -> List UInt32 -> List UInt32
  | 0, latestFirst => latestFirst
  | count + 1, latestFirst => extendSchedule count (nextWord latestFirst :: latestFirst)

/-- The sixty-four words that a block of sixteen contributes. -/
def schedule (block : List UInt32) : List UInt32 :=
  (extendSchedule 48 block.reverse).reverse

/-- One round: a schedule word and its constant are mixed into the state. -/
def round (state : State) (wordAndConstant : UInt32 × UInt32) : State :=
  let mixE := rotateRight state.e 6 ^^^ rotateRight state.e 11 ^^^ rotateRight state.e 25
  let choice := (state.e &&& state.f) ^^^ (~~~state.e &&& state.g)
  let first := state.h + mixE + choice + wordAndConstant.2 + wordAndConstant.1
  let mixA := rotateRight state.a 2 ^^^ rotateRight state.a 13 ^^^ rotateRight state.a 22
  let majority := (state.a &&& state.b) ^^^ (state.a &&& state.c) ^^^ (state.b &&& state.c)
  { a := first + (mixA + majority), b := state.a, c := state.b, d := state.c,
    e := state.d + first, f := state.e, g := state.f, h := state.g }

/-- A block compressed into the state. -/
def compress (state : State) (block : List UInt32) : State :=
  state.add (((schedule block).zip roundConstants).foldl round state)

/-- The eight bytes of a number below `2 ^ 64`, most significant first. -/
def lengthBytes (value : Nat) : List UInt8 :=
  (List.range 8).reverse.map fun position => (value / Nat.pow 256 position).toUInt8

/-- The message with a one bit, as many zero bytes as complete its last block, and
its length in bits. -/
def pad (message : List UInt8) : List UInt8 :=
  let zeros := (55 + 64 - message.length % 64) % 64
  message ++ 0x80 :: List.replicate zeros 0 ++ lengthBytes (8 * message.length)

/-- Bytes taken four at a time as words, most significant byte first. -/
def toWords : List UInt8 -> List UInt32
  | first :: second :: third :: fourth :: others =>
      ((first.toUInt32 <<< 24) ||| (second.toUInt32 <<< 16) ||| (third.toUInt32 <<< 8) |||
        fourth.toUInt32) :: toWords others
  | _ => []

/-- Whole blocks of sixteen words compressed into a state one after the other. Words
that fill no block do not count. -/
def compressBlocks (state : State) (words : List UInt32) : State :=
  if (words.drop 15).isEmpty then state
  else compressBlocks (compress state (words.take 16)) (words.drop 16)
termination_by words.length
decreasing_by
  rename_i whole
  simp only [List.isEmpty_iff, List.drop_eq_nil_iff] at whole
  simp only [List.length_drop]
  omega

/-- The digest of a message. -/
def digest (message : List UInt8) : State :=
  compressBlocks .start (toWords (pad message))

/-- The eight hexadecimal digits of a word. -/
def hexWord (word : UInt32) : List Char :=
  (List.range 8).reverse.map fun position => Text.hexDigit (word.toNat / Nat.pow 16 position % 16)

/-- The digest of a text's UTF-8 bytes, in hexadecimal. -/
def hexDigest (text : String) : String :=
  String.ofList ((digest text.toUTF8.toList).words.flatMap hexWord)

end ProtocolHeaders.Sha256
