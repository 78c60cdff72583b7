import HookKeeper.Text.Digits

/-!
# The SHA-256 digest

A message is padded to whole blocks of sixty-four bytes.  Each block expands
to sixty-four words by a recurrence over the words already computed, and the
eight words of the chaining state pass through one round per word.
-/

namespace HookKeeper.Digest

/-- The chaining state: eight words. -/
structure State where
  a : UInt32
  b : UInt32
  c : UInt32
  d : UInt32
  e : UInt32
  f : UInt32
  g : UInt32
  h : UInt32

namespace State

/-- The state before the first block. -/
def initial : State :=
  ⟨0x6a09e667, 0xbb67ae85, 0x3c6ef372, 0xa54ff53a,
    0x510e527f, 0x9b05688c, 0x1f83d9ab, 0x5be0cd19⟩

/-- The words of a state in order. -/
def words (state : State) : List UInt32 :=
  [state.a, state.b, state.c, state.d, state.e, state.f, state.g, state.h]

/-- The wordwise sum of two states. -/
def add (left right : State) : State :=
  ⟨left.a + right.a, left.b + right.b, left.c + right.c, left.d + right.d,
    left.e + right.e, left.f + right.f, left.g + right.g, left.h + right.h⟩

end State

/-- A word turned to the right. -/
def rotateRight (word amount : UInt32) : UInt32 :=
  (word >>> amount) ||| (word <<< (32 - amount))

/-- The first mixing function of the schedule. -/
def smallSigma0 (word : UInt32) : UInt32 :=
  rotateRight word 7 ^^^ rotateRight word 18 ^^^ (word >>> 3)

/-- The second mixing function of the schedule. -/
def smallSigma1 (word : UInt32) : UInt32 :=
  rotateRight word 17 ^^^ rotateRight word 19 ^^^ (word >>> 10)

/-- The mixing function of the first word of the state. -/
def bigSigma0 (word : UInt32) : UInt32 :=
  rotateRight word 2 ^^^ rotateRight word 13 ^^^ rotateRight word 22

/-- The mixing function of the fifth word of the state. -/
def bigSigma1 (word : UInt32) : UInt32 :=
  rotateRight word 6 ^^^ rotateRight word 11 ^^^ rotateRight word 25

/-- The constants of the sixty-four rounds. -/
def roundConstants : List UInt32 :=
  [0x428a2f98, 0x71374491, 0xb5c0fbcf, 0xe9b5dba5, 0x3956c25b, 0x59f111f1,
    0x923f82a4, 0xab1c5ed5, 0xd807aa98, 0x12835b01, 0x243185be, 0x550c7dc3,
    0x72be5d74, 0x80deb1fe, 0x9bdc06a7, 0xc19bf174, 0xe49b69c1, 0xefbe4786,
    0x0fc19dc6, 0x240ca1cc, 0x2de92c6f, 0x4a7484aa, 0x5cb0a9dc, 0x76f988da,
    0x983e5152, 0xa831c66d, 0xb00327c8, 0xbf597fc7, 0xc6e00bf3, 0xd5a79147,
    0x06ca6351, 0x14292967, 0x27b70a85, 0x2e1b2138, 0x4d2c6dfc, 0x53380d13,
    0x650a7354, 0x766a0abb, 0x81c2c92e, 0x92722c85, 0xa2bfe8a1, 0xa81a664b,
    0xc24b8b70, 0xc76c51a3, 0xd192e819, 0xd6990624, 0xf40e3585, 0x106aa070,
    0x19a4c116, 0x1e376c08, 0x2748774c, 0x34b0bcb5, 0x391c0cb3, 0x4ed8aa4a,
    0x5b9cca4f, 0x682e6ff3, 0x748f82ee, 0x78a5636f, 0x84c87814, 0x8cc70208,
    0x90befffa, 0xa4506ceb, 0xbef9a3f7, 0xc67178f2]

/-- The bytes of a word, the most significant first. -/
def wordBytes (word : UInt32) : List UInt8 :=
  [(word >>> 24).toUInt8, (word >>> 16).toUInt8, (word >>> 8).toUInt8,
    word.toUInt8]

/-- The words written by bytes, four at a time. -/
def wordsOf : List UInt8 → List UInt32
  | a :: b :: c :: d :: rest =>
      ((a.toUInt32 <<< 24) ||| (b.toUInt32 <<< 16) ||| (c.toUInt32 <<< 8) |||
        d.toUInt32) :: wordsOf rest
  | _ => []

/--
The bytes that complete a message: a closing bit, zeros and the length in bits.
-/
def padding (length : Nat) : List UInt8 :=
  let bits := 8 * length
  0x80 :: List.replicate ((119 - length % 64) % 64) 0
    ++ wordBytes (UInt32.ofNat (bits / Nat.pow 2 32)) ++ wordBytes
      (UInt32.ofNat bits)

/--
Extend a schedule, held with its newest word first, by words that are sums of
four earlier ones.
-/
def extendSchedule : Nat → List UInt32 → List UInt32
  | 0, newestFirst => newestFirst
  | count + 1, newestFirst =>
      let word := smallSigma1 (newestFirst.getD 1 0) + newestFirst.getD 6 0
        + smallSigma0 (newestFirst.getD 14 0) + newestFirst.getD 15 0
      extendSchedule count (word :: newestFirst)

/-- The sixty-four words of a block of sixteen. -/
def schedule (block : List UInt32) : List UInt32 :=
  (extendSchedule 48 block.reverse).reverse

/-- One round with a word and its constant. -/
def round (state : State) (input : UInt32 × UInt32) : State :=
  let chosen := (state.e &&& state.f) ^^^ ((state.e ^^^ 0xffffffff) &&& state.g)
  let first := state.h + bigSigma1 state.e + chosen + input.2 + input.1
  let majority :=
    (state.a &&& state.b) ^^^ (state.a &&& state.c) ^^^ (state.b &&& state.c)
  let second := bigSigma0 state.a + majority
  ⟨first + second, state.a, state.b, state.c, state.d + first, state.e, state.f,
    state.g⟩

/-- The state after a block of sixteen words. -/
def compress (state : State) (block : List UInt32) : State :=
  state.add (((schedule block).zip roundConstants).foldl round state)

/-- The state after `count` further blocks. -/
def absorb : Nat → State → List UInt32 → State
  | 0, state, _ => state
  | count + 1, state, words =>
      absorb count (compress state (words.take 16)) (words.drop 16)

/-- The digest of a message: thirty-two bytes. -/
def sha256 (message : List UInt8) : List UInt8 :=
  let words := wordsOf (message ++ padding message.length)
  (absorb (words.length / 16) State.initial words).words.flatMap wordBytes

/-- The digest of a message in lower-case hexadecimal text. -/
def hexDigest (message : List UInt8) : String := Text.Hex.text (sha256 message)

end HookKeeper.Digest
