import Tabletop.Text.Encoding

/-!
# The random number generator

The generator is a Mersenne twister.  Its first state is made from a seed, a text by way of its
hash value.
-/

namespace Tabletop
namespace Random

/-!
## The hash function SHA-512

The message is padded to blocks of 128 bytes with a one bit, zeros and its
length in bits.  A block of sixteen words is stretched to eighty, and each of
these turns the eight words of the state once.
-/

namespace Sha512

/-- The first 64 bits of the fractional parts of the cube roots of the first 80 primes. -/
def roundConstants : List UInt64 := [
  0x428a2f98d728ae22, 0x7137449123ef65cd, 0xb5c0fbcfec4d3b2f, 0xe9b5dba58189dbbc,
  0x3956c25bf348b538, 0x59f111f1b605d019, 0x923f82a4af194f9b, 0xab1c5ed5da6d8118,
  0xd807aa98a3030242, 0x12835b0145706fbe, 0x243185be4ee4b28c, 0x550c7dc3d5ffb4e2,
  0x72be5d74f27b896f, 0x80deb1fe3b1696b1, 0x9bdc06a725c71235, 0xc19bf174cf692694,
  0xe49b69c19ef14ad2, 0xefbe4786384f25e3, 0x0fc19dc68b8cd5b5, 0x240ca1cc77ac9c65,
  0x2de92c6f592b0275, 0x4a7484aa6ea6e483, 0x5cb0a9dcbd41fbd4, 0x76f988da831153b5,
  0x983e5152ee66dfab, 0xa831c66d2db43210, 0xb00327c898fb213f, 0xbf597fc7beef0ee4,
  0xc6e00bf33da88fc2, 0xd5a79147930aa725, 0x06ca6351e003826f, 0x142929670a0e6e70,
  0x27b70a8546d22ffc, 0x2e1b21385c26c926, 0x4d2c6dfc5ac42aed, 0x53380d139d95b3df,
  0x650a73548baf63de, 0x766a0abb3c77b2a8, 0x81c2c92e47edaee6, 0x92722c851482353b,
  0xa2bfe8a14cf10364, 0xa81a664bbc423001, 0xc24b8b70d0f89791, 0xc76c51a30654be30,
  0xd192e819d6ef5218, 0xd69906245565a910, 0xf40e35855771202a, 0x106aa07032bbd1b8,
  0x19a4c116b8d2d0c8, 0x1e376c085141ab53, 0x2748774cdf8eeb99, 0x34b0bcb5e19b48a8,
  0x391c0cb3c5c95a63, 0x4ed8aa4ae3418acb, 0x5b9cca4f7763e373, 0x682e6ff3d6b2b8a3,
  0x748f82ee5defb2fc, 0x78a5636f43172f60, 0x84c87814a1f0ab72, 0x8cc702081a6439ec,
  0x90befffa23631e28, 0xa4506cebde82bde9, 0xbef9a3f7b2c67915, 0xc67178f2e372532b,
  0xca273eceea26619c, 0xd186b8c721c0c207, 0xeada7dd6cde0eb1e, 0xf57d4f7fee6ed178,
  0x06f067aa72176fba, 0x0a637dc5a2c898a6, 0x113f9804bef90dae, 0x1b710b35131c471b,
  0x28db77f523047d84, 0x32caab7b40c72493, 0x3c9ebe0a15c9bebc, 0x431d67c49c100d4c,
  0x4cc5d4becb3e42b6, 0x597f299cfc657e2a, 0x5fcb6fab3ad6faec, 0x6c44198c4a475817]

/-- Eight words that are turned from round to round. -/
structure State where
  a : UInt64
  b : UInt64
  c : UInt64
  d : UInt64
  e : UInt64
  f : UInt64
  g : UInt64
  h : UInt64

/-- The first 64 bits of the fractional parts of the square roots of the first 8 primes. -/
def State.initial : State where
  a := 0x6a09e667f3bcc908
  b := 0xbb67ae8584caa73b
  c := 0x3c6ef372fe94f82b
  d := 0xa54ff53a5f1d36f1
  e := 0x510e527fade682d1
  f := 0x9b05688c2b3e6c1f
  g := 0x1f83d9abfb41bd6b
  h := 0x5be0cd19137e2179

def State.toList (s : State) : List UInt64 := [s.a, s.b, s.c, s.d, s.e, s.f, s.g, s.h]

def State.add (s t : State) : State where
  a := s.a + t.a
  b := s.b + t.b
  c := s.c + t.c
  d := s.d + t.d
  e := s.e + t.e
  f := s.f + t.f
  g := s.g + t.g
  h := s.h + t.h

def rotateRight (x n : UInt64) : UInt64 := (x >>> n) ||| (x <<< (64 - n))

/-- One round with its constant and its word of the schedule. -/
def State.round (s : State) (constant word : UInt64) : State :=
  let sum1 := rotateRight s.e 14 ^^^ rotateRight s.e 18 ^^^ rotateRight s.e 41
  let choice := (s.e &&& s.f) ^^^ (~~~s.e &&& s.g)
  let first := s.h + sum1 + choice + constant + word
  let sum0 := rotateRight s.a 28 ^^^ rotateRight s.a 34 ^^^ rotateRight s.a 39
  let majority := (s.a &&& s.b) ^^^ (s.a &&& s.c) ^^^ (s.b &&& s.c)
  { a := first + (sum0 + majority), b := s.a, c := s.b, d := s.c
    e := s.d + first, f := s.e, g := s.f, h := s.g }

/-- The next word of the schedule from the last sixteen, the oldest first. -/
def nextWord : List UInt64 → UInt64
  | [w0, w1, _, _, _, _, _, _, _, w9, _, _, _, _, w14, _] =>
    let small0 := rotateRight w1 1 ^^^ rotateRight w1 8 ^^^ (w1 >>> 7)
    let small1 := rotateRight w14 19 ^^^ rotateRight w14 61 ^^^ (w14 >>> 6)
    small1 + w9 + small0 + w0
  | _ => 0

/-- Takes up a block: each round uses the oldest word and makes a new one. -/
def State.absorb (s : State) (block : List UInt64) : State :=
  let (t, _) := roundConstants.foldl
    (fun (t, window) constant =>
      (State.round t constant (window.headD 0), window.tail ++ [nextWord window]))
    (s, block)
  s.add t

/-- The bytes of a number, most significant first. -/
def bytesOf (count n : Nat) : List UInt8 :=
  (List.range count).map fun i => UInt8.ofNat (n >>> (8 * (count - 1 - i)))

/-- The number that bytes write, most significant first. -/
def natOf (bytes : List UInt8) : Nat :=
  bytes.foldl (fun n b => 256 * n + b.toNat) 0

def pad (message : List UInt8) : List UInt8 :=
  let zeros := (239 - message.length % 128) % 128
  message ++ 0x80 :: List.replicate zeros 0 ++ bytesOf 16 (8 * message.length)

/-- Lists of a given length, as many as there are. -/
def chunks {α : Type} (size : Nat) : Nat → List α → List (List α)
  | 0, _ => []
  | count + 1, items => items.take size :: chunks size count (items.drop size)

def hash (message : List UInt8) : List UInt8 :=
  let bytes := pad message
  let words := (chunks 8 (bytes.length / 8) bytes).map fun w => UInt64.ofNat (natOf w)
  let blocks := chunks 16 (words.length / 16) words
  let final := blocks.foldl State.absorb State.initial
  final.toList.flatMap fun w => bytesOf 8 w.toNat

end Sha512

/-!
## The Mersenne Twister

The generator MT19937 keeps 624 words of 32 bits in a ring.  A step replaces the
word under the cursor by a mix of itself, its neighbour and the word 397 places
on, moves the cursor, and hands out the new word after tempering.
-/

/-- The words of the ring and the place of the next step. -/
structure Twister where
  words : Vector UInt32 624
  cursor : Fin 624

namespace Twister

/-- The word some places after the cursor. -/
def wordAt (t : Twister) (distance : Nat) : UInt32 :=
  t.words.get ⟨(t.cursor + distance) % 624, Nat.mod_lt _ (by decide)⟩

/-- Spreads the information of a word over all its bits. -/
def temper (y : UInt32) : UInt32 :=
  let y := y ^^^ (y >>> 11)
  let y := y ^^^ ((y <<< 7) &&& 0x9D2C5680)
  let y := y ^^^ ((y <<< 15) &&& 0xEFC60000)
  y ^^^ (y >>> 18)

/-- One step: the word handed out and the generator after it. -/
def next (t : Twister) : UInt32 × Twister :=
  let joined := (t.wordAt 0 &&& 0x80000000) ||| (t.wordAt 1 &&& 0x7FFFFFFF)
  let twisted := (joined >>> 1) ^^^ (if joined &&& 1 = 0 then 0 else 0x9908B0DF)
  let word := t.wordAt 397 ^^^ twisted
  let cursor : Fin 624 := ⟨(t.cursor + 1) % 624, Nat.mod_lt _ (by decide)⟩
  (temper word, ⟨t.words.set t.cursor word, cursor⟩)

/-- Two steps give a number below `2 ^ 53`: 27 bits of the first, 26 of the second. -/
def next53 (t : Twister) : Nat × Twister :=
  let (high, t) := t.next
  let (low, t) := t.next
  ((high >>> 5).toNat * 0x4000000 + (low >>> 6).toNat, t)

/-- A word and a share of the higher bits of the one before. -/
def blend (previous : UInt32) : UInt32 := previous ^^^ (previous >>> 30)

/-- The ring that a single word fills. -/
def fill (seed : UInt32) : Vector UInt32 624 :=
  let (words, _) := (List.range 623).foldl
    (fun (words, previous) n =>
      let word := 1812433253 * blend previous + UInt32.ofNat (n + 1)
      (words.setIfInBounds (n + 1) word, word))
    (Vector.replicate 624 seed, seed)
  words

/-- The place in the ring of the `n`th change while a key is worked in; the first
word is left out. -/
def place (n : Nat) : Fin 624 :=
  ⟨n % 623 + 1, by have := Nat.mod_lt n (show 623 > 0 by decide); omega⟩

/-- A change of the ring from the word before, which it makes the last one written. -/
def change (mix : UInt32 → UInt32 → UInt32) (n : Nat) (state : Vector UInt32 624 × UInt32) :
    Vector UInt32 624 × UInt32 :=
  let (words, previous) := state
  let word := mix (words.get (place n)) (blend previous)
  (words.set (place n) word, word)

/-- The generator that a key of several words sets up. -/
def ofKey (key : Array UInt32) : Twister :=
  let ring := fill 19650218
  let steps := max 624 key.size
  let first := (List.range steps).foldl
    (fun state n =>
      let j := n % key.size
      change (fun word before => (word ^^^ (before * 1664525)) + key.getD j 0 + UInt32.ofNat j)
        n state)
    (ring, ring.get 0)
  let second := (List.range 623).foldl
    (fun state n =>
      let n := steps + n
      change (fun word before => (word ^^^ (before * 1566083941)) - UInt32.ofNat (place n))
        n state)
    first
  ⟨second.1.set 0 0x80000000, 0⟩

end Twister

/-!
## Seeds

A seed is a whole number or a text.  The sign of a number does not count.  A
text stands for the number whose bytes are the text and, after it, its hash.
-/

inductive Seed where
  | number (value : Int)
  | text (value : String)
deriving DecidableEq

/-- The words of 32 bits of a number, the least significant first. -/
def wordsOf (n : Nat) : List UInt32 :=
  if n < 0x100000000 then [UInt32.ofNat n]
  else UInt32.ofNat (n % 0x100000000) :: wordsOf (n / 0x100000000)
termination_by n
decreasing_by
  have : 0 < n := by omega
  exact Nat.div_lt_self this (by decide)

namespace Seed

/-- The number that sets up the generator. -/
def toNat : Seed → Nat
  | number n => n.natAbs
  | text s =>
    let bytes := Text.Utf8.encode s
    Sha512.natOf (bytes ++ Sha512.hash bytes)

def twister (seed : Seed) : Twister := Twister.ofKey (wordsOf seed.toNat).toArray

end Seed

end Random
end Tabletop
