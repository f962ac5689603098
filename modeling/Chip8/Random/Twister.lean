/-!
# The Mersenne Twister

A generator of 32-bit words with a state of 624 words. Each draw renews one word of the state, so
the state walks round its words and never has to be renewed as a whole. A seed of any size is spread
over the state word by word.
-/

namespace Chip8.Random

/-- The state of the generator and the word that the next draw renews. -/
structure Twister where
  words : Vector UInt32 624
  position : Fin 624

namespace Twister

/-- A word of the state, counted round from any place. -/
def word (words : Vector UInt32 624) (i : Nat) : UInt32 :=
  have := Nat.mod_lt i (show 0 < 624 by decide)
  words[i % 624]

/-- Replace a word of the state. -/
def setWord (words : Vector UInt32 624) (i : Nat) (value : UInt32) : Vector UInt32 624 :=
  words.set (i % 624) value (Nat.mod_lt i (by decide))

/-- Bits of a word and of the same word shifted right by thirty places, combined. -/
def fold (w : UInt32) : UInt32 := w ^^^ (w >>> 30)

/-- The state that a single word fills: each word follows from the one before and its place. -/
def ofWord (seed : UInt32) : Vector UInt32 624 :=
  let start := setWord (Vector.replicate 624 0) 0 seed
  (List.range 623).foldl
    (fun words i => setWord words (i + 1) (1812433253 * fold (word words i) + (i + 1).toUInt32))
    start

/-- One sweep of seeding over `count` words from place `start` on. Places run from 1 to 623 and then
round, and each new word depends on the one written before. -/
def sweep (multiplier : UInt32) (offset : Nat → UInt32) (start count : Nat)
    (words : Vector UInt32 624) (last : UInt32) : Vector UInt32 624 × UInt32 :=
  (List.range count).foldl
    (fun (words, last) k =>
      let i := 1 + (start + k) % 623
      let w := (word words i ^^^ (fold last * multiplier)) + offset k
      (setWord words i w, w))
    (words, last)

/-- The words of a natural number in base `2 ^ 32`, least significant first; zero has one word. -/
def seedWords (seed : Nat) : List UInt32 :=
  if seed < 4294967296 then [seed.toUInt32]
  else (seed % 4294967296).toUInt32 :: seedWords (seed / 4294967296)
termination_by seed
decreasing_by exact Nat.div_lt_self (by omega) (by omega)

/-- The generator of a seed: the seed's words are mixed into a fixed state in one sweep, and a
second sweep over all places mixes the state with itself. -/
def ofSeed (seed : Nat) : Twister :=
  let key := (seedWords seed).toArray
  let start := ofWord 19650218
  let mixed (k : Nat) : UInt32 := key[k % key.size]?.getD 0 + (k % key.size).toUInt32
  let count := max 624 key.size
  let (words, last) := sweep 1664525 mixed 0 count start (word start 0)
  let place (k : Nat) : UInt32 := 0 - (1 + (count + k) % 623).toUInt32
  let (words, _) := sweep 1566083941 place count 623 words last
  ⟨setWord words 0 0x80000000, 0⟩

/-- The word that replaces the one at a place: it joins two neighbours' bits and a distant word. -/
def renewed (words : Vector UInt32 624) (i : Nat) : UInt32 :=
  let joined := (word words i &&& 0x80000000) ||| (word words (i + 1) &&& 0x7FFFFFFF)
  let twist : UInt32 := if joined &&& 1 = 0 then 0 else 0x9908B0DF
  word words (i + 397) ^^^ (joined >>> 1) ^^^ twist

/-- Spread the bits of a state word over the word that is handed out. -/
def temper (w : UInt32) : UInt32 :=
  let w := w ^^^ (w >>> 11)
  let w := w ^^^ ((w <<< 7) &&& 0x9D2C5680)
  let w := w ^^^ ((w <<< 15) &&& 0xEFC60000)
  w ^^^ (w >>> 18)

/-- Draw a word. -/
def next (t : Twister) : UInt32 × Twister :=
  let w := renewed t.words t.position
  (temper w, ⟨setWord t.words t.position w, t.position + 1⟩)

/-- Draw a byte: words are drawn until the upper nine bits of one are below 256, as they are for
half of all words. If so many words as there are tries are passed over, the byte is zero. -/
def nextByte (t : Twister) : Nat → BitVec 8 × Twister
  | 0 => (0, t)
  | tries + 1 =>
    let (w, t) := t.next
    let drawn := w >>> 23
    if drawn < 256 then (.ofNat 8 drawn.toNat, t) else t.nextByte tries

end Twister

end Chip8.Random
