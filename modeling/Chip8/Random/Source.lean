import Chip8.Random.Twister
import Chip8.Word

/-!
# Sources of random bytes

The executor takes random bytes from a source: a seeded generator, or a script of bytes that is
repeated when it ends.
-/

namespace Chip8.Random

/-- Where random bytes come from. -/
inductive Source where
  | twister (state : Twister)
  /-- A script of bytes and the number of bytes drawn from it so far. -/
  | script (bytes : Array Byte) (drawn : Nat)

namespace Source

/-- The generator of a seed, whose sign does not matter. -/
def ofSeed (seed : Int) : Source := .twister (.ofSeed seed.natAbs)

/-- A script from its beginning; each integer is reduced to a byte. -/
def ofScript (values : List Int) : Source := .script (values.map (BitVec.ofInt 8)).toArray 0

/-- A source of nothing but zero bytes. -/
def silent : Source := .script #[] 0

/-- The number of words that one byte may use up. It is assumed that no seed leads to so many words
in a row that no byte is taken from; up to there the number makes no difference. -/
def tries : Nat := 4096

/-- Draw a byte. A script without bytes gives zero. -/
def next : Source → Byte × Source
  | .twister state =>
    let (byte, state) := state.nextByte tries
    (byte, .twister state)
  | .script bytes drawn => (bytes[drawn % bytes.size]?.getD 0, .script bytes (drawn + 1))

end Source

end Chip8.Random
