/-!
# Random bytes

A source of random bytes is the whole sequence of its outputs with the number of bytes already
drawn from it.
-/

namespace ChipEight

/-- A sequence of bytes and a position in it. -/
structure RandomSource where
  output : Nat → UInt8
  drawn : Nat

namespace RandomSource

/-- Draw one byte. -/
def draw (source : RandomSource) : UInt8 × RandomSource :=
  (source.output source.drawn, { source with drawn := source.drawn + 1 })

/-- The low bytes of a list of integers, over and over; zeros if the list is empty. -/
def cycling (script : Array Int) : RandomSource :=
  { output := fun n => UInt8.ofInt (script[n % script.size]?.getD 0), drawn := 0 }

/-- Scramble a word so that neighbouring words give unrelated ones. -/
def scramble (word : UInt64) : UInt64 :=
  let first := (word ^^^ (word >>> 30)) * 0xBF58476D1CE4E5B9
  let second := (first ^^^ (first >>> 27)) * 0x94D049BB133111EB
  second ^^^ (second >>> 31)

/-- The sequence that belongs to a seed. -/
def seeded (seed : Nat) : RandomSource :=
  { output := fun n =>
      (scramble (UInt64.ofNat seed + UInt64.ofNat (n + 1) * 0x9E3779B97F4A7C15)).toUInt8
    drawn := 0 }

end RandomSource

end ChipEight
