import LiveTopology.Settings

/-!
This module contains the delays between attempts to open the feed again: each is twice as long as
the one before, up to a greatest one, less a random part of at most a quarter.
-/

namespace LiveTopology

/-- Random words, of which some have been taken. -/
structure Dice where
  word : Nat → UInt64
  taken : Nat

namespace Dice

def roll (d : Dice) : Nat × Dice :=
  ((d.word d.taken).toNat, { d with taken := d.taken + 1 })

/--
A random number up to and including `limit`. It is the upper half of a word times the number of
choices, and a second word decides where the lower half is too close to the next choice.
-/
def upTo (d : Dice) (limit : Nat) : Nat × Dice :=
  let choices := limit + 1
  let (w, d) := d.roll
  let high := w * choices / UInt64.size
  let low := w * choices % UInt64.size
  if UInt64.size < low + choices then
    let (w, d) := d.roll
    (if UInt64.size ≤ low + w * choices / UInt64.size then high + 1 else high, d)
  else
    (high, d)

end Dice

structure Backoff where
  delays : Delays
  /-- The delay that the next one is based on, in milliseconds. -/
  current : Nat
  /-- How many delays there were since the last reset. -/
  attempts : Nat
  deriving DecidableEq, Repr

namespace Backoff

def start (delays : Delays) : Backoff :=
  ⟨delays, delays.initial.toNat, 0⟩

def advance (b : Backoff) : Backoff :=
  { b with
    current := min (2 * b.current) b.delays.max.toNat
    attempts := min (b.attempts + 1) (UInt32.size - 1) }

def next (b : Backoff) (dice : Dice) : Nat × Backoff × Dice :=
  let (jitter, dice) := dice.upTo (b.current / 4)
  (b.current - jitter, b.advance, dice)

def reset (b : Backoff) : Backoff :=
  start b.delays

end Backoff

end LiveTopology
