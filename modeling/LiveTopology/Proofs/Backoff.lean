import LiveTopology.Backoff
import Mathlib.Algebra.Group.Nat.Defs

/-!
This module contains the delays between attempts in closed form: how the delay that the next one is
based on grows, and how much less than it the next one can be.
-/

namespace LiveTopology

theorem Dice.upTo_le (d : Dice) (limit : Nat) : (d.upTo limit).1 ≤ limit := by
  have hword : (d.word d.taken).toNat * (limit + 1) ≤ (UInt64.size - 1) * (limit + 1) := by
    apply Nat.mul_le_mul_right
    apply Nat.le_sub_one_of_lt
    apply UInt64.toNat_lt
  unfold upTo roll
  simp only [UInt64.size] at hword ⊢
  split
  . -- The lower half is close to the next choice, so that there is a next choice.
    split <;> omega
  . omega

namespace Delays

/-- What the delay after `losses` earlier ones is based on, in milliseconds. -/
def base (d : Delays) (losses : Nat) : Nat :=
  min (d.initial.toNat * 2 ^ losses) d.max.toNat

end Delays

namespace Backoff

/-- The backoff after so many attempts. -/
def after (delays : Delays) : Nat → Backoff
  | 0 => start delays
  | n + 1 => (after delays n).advance

theorem delays_after (delays : Delays) (n : Nat) : (after delays n).delays = delays := by
  induction n with
  | zero => rfl
  | succ n ih => exact ih

theorem reset_after (delays : Delays) (n : Nat) : (after delays n).reset = after delays 0 := by
  unfold reset
  rw [delays_after]
  rfl

theorem current_after_succ (delays : Delays) (n : Nat)
    : (after delays (n + 1)).current = delays.base (n + 1) := by
  induction n with
  | zero =>
    show min (2 * delays.initial.toNat) delays.max.toNat = delays.base 1
    unfold Delays.base
    omega
  | succ n ih =>
    show min (2 * (after delays (n + 1)).current) (after delays (n + 1)).delays.max.toNat = _
    rw [ih, delays_after]
    unfold Delays.base
    rw [Nat.pow_succ 2 (n + 1), ← Nat.mul_assoc]
    omega

theorem current_after {delays : Delays} (h : delays.initial.toNat ≤ delays.max.toNat) (n : Nat)
    : (after delays n).current = delays.base n := by
  cases n with
  | zero =>
    show delays.initial.toNat = delays.base 0
    unfold Delays.base
    omega
  | succ n => apply current_after_succ

theorem attempts_after (delays : Delays) (n : Nat)
    : (after delays n).attempts = min n (UInt32.size - 1) := by
  induction n with
  | zero =>
    show 0 = _
    omega
  | succ n ih =>
    show min ((after delays n).attempts + 1) (UInt32.size - 1) = _
    rw [ih]
    omega

theorem next_le (b : Backoff) (dice : Dice) : (b.next dice).1 ≤ b.current := by
  apply Nat.sub_le

theorem le_next (b : Backoff) (dice : Dice) : b.current - b.current / 4 ≤ (b.next dice).1 := by
  apply Nat.sub_le_sub_left
  apply Dice.upTo_le

end Backoff

end LiveTopology
