import LiveTopology.Proofs.Backoff
import LiveTopology.Proofs.Settings
import Mathlib.Data.List.Induction

/-!
This module contains the delays of a whole run of attempts and resets, and that words of fixed width
are wide enough to compute them in.
-/

namespace LiveTopology.Backoff

inductive Op where
  | next
  | reset
  deriving DecidableEq, Repr

def step (p : Backoff × Dice) : Op → Backoff × Dice
  | .next => (p.1.next p.2).2
  | .reset => (p.1.reset, p.2)

def run (p : Backoff × Dice) (ops : List Op) : Backoff × Dice :=
  ops.foldl step p

/-- How many delays there were since the last reset. -/
def tries (ops : List Op) : Nat :=
  (ops.reverse.takeWhile (· = .next)).length

theorem run_concat (p : Backoff × Dice) (ops : List Op) (op : Op)
    : run p (ops ++ [op]) = step (run p ops) op := by
  unfold run
  rw [List.foldl_append]
  rfl

theorem tries_next (ops : List Op) : tries (ops ++ [.next]) = tries ops + 1 := by
  simp [tries]

theorem tries_reset (ops : List Op) : tries (ops ++ [.reset]) = 0 := by
  simp [tries]

theorem fst_run (delays : Delays) (dice : Dice) (ops : List Op)
    : (run (start delays, dice) ops).1 = after delays (tries ops) := by
  induction ops using List.reverseRecOn with
  | nil => rfl
  | append_singleton ops op ih =>
    rw [run_concat]
    cases op with
    | next =>
      rw [tries_next]
      show (run (start delays, dice) ops).1.advance = (after delays (tries ops)).advance
      rw [ih]
    | reset =>
      rw [tries_reset]
      show (run (start delays, dice) ops).1.reset = after delays 0
      rw [ih, reset_after]

/-- The numbers of a backoff as words of fixed width. Sums and differences of words wrap around. -/
structure Words where
  current : UInt64
  attempts : UInt32

namespace Words

/-- Twice a word, or the greatest word where that is too much. -/
def double (x : UInt64) : UInt64 :=
  if 2 * x.toNat < UInt64.size then 2 * x else .ofNat (UInt64.size - 1)

/-- The next word, or the greatest word once more. -/
def succ (x : UInt32) : UInt32 :=
  if x.toNat + 1 < UInt32.size then x + 1 else x

def start (delays : Delays) : Words :=
  ⟨delays.initial, 0⟩

/-- A delay, with what it leaves of the dice. -/
def delay (w : Words) (dice : Dice) : UInt64 × Dice :=
  let (jitter, dice) := dice.upTo (w.current / 4).toNat
  (w.current - .ofNat jitter, dice)

def step (delays : Delays) (p : Words × Dice) : Op → Words × Dice
  | .next => (⟨min (double p.1.current) delays.max, succ p.1.attempts⟩, (p.1.delay p.2).2)
  | .reset => (start delays, p.2)

def run (delays : Delays) (p : Words × Dice) (ops : List Op) : Words × Dice :=
  ops.foldl (step delays) p

theorem toNat_double (x : UInt64) : (double x).toNat = min (2 * x.toNat) (UInt64.size - 1) := by
  unfold double
  split
  . next h =>
    rw [UInt64.toNat_mul]
    simp only [UInt64.size] at h ⊢
    show 2 * x.toNat % 2 ^ 64 = _
    omega
  . next h =>
    simp only [UInt64.size] at h ⊢
    show 2 ^ 64 - 1 = _
    omega

theorem toNat_succ (x : UInt32) : (succ x).toNat = min (x.toNat + 1) (UInt32.size - 1) := by
  have hx := x.toNat_lt
  unfold succ
  split
  . next h =>
    rw [UInt32.toNat_add]
    simp only [UInt32.size] at h ⊢
    show (x.toNat + 1) % 2 ^ 32 = _
    omega
  . next h =>
    simp only [UInt32.size] at h ⊢
    omega

theorem toNat_min (x y : UInt64) : (min x y).toNat = min x.toNat y.toNat := by
  show (if x ≤ y then x else y).toNat = _
  simp only [UInt64.le_iff_toNat_le]
  split <;> omega

/-- The words stand for the numbers of `b`. -/
structure Holds (w : Words) (b : Backoff) : Prop where
  current : b.current = w.current.toNat
  attempts : b.attempts = w.attempts.toNat

/-- The random part is at most a quarter, so that the difference does not wrap around. -/
theorem Holds.delay {w : Words} {b : Backoff} (h : Holds w b) (dice : Dice)
    : (b.next dice).1 = (w.delay dice).1.toNat ∧ (b.next dice).2.2 = (w.delay dice).2 := by
  have hquarter : b.current / 4 = (w.current / 4).toNat := by
    rw [h.current, UInt64.toNat_div]
    rfl
  have hjitter := dice.upTo_le (b.current / 4)
  have hword : (UInt64.ofNat (dice.upTo (b.current / 4)).1).toNat
      = (dice.upTo (b.current / 4)).1 := by
    apply UInt64.toNat_ofNat_of_lt'
    have hcurrent := w.current.toNat_lt
    rw [h.current] at hjitter ⊢
    simp only [UInt64.size]
    omega
  unfold next Words.delay
  rw [← hquarter]
  constructor
  . show b.current - (dice.upTo (b.current / 4)).1
      = (w.current - .ofNat (dice.upTo (b.current / 4)).1).toNat
    rw [UInt64.toNat_sub_of_le, hword, h.current]
    rw [UInt64.le_iff_toNat_le, hword, ← h.current]
    omega
  . rfl

theorem Holds.advance {w : Words} {b : Backoff} (h : Holds w b) (delays : Delays)
    (hdelays : b.delays = delays)
    : Holds ⟨min (double w.current) delays.max, succ w.attempts⟩ b.advance where
  current := by
    have hmax := delays.max.toNat_lt
    show min (2 * b.current) b.delays.max.toNat = (min (double w.current) delays.max).toNat
    rw [toNat_min, toNat_double, h.current, hdelays]
    simp only [UInt64.size]
    omega
  attempts := by
    show min (b.attempts + 1) (UInt32.size - 1) = (succ w.attempts).toNat
    rw [toNat_succ, h.attempts]

theorem holds_run (delays : Delays) (dice : Dice) (ops : List Op)
    : Holds (run delays (start delays, dice) ops).1 (Backoff.run (.start delays, dice) ops).1
        ∧ (Backoff.run (.start delays, dice) ops).2 = (run delays (start delays, dice) ops).2 := by
  induction ops using List.reverseRecOn with
  | nil => exact ⟨⟨rfl, rfl⟩, rfl⟩
  | append_singleton ops op ih =>
    obtain ⟨hholds, hdice⟩ := ih
    have hdelays : (Backoff.run (.start delays, dice) ops).1.delays = delays := by
      rw [fst_run, delays_after]
    have hconcat : run delays (start delays, dice) (ops ++ [op])
        = step delays (run delays (start delays, dice) ops) op := by
      unfold run
      rw [List.foldl_append]
      rfl
    rw [hconcat, run_concat]
    cases op with
    | next =>
      refine ⟨hholds.advance delays hdelays, ?_⟩
      show (Backoff.next _ _).2.2 = _
      rw [hdice]
      exact (hholds.delay _).2
    | reset =>
      refine ⟨?_, hdice⟩
      show Holds (start delays) (Backoff.start (Backoff.run (.start delays, dice) ops).1.delays)
      rw [hdelays]
      exact ⟨rfl, rfl⟩

end Words

/-- What is known of a backoff after `n` delays since it was last reset, and of the delay next. -/
structure Timed (settings : Settings) (n : Nat) (b : Backoff) (dice : Dice) : Prop where
  current : b.current
    = if n = 0 then settings.delays.initial.toNat
      else min (settings.delays.initial.toNat * 2 ^ n) settings.delays.max.toNat
  attempts : b.attempts = min n (UInt32.size - 1)
  jittered : b.current - b.current / 4 ≤ (b.next dice).1 ∧ (b.next dice).1 ≤ b.current
  within : settings.validate = .ok () →
    1 ≤ (b.next dice).1 ∧ (b.next dice).1 ≤ settings.delays.max.toNat
  rising : settings.validate = .ok () → b.current ≤ (b.next dice).2.1.current

theorem current_after_eq (delays : Delays) (n : Nat)
    : (after delays n).current
        = if n = 0 then delays.initial.toNat
          else min (delays.initial.toNat * 2 ^ n) delays.max.toNat := by
  cases n with
  | zero => rfl
  | succ n =>
    rw [if_neg (Nat.succ_ne_zero n)]
    apply current_after_succ

theorem current_after_le_max {delays : Delays}
    (h : delays.initial.toNat ≤ delays.max.toNat) (n : Nat)
    : (after delays n).current ≤ delays.max.toNat := by
  rw [current_after h]
  apply Nat.min_le_right

theorem current_after_mono {delays : Delays}
    (h : delays.initial.toNat ≤ delays.max.toNat) (n : Nat)
    : (after delays n).current ≤ (after delays (n + 1)).current := by
  rw [current_after h, current_after h]
  unfold Delays.base
  rw [Nat.pow_succ, ← Nat.mul_assoc]
  omega

theorem current_after_pos {delays : Delays} (hpos : 0 < delays.initial.toNat)
    (h : delays.initial.toNat ≤ delays.max.toNat) (n : Nat)
    : 0 < (after delays n).current := by
  induction n with
  | zero => exact hpos
  | succ n ih => exact Nat.lt_of_lt_of_le ih (current_after_mono h n)

theorem timed_after (settings : Settings) (n : Nat) (dice : Dice)
    : Timed settings n (after settings.delays n) dice := by
  have hlow := le_next (after settings.delays n) dice
  have hhigh := next_le (after settings.delays n) dice
  constructor
  case current => apply current_after_eq
  case attempts => apply attempts_after
  case jittered => exact ⟨hlow, hhigh⟩
  case within =>
    intro hvalid
    have hdelays := ((Settings.validate_eq_ok_iff settings).1 hvalid).2.2
    obtain ⟨hpos, hle⟩ := (Settings.Delays.isValid_iff settings.delays).1 hdelays
    have hcurrent := current_after_pos hpos hle n
    have hmax := current_after_le_max hle n
    omega
  case rising =>
    intro hvalid
    have hdelays := ((Settings.validate_eq_ok_iff settings).1 hvalid).2.2
    exact current_after_mono ((Settings.Delays.isValid_iff settings.delays).1 hdelays).2 n

/-- Whatever delays were asked for and whenever they were reset, all that is known of them depends
only on how many there were since. Nothing on the way is too great for a word or below zero. -/
theorem timed_run (settings : Settings) (dice : Dice) (ops : List Op)
    : let p := run (start settings.delays, dice) ops
      let q := Words.run settings.delays (Words.start settings.delays, dice) ops
      Timed settings (tries ops) p.1 p.2
        ∧ p.1.current = q.1.current.toNat
        ∧ p.1.attempts = q.1.attempts.toNat
        ∧ (p.1.next p.2).1 = (q.1.delay q.2).1.toNat := by
  intro p q
  obtain ⟨hholds, hdice⟩ := Words.holds_run settings.delays dice ops
  refine ⟨?_, hholds.current, hholds.attempts, ?_⟩
  . rw [show p.1 = _ from fst_run settings.delays dice ops]
    apply timed_after
  . rw [show q.2 = p.2 from hdice.symm]
    exact (hholds.delay p.2).1

end LiveTopology.Backoff
