import LiveTopology.Proofs.Viewport.Extent

/-!
This module contains that taking a scale back to its bounds is a projection of all doubles onto the
ones within, and that there is always such a double to take it back to.
-/

namespace LiveTopology

namespace Extent

/--
The double nearest to `x` from `low` to `high`. There is none if these are not in order, as when one
of them is no number.
-/
def nearest? (low high x : Float) : Option Float :=
  if low ≤ high then
    let x := if x < low then low else x
    some (if high < x then high else x)
  else
    none

/-- What `clamp` is where bounds may be out of order: to ask for a double from these is an error. -/
def clamp? (e : Extent Float) (scale : Float) : Option Float :=
  if scale.isNaN || scale ≤ 0.0 then some e.min else nearest? e.min e.max scale

/-- What makes taking a scale back to `e` a projection. -/
structure Projects (e : Extent Float) : Prop where
  min_le : ∀ scale, e.min ≤ e.clamp scale
  le_max : ∀ scale, e.clamp scale ≤ e.max
  idem : ∀ scale, e.clamp (e.clamp scale) = e.clamp scale
  fixed : ∀ scale, e.min ≤ scale → scale ≤ e.max → e.clamp scale = scale
  mono : ∀ scale scale', scale ≤ scale' → e.clamp scale ≤ e.clamp scale'

section

variable {e : Extent Float} {scale : Float}

theorem clamp_of_pos (h : 0.0 < scale)
    : e.clamp scale
        =
      if scale < e.min then e.min else if e.max < scale then e.max else scale :=
  if_pos h

theorem clamp_of_not_pos (h : ¬ 0.0 < scale) : e.clamp scale = e.min :=
  if_neg h

theorem clamp_of_lt_min (h : scale < e.min) : e.clamp scale = e.min := by
  by_cases hpos : 0.0 < scale
  . rw [clamp_of_pos hpos, if_pos h]
  . exact clamp_of_not_pos hpos

end

namespace WellFormed

variable {e : Extent Float} (h : e.WellFormed) {scale scale' : Float}
include h

theorem clamp_of_mem (hmin : e.min ≤ scale) (hmax : scale ≤ e.max) : e.clamp scale = scale := by
  have hpos : 0.0 < scale := Float.lt_of_lt_of_le h.min_pos hmin
  rw [clamp_of_pos hpos, if_neg (Float.not_lt_of_le hmin), if_neg (Float.not_lt_of_le hmax)]

theorem clamp_of_max_lt (hhigh : e.max < scale) : e.clamp scale = e.max := by
  have hmin : e.min ≤ scale := Float.le_trans h.min_le_max (Float.le_of_lt hhigh)
  have hpos : 0.0 < scale := Float.lt_of_lt_of_le h.min_pos hmin
  rw [clamp_of_pos hpos, if_neg (Float.not_lt_of_le hmin), if_pos hhigh]

theorem clamp_mono (hle : scale ≤ scale') : e.clamp scale ≤ e.clamp scale' := by
  obtain ⟨hscale, hscale'⟩ := Float.isNaN_of_le hle
  obtain ⟨hmin, hmax⟩ := Float.isNaN_of_le h.min_le_max
  by_cases hlow : scale < e.min
  . rw [clamp_of_lt_min hlow]
    exact h.min_le_clamp scale'
  . have hreached : e.min ≤ scale := Float.le_of_not_lt hscale hmin hlow
    by_cases hhigh' : e.max < scale'
    . rw [h.clamp_of_max_lt hhigh']
      exact h.clamp_le_max scale
    . -- What is left is that both are within the bounds, and neither is taken back.
      have hkept' : scale' ≤ e.max := Float.le_of_not_lt hmax hscale' hhigh'
      rw [h.clamp_of_mem hreached (Float.le_trans hle hkept'),
        h.clamp_of_mem (Float.le_trans hreached hle) hkept']
      exact hle

theorem projects : e.Projects where
  min_le := h.min_le_clamp
  le_max := h.clamp_le_max
  idem := fun scale => h.clamp_of_mem (h.min_le_clamp scale) (h.clamp_le_max scale)
  fixed := fun _ => h.clamp_of_mem
  mono := fun _ _ => h.clamp_mono

theorem nearest?_eq (hpos : 0.0 < scale)
    : nearest? e.min e.max scale = some (e.clamp scale) := by
  unfold nearest?
  rw [if_pos h.min_le_max, clamp_of_pos hpos]
  dsimp only
  by_cases hlow : scale < e.min
  . rw [if_pos hlow, if_pos hlow, if_neg (Float.not_lt_of_le h.min_le_max)]
  . rw [if_neg hlow, if_neg hlow]

/-- The bounds are such that a double from them can be asked for, whatever the scale is. -/
theorem clamp?_eq (scale : Float) : e.clamp? scale = some (e.clamp scale) := by
  have hzero : (0.0 : Float).isNaN = false := by decide +kernel
  unfold clamp?
  cases hscale : scale.isNaN with
  | true =>
    rw [clamp_of_not_pos]
    . rfl
    . intro hpos
      rw [(Float.isNaN_of_lt hpos).2] at hscale
      contradiction
  | false =>
    by_cases hpos : 0.0 < scale
    . have hnot : ¬ scale ≤ 0.0 := (Float.lt_iff_not_le hzero hscale).1 hpos
      simp [hnot, h.nearest?_eq hpos]
    . have hle : scale ≤ 0.0 := Float.le_of_not_lt hzero hscale hpos
      simp [hle, clamp_of_not_pos hpos]

end WellFormed

theorem raise_eq {low x : Float} (hpos : 0.0 < low) (hle : low ≤ x)
    : (if low < x then x else low) = x := by
  split
  . rfl
  . next hlow =>
    -- Neither is a zero, so that being equal they are the same.
    have hnan := Float.isNaN_of_le hle
    exact Float.eq_of_le_of_le hle (Float.le_of_not_lt hnan.1 hnan.2 hlow) hpos

/-- Bounds are made as they are asked for exactly if they are well-formed. -/
theorem of_eq_iff (min max : Float)
    : of min max = ⟨min, max⟩ ↔ WellFormed ⟨min, max⟩ := by
  constructor
  . intro heq
    rw [← heq]
    apply wellFormed_of
  . intro h
    have hfloor : 0.0 < floor := by decide +kernel
    have hmin : (of min max).min = min := by
      show (if min.isFinite && floor < min then min else floor) = min
      rw [h.min_finite, Bool.true_and]
      simp only [decide_eq_true_eq]
      exact raise_eq hfloor h.floor_le_min
    have hmax : (of min max).max = max := by
      show (if (of min max).min < max then max else (of min max).min) = max
      rw [hmin]
      exact raise_eq h.min_pos h.min_le_max
    calc
      of min max = ⟨(of min max).min, (of min max).max⟩ := rfl
      _ = ⟨min, max⟩ := by rw [hmin, hmax]

/-- Whatever bounds are asked for, the ones that are made are in order, so that taking a scale back
to them never fails and is a projection. Only bounds that are not well-formed are made differently. -/
theorem projects_of (min max : Float)
    : (of min max).WellFormed
      ∧ (of min max).max.isNaN = false
      ∧ (∀ scale, (of min max).clamp? scale = some ((of min max).clamp scale))
      ∧ (of min max).Projects
      ∧ (of min max = ⟨min, max⟩ ↔ WellFormed ⟨min, max⟩) := by
  have h : (of min max).WellFormed := wellFormed_of min max
  have hmax : (of min max).max.isNaN = false := (Float.isNaN_of_le h.min_le_max).2
  exact ⟨h, hmax, h.clamp?_eq, h.projects, of_eq_iff min max⟩

example : of defaultMin defaultMax = default := by decide +kernel

/-- Bounds that are no numbers, or infinitely low or high. -/
example
    : of (0.0 / 0.0) (1.0 / 0.0) = ⟨floor, 1.0 / 0.0⟩
      ∧ of (1.0 / 0.0) (0.0 / 0.0) = ⟨floor, floor⟩ := by
  decide +kernel

end Extent

end LiveTopology
