import LiveTopology.Proofs.Decimal.Order
import LiveTopology.Viewport.Extent

/-!
This module contains that there is always a scale within the bounds that are made for it, and that
it is one to which a scale is taken back.
-/

namespace LiveTopology

namespace Extent

/-- What holds of all bounds that are made, whatever they are made of. -/
structure WellFormed (e : Extent Float) : Prop where
  min_finite : e.min.isFinite = true
  floor_le_min : floor ≤ e.min
  min_le_max : e.min ≤ e.max

theorem wellFormed_of (min max : Float) : (Extent.of min max).WellFormed := by
  have hmin : (Extent.of min max).min.isFinite = true ∧ floor ≤ (Extent.of min max).min := by
    unfold Extent.of above
    dsimp only
    split
    . next h =>
      rw [Bool.and_eq_true, decide_eq_true_iff] at h
      exact ⟨h.1, Float.le_of_lt h.2⟩
    . have hfloor : floor.isFinite = true := by decide +kernel
      exact ⟨hfloor, Float.le_refl (Float.isNaN_of_isFinite hfloor)⟩
  refine ⟨hmin.1, hmin.2, ?_⟩
  show (Extent.of min max).min
    ≤ if (Extent.of min max).min < max then max else (Extent.of min max).min
  split
  . next h => exact Float.le_of_lt h
  . exact Float.le_refl (Float.isNaN_of_isFinite hmin.1)

namespace WellFormed

variable {e : Extent Float} (h : e.WellFormed)
include h

theorem min_pos : 0.0 < e.min := by
  have hfloor : 0.0 < floor := by decide +kernel
  exact Float.lt_of_lt_of_le hfloor h.floor_le_min

theorem min_le_clamp (scale : Float) : e.min ≤ e.clamp scale := by
  have hmin := Float.le_refl (Float.isNaN_of_isFinite h.min_finite)
  unfold clamp
  split
  . next hpos =>
    split
    . exact hmin
    . next hlow =>
      split
      . exact h.min_le_max
      . exact Float.le_of_not_lt (Float.isNaN_of_lt hpos).2 (Float.isNaN_of_le hmin).1 hlow
  . exact hmin

theorem clamp_le_max (scale : Float) : e.clamp scale ≤ e.max := by
  have hmax := (Float.isNaN_of_le h.min_le_max).2
  unfold clamp
  split
  . next hpos =>
    split
    . exact h.min_le_max
    . split
      . exact Float.le_refl hmax
      . next hhigh => exact Float.le_of_not_lt hmax (Float.isNaN_of_lt hpos).2 hhigh
  . exact h.min_le_max

end WellFormed

end Extent

end LiveTopology
