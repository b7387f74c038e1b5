import LiveTopology.Settings

/-!
This module contains what is known of settings that are valid.
-/

namespace LiveTopology.Settings

theorem validate_eq_ok_iff (s : Settings)
    : s.validate = .ok ()
        ↔ isUrl s.serverUrl = true ∧ isZoom s.zoomMin s.zoomMax = true
          ∧ Delays.isValid s.delays = true := by
  unfold validate
  cases isUrl s.serverUrl with
  | false => simp
  | true =>
    cases isZoom s.zoomMin s.zoomMax with
    | false => simp
    | true => cases Delays.isValid s.delays <;> simp

theorem Delays.isValid_iff (d : Delays)
    : isValid d = true ↔ 0 < d.initial.toNat ∧ d.initial.toNat ≤ d.max.toNat := by
  unfold isValid
  rw [Bool.and_eq_true, decide_eq_true_iff, decide_eq_true_iff]
  rfl

theorem isZoom_iff (min max : Float)
    : isZoom min max = true
        ↔ min.isFinite = true ∧ max.isFinite = true ∧ 0.0 < min ∧ min ≤ max := by
  unfold isZoom
  simp only [Bool.and_eq_true, decide_eq_true_iff, and_assoc]

end LiveTopology.Settings
