import LiveTopology.Proofs.Decimal.Packing

/-!
This module contains the order of the doubles. What is no number is not comparable to anything, and
all other doubles stand in a row in which only the two zeros share a place.
-/

namespace LiveTopology

open Float.Model Float.Model.UnpackedFloat

/-- Where a double stands: by its sign and kind first, then by its exponent and by its mantissa. -/
def place? : UnpackedFloat → Option (Int ×ₗ Int ×ₗ Int)
  | .notANumber => none
  | .infinity .negative => some (toLex (-2, toLex (0, 0)))
  | .finite .negative m e _ => some (toLex (-1, toLex (-e, -m)))
  | .zero _ => some (toLex (0, toLex (0, 0)))
  | .finite .positive m e _ => some (toLex (1, toLex (e, m)))
  | .infinity .positive => some (toLex (2, toLex (0, 0)))

theorem compare_natCast (m n : Nat) : compare (m : Int) n = compare m n := by
  simp [Int.compare_eq_ite_lt, Nat.compare_eq_ite_lt]

theorem compare_neg_neg (m n : Int) : compare (-m) (-n) = (compare m n).swap := by
  rw [Int.compare_swap, Int.compare_eq_ite_lt, Int.compare_eq_ite_lt]
  simp

/-- Doubles are compared by their places. -/
theorem compare_eq_places (a b : UnpackedFloat)
    : a.compare b = (place? a).bind fun p => (place? b).map fun q => compare p q := by
  rcases a with (_ | _) | _ | _ | ⟨_ | _, m, e, _⟩
    <;> rcases b with (_ | _) | _ | _ | ⟨_ | _, m', e', _⟩
    <;> try rfl
  -- Only where both are finite and of the same sign, more than the kinds must be compared.
  . show some ((compare e e').then (compare m m')).swap
      = some ((compare (-1 : Int) (-1)).then ((compare (-e) (-e')).then (compare (-(m : Int)) (-m'))))
    rw [compare_neg_neg e, compare_neg_neg m, compare_natCast, ← Ordering.swap_then]
    rfl
  . show some ((compare e e').then (compare m m'))
      = some ((compare (1 : Int) 1).then ((compare e e').then (compare (m : Int) m')))
    rw [compare_natCast]
    rfl

/-- A place tells which double stands there, unless it is a zero. -/
theorem eq_of_place?_eq {a b : UnpackedFloat} (h : place? a = place? b)
    (hzero : place? a ≠ place? (.zero .positive)) : a = b := by
  rcases a with (_ | _) | _ | _ | ⟨_ | _, m, e, _⟩
    <;> rcases b with (_ | _) | _ | _ | ⟨_ | _, m', e', _⟩
    -- Those of different kinds differ in the first part of their places already.
    <;> simp [place?] at h hzero ⊢
    <;> omega

theorem isLE_compare_iff (p q : Int ×ₗ Int ×ₗ Int) : (compare p q).isLE = true ↔ p ≤ q := by
  rw [← compare_le_iff_le]
  cases compare p q <;> simp

end LiveTopology

namespace Float

open LiveTopology

variable {x y z : Float}

theorem lt_iff_places
    : x < y ↔ ∃ p ∈ place? x.toModel.unpack, ∃ q ∈ place? y.toModel.unpack, p < q := by
  have hlt : x < y ↔ x.toModel.unpack.compare y.toModel.unpack = some .lt := by
    show decide (x.toModel < y.toModel) = true ↔ _
    rw [decide_eq_true_iff]
    exact beq_iff_eq
  rw [hlt, compare_eq_places]
  cases place? x.toModel.unpack <;> cases place? y.toModel.unpack <;> simp [compare_lt_iff_lt]

theorem le_iff_places
    : x ≤ y ↔ ∃ p ∈ place? x.toModel.unpack, ∃ q ∈ place? y.toModel.unpack, p ≤ q := by
  have hle : x ≤ y ↔ (x.toModel.unpack.compare y.toModel.unpack).any (·.isLE) = true := by
    show decide (x.toModel ≤ y.toModel) = true ↔ _
    rw [decide_eq_true_iff]
    rfl
  rw [hle, compare_eq_places]
  cases place? x.toModel.unpack <;> cases place? y.toModel.unpack <;> simp [isLE_compare_iff]

theorem isNaN_eq_false_iff_places : x.isNaN = false ↔ ∃ p, p ∈ place? x.toModel.unpack := by
  show x.toModel.unpack.isNaN = false ↔ _
  rcases x.toModel.unpack with (_ | _) | _ | _ | ⟨_ | _, _, _, _⟩
    <;> simp [place?, Model.UnpackedFloat.isNaN]

theorem isNaN_of_isFinite (h : x.isFinite = true) : x.isNaN = false := by
  have h : x.toModel.unpack.isFinite = true := h
  show x.toModel.unpack.isNaN = false
  cases hx : x.toModel.unpack with
  | notANumber =>
    rw [hx] at h
    contradiction
  | _ => rfl

theorem isNaN_of_lt (h : x < y) : x.isNaN = false ∧ y.isNaN = false := by
  obtain ⟨p, hp, q, hq, -⟩ := lt_iff_places.1 h
  exact ⟨isNaN_eq_false_iff_places.2 ⟨p, hp⟩, isNaN_eq_false_iff_places.2 ⟨q, hq⟩⟩

theorem isNaN_of_le (h : x ≤ y) : x.isNaN = false ∧ y.isNaN = false := by
  obtain ⟨p, hp, q, hq, -⟩ := le_iff_places.1 h
  exact ⟨isNaN_eq_false_iff_places.2 ⟨p, hp⟩, isNaN_eq_false_iff_places.2 ⟨q, hq⟩⟩

theorem le_refl (h : x.isNaN = false) : x ≤ x := by
  obtain ⟨p, hp⟩ := isNaN_eq_false_iff_places.1 h
  exact le_iff_places.2 ⟨p, hp, p, hp, le_rfl⟩

theorem le_of_lt (h : x < y) : x ≤ y := by
  obtain ⟨p, hp, q, hq, hlt⟩ := lt_iff_places.1 h
  exact le_iff_places.2 ⟨p, hp, q, hq, hlt.le⟩

theorem lt_iff_not_le (hx : x.isNaN = false) (hy : y.isNaN = false) : x < y ↔ ¬ y ≤ x := by
  obtain ⟨p, hp⟩ := isNaN_eq_false_iff_places.1 hx
  obtain ⟨q, hq⟩ := isNaN_eq_false_iff_places.1 hy
  rw [lt_iff_places, le_iff_places]
  simp [Option.mem_def.1 hp, Option.mem_def.1 hq]

/-- Of two doubles that are numbers, one is at most the other. -/
theorem le_of_not_lt (hx : x.isNaN = false) (hy : y.isNaN = false) (h : ¬ x < y) : y ≤ x := by
  rw [lt_iff_not_le hx hy] at h
  exact not_not.1 h

theorem not_lt_of_le (h : x ≤ y) : ¬ y < x := by
  obtain ⟨hx, hy⟩ := isNaN_of_le h
  rw [lt_iff_not_le hy hx]
  exact not_not_intro h

theorem le_trans (hxy : x ≤ y) (hyz : y ≤ z) : x ≤ z := by
  obtain ⟨p, hp, q, hq, hle⟩ := le_iff_places.1 hxy
  obtain ⟨q', hq', r, hr, hle'⟩ := le_iff_places.1 hyz
  obtain rfl := Option.mem_unique hq hq'
  exact le_iff_places.2 ⟨p, hp, r, hr, hle.trans hle'⟩

theorem lt_of_lt_of_le (hxy : x < y) (hyz : y ≤ z) : x < z := by
  obtain ⟨p, hp, q, hq, hlt⟩ := lt_iff_places.1 hxy
  obtain ⟨q', hq', r, hr, hle⟩ := le_iff_places.1 hyz
  obtain rfl := Option.mem_unique hq hq'
  exact lt_iff_places.2 ⟨p, hp, r, hr, hlt.trans_le hle⟩

/-- Doubles that are at most each other are the same, unless they are zeros. -/
theorem eq_of_le_of_le (hxy : x ≤ y) (hyx : y ≤ x) (hpos : 0.0 < x) : x = y := by
  obtain ⟨p, hp, q, hq, hpq⟩ := le_iff_places.1 hxy
  obtain ⟨q', hq', p', hp', hqp⟩ := le_iff_places.1 hyx
  obtain rfl := Option.mem_unique hp hp'
  obtain rfl := Option.mem_unique hq hq'
  obtain rfl := le_antisymm hpq hqp
  obtain ⟨zero, hzero, p', hp', hlt⟩ := lt_iff_places.1 hpos
  obtain rfl := Option.mem_unique hp hp'
  apply Packing.eq_of_unpack_eq
  apply eq_of_place?_eq
  . rw [Option.mem_def.1 hp, Option.mem_def.1 hq]
  . intro heq
    have : zero = p := Option.some.inj (hzero.symm.trans (heq.symm.trans hp))
    exact hlt.ne this

end Float
