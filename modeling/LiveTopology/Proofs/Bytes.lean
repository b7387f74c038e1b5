import LiveTopology.Bytes
import Mathlib.Tactic.SplitIfs

/-!
This module contains that texts which are in order by their characters are so by the bytes that they
are written as, too.
-/

namespace LiveTopology.Bytes

theorem ofText_eq_flatMap (s : String) : ofText s = s.toList.flatMap String.utf8EncodeChar := by
  unfold ofText
  rw [← String.ofList_toList (s := s), String.toByteArray_ofList]
  simp [List.utf8Encode]

/-- The first bytes in which two characters differ are in the order of the characters. -/
theorem encodeChar_append_lt {c d : Char} (h : c < d) (bs bs' : List UInt8)
    : String.utf8EncodeChar c ++ bs < String.utf8EncodeChar d ++ bs' := by
  have hlt : c.val.toNat < d.val.toNat := h
  have hmax : d.val.toNat < 0x110000 := by
    have := d.valid
    unfold UInt32.isValidChar Nat.isValidChar at this
    omega
  -- All bytes but the first hold six bits each.
  have hdigits (n : Nat) : n / 4096 = n / 64 / 64 ∧ n / 262144 = n / 64 / 64 / 64 := by omega
  simp only [String.utf8EncodeChar, hdigits]
  generalize c.val.toNat = m at *
  generalize d.val.toNat = n at *
  clear hdigits
  split_ifs
  all_goals
    simp only [List.cons_append, List.nil_append, List.cons_lt_cons_iff, UInt8.lt_iff_toNat_lt,
      ← UInt8.toNat_inj, UInt8.toNat_ofNat']
    omega

theorem flatMap_encodeChar_lt {cs ds : List Char} (h : cs < ds)
    : cs.flatMap String.utf8EncodeChar < ds.flatMap String.utf8EncodeChar := by
  induction h with
  | nil =>
    next d ds =>
    rw [List.flatMap_cons, List.flatMap_nil]
    obtain ⟨b, bs, hbs⟩ := List.exists_cons_of_ne_nil (String.utf8EncodeChar_ne_nil (c := d))
    rw [hbs]
    exact List.nil_lt_cons _ _
  | rel h => exact encodeChar_append_lt h _ _
  | cons h ih =>
    rw [List.flatMap_cons, List.flatMap_cons]
    exact List.append_left_lt ih

theorem ofText_lt {s t : String} (h : s < t) : ofText s < ofText t := by
  rw [ofText_eq_flatMap, ofText_eq_flatMap]
  apply flatMap_encodeChar_lt
  exact String.lt_iff.1 h

end LiveTopology.Bytes
