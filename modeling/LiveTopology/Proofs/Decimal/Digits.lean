import LiveTopology.Proofs.Decimal.Shortest

/-!
This module contains what the digits of a number say about it, and that a double is written as the
number that its digits were chosen for, wherever the point is put.
-/

namespace LiveTopology.Decimal

theorem ofDigits_eq (ds : List Char) : ofDigits ds = Nat.ofDigitChars 10 ds 0 :=
  Nat.ofDigitChars_eq_foldl.symm

theorem ofDigits_append (ds es : List Char)
    : ofDigits (ds ++ es) = ofDigits ds * 10 ^ es.length + ofDigits es := by
  rw [ofDigits_eq, ofDigits_eq, ofDigits_eq, Nat.ofDigitChars_append,
    Nat.ofDigitChars_eq_ofDigitChars_zero, Nat.mul_comm]

theorem ofDigits_replicate_zero (n : Nat) : ofDigits (List.replicate n '0') = 0 := by
  rw [ofDigits_eq, Nat.ofDigitChars_replicate_zero, Nat.mul_zero]

theorem ofDigits_toDigits (n : Nat) : ofDigits (Nat.toDigits 10 n) = n := by
  rw [ofDigits_eq, Nat.ofDigitChars_ten_toDigits]

/-- Digits of which the first one is not a zero. -/
structure Leading (ds : List Char) : Prop where
  isDigit : ∀ c ∈ ds, c.isDigit = true
  head : ∃ c cs, ds = c :: cs ∧ c ≠ '0'

theorem leading_toDigits {n : Nat} (hn : n ≠ 0) : Leading (Nat.toDigits 10 n) where
  isDigit c hc := Nat.isDigit_of_mem_toDigits (by omega) (by omega) hc
  head := by
    induction n using Nat.strongRecOn with
    | ind n ih =>
      by_cases hlt : n < 10
      . rw [Nat.toDigits_of_lt_base hlt]
        refine ⟨_, _, rfl, ?_⟩
        rwa [ne_eq, Nat.digitChar_eq_zero]
      . obtain ⟨c, cs, heq, hc⟩ := ih (n / 10) (by omega) (by omega)
        rw [Nat.toDigits_of_base_le (by omega) (by omega), heq]
        exact ⟨c, _, rfl, hc⟩

theorem isDigit_iff {c : Char} : c.isDigit = true ↔ 48 ≤ c.toNat ∧ c.toNat ≤ 57 := by
  unfold Char.isDigit
  simp only [Bool.and_eq_true, decide_eq_true_eq, ge_iff_le, UInt32.le_iff_toNat_le]
  rfl

theorem Leading.le_ofDigits {ds : List Char} (h : Leading ds)
    : 10 ^ (ds.length - 1) ≤ ofDigits ds := by
  obtain ⟨c, cs, rfl, hc⟩ := h.head
  have hdigit := h.isDigit c List.mem_cons_self
  have hpos : 1 ≤ ofDigits [c] := by
    obtain ⟨hlower, -⟩ := isDigit_iff.1 hdigit
    have hne : c.toNat ≠ 48 := fun heq => hc (Char.toNat_inj.1 heq)
    show 1 ≤ 10 * 0 + (c.toNat - 48)
    omega
  rw [show c :: cs = [c] ++ cs from rfl, ofDigits_append]
  simp only [List.cons_append, List.nil_append, List.length_cons, Nat.add_sub_cancel]
  calc 10 ^ cs.length
    _ ≤ ofDigits [c] * 10 ^ cs.length := Nat.le_mul_of_pos_left _ hpos
    _ ≤ ofDigits [c] * 10 ^ cs.length + ofDigits cs := Nat.le_add_right _ _

theorem eq_trimmed_append (ds : List Char)
    : ∃ k, ds = (ds.reverse.dropWhile (· == '0')).reverse ++ List.replicate k '0' := by
  refine ⟨(ds.reverse.takeWhile (· == '0')).length, ?_⟩
  have hzeros : ds.reverse.takeWhile (· == '0')
      = List.replicate (ds.reverse.takeWhile (· == '0')).length '0' := by
    rw [List.eq_replicate_iff]
    refine ⟨rfl, fun c hc => ?_⟩
    have hall := List.all_takeWhile (p := (· == '0')) (l := ds.reverse)
    simpa using List.all_eq_true.1 hall c hc
  have hsplit := List.takeWhile_append_dropWhile (p := (· == '0')) (l := ds.reverse)
  rw [← List.reverse_inj, List.reverse_append, List.reverse_reverse, List.reverse_replicate,
    ← hzeros, hsplit]

theorem Leading.of_append_replicate_zero {ds : List Char} {n : Nat}
    (h : Leading (ds ++ List.replicate n '0')) : Leading ds where
  isDigit c hc := h.isDigit c (List.mem_append_left _ hc)
  head := by
    obtain ⟨c, cs, heq, hc⟩ := h.head
    cases ds with
    | nil =>
      -- Digits that are all zeros do not begin with another one.
      have hmem : c ∈ List.replicate n '0' := by
        rw [← List.nil_append (List.replicate n '0'), heq]
        exact List.mem_cons_self
      exact absurd (List.eq_of_mem_replicate hmem) hc
    | cons c' cs' =>
      injection heq with hhead
      exact ⟨c', cs', rfl, hhead ▸ hc⟩

/-- The number whose significant digits are `ds`, the first of which has the exponent `lead`. -/
def led (ds : List Char) (lead : Int) : Decimal :=
  ⟨ofDigits ds, lead + 1 - ds.length⟩

theorem significant_of_digits_ne_zero {d : Decimal} (h : d.digits ≠ 0)
    : Leading (significant d).1
        ∧ d.value = (led (significant d).1 (significant d).2).value := by
  have hleading := leading_toDigits h
  obtain ⟨k, hk⟩ := eq_trimmed_append (Nat.toDigits 10 d.digits)
  unfold significant
  simp only
  generalize hds : ((Nat.toDigits 10 d.digits).reverse.dropWhile (· == '0')).reverse = ds at hk ⊢
  refine ⟨?_, ?_⟩
  . rw [hk] at hleading
    exact hleading.of_append_replicate_zero
  . have hdigits : d.digits = ofDigits ds * 10 ^ k := by
      have := ofDigits_toDigits d.digits
      rw [hk, ofDigits_append, ofDigits_replicate_zero, List.length_replicate, Nat.add_zero] at this
      exact this.symm
    have hexponent : d.exponent + (Nat.toDigits 10 d.digits).length - 1 + 1 - ds.length
        = k + d.exponent := by
      rw [hk, List.length_append, List.length_replicate]
      omega
    unfold value led
    simp only
    rw [hexponent, zpow_add₀ (by norm_num), zpow_natCast, hdigits, ← mul_assoc]
    push_cast
    rfl

/-- The digits in front of a point: a single zero, or no leading one. -/
def IsWhole (ds : List Char) : Prop :=
  ds = ['0'] ∨ Leading ds

theorem IsWhole.isDigit {ds : List Char} (h : IsWhole ds) : ∀ c ∈ ds, c.isDigit = true := by
  rcases h with rfl | h
  . intro c hc
    rw [List.eq_of_mem_singleton hc]
    rfl
  . exact h.isDigit

theorem isDigit_of_mem_replicate_zero {n : Nat} {c : Char} (h : c ∈ List.replicate n '0')
    : c.isDigit = true := by
  rw [List.eq_of_mem_replicate h]
  rfl

/-- The same number with more digits. -/
def shift (d : Decimal) (k : Nat) : Decimal :=
  ⟨d.digits * 10 ^ k, d.exponent - k⟩

theorem shift_zero (d : Decimal) : d.shift 0 = d := by
  simp [shift]

theorem value_shift (d : Decimal) (k : Nat) : (d.shift k).value = d.value := by
  have hpower : (10 : Rat) ^ k ≠ 0 := by positivity
  unfold shift value
  rw [zpow_sub₀ (by norm_num), zpow_natCast]
  push_cast
  field_simp

theorem Leading.append_replicate_zero {ds : List Char} (h : Leading ds) (n : Nat)
    : Leading (ds ++ List.replicate n '0') where
  isDigit c hc := by
    rcases List.mem_append.1 hc with hc | hc
    . exact h.isDigit c hc
    . exact isDigit_of_mem_replicate_zero hc
  head := by
    obtain ⟨c, cs, rfl, hc⟩ := h.head
    exact ⟨c, _, rfl, hc⟩

theorem Leading.take {ds : List Char} (h : Leading ds) (n : Nat) : Leading (ds.take (n + 1)) where
  isDigit c hc := h.isDigit c (List.mem_of_mem_take hc)
  head := by
    obtain ⟨c, cs, rfl, hc⟩ := h.head
    exact ⟨c, _, rfl, hc⟩

theorem positional_eq {ds : List Char} (h : Leading ds) (lead : Int)
    : ∃ whole fraction, positional ds lead true = whole ++ '.' :: fraction
        ∧ IsWhole whole
        ∧ (fraction ≠ [] ∧ ∀ c ∈ fraction, c.isDigit = true)
        ∧ ofParts whole fraction 0 = (led ds lead).shift (lead + 2 - ds.length).toNat := by
  have hlength : 0 < ds.length := by
    obtain ⟨c, cs, rfl, -⟩ := h.head
    exact Nat.succ_pos _
  have hplain {whole fraction : List Char} (hdigits : ofDigits (whole ++ fraction) = ofDigits ds)
      (hexponent : -(fraction.length : Int) = lead + 1 - ds.length)
      (hsmall : lead + 1 < ds.length)
      : ofParts whole fraction 0 = (led ds lead).shift (lead + 2 - ds.length).toNat := by
    rw [Int.toNat_of_nonpos (by omega), shift_zero, ofParts, led, hdigits, ← hexponent, zero_sub]
  by_cases hsign : lead < 0
  . obtain ⟨n, hn⟩ := Int.eq_ofNat_of_zero_le (show 0 ≤ -lead - 1 by omega)
    refine ⟨['0'], List.replicate n '0' ++ ds, ?_, .inl rfl,
      ⟨List.append_ne_nil_of_right_ne_nil _ (List.ne_nil_of_length_pos hlength), ?_⟩,
      hplain ?_ ?_ (by omega)⟩
    . simp [positional, hsign, hn]
    . intro c hc
      rcases List.mem_append.1 hc with hc | hc
      . exact isDigit_of_mem_replicate_zero hc
      . exact h.isDigit c hc
    . rw [← List.append_assoc, ofDigits_append]
      rw [show ['0'] ++ List.replicate n '0' = List.replicate (n + 1) '0' from rfl,
        ofDigits_replicate_zero, Nat.zero_mul, Nat.zero_add]
    . rw [List.length_append, List.length_replicate]
      omega
  . obtain ⟨n, rfl⟩ := Int.eq_ofNat_of_zero_le (show 0 ≤ lead by omega)
    by_cases hfits : ds.length ≤ n + 1
    . refine ⟨ds ++ List.replicate (n + 1 - ds.length) '0', ['0'], ?_,
        .inr (h.append_replicate_zero _), ⟨by simp, IsWhole.isDigit (.inl rfl)⟩, ?_⟩
      . simp [positional, hfits]
      . -- The zeros in front of the point and the one behind it are digits more.
        have hzeros : ((n : Int) + 2 - ds.length).toNat = n + 1 - ds.length + 1 := by omega
        rw [hzeros, ofParts, List.append_assoc, ← List.replicate_succ', ofDigits_append,
          ofDigits_replicate_zero, List.length_replicate, Nat.add_zero]
        simp only [shift, led, List.length_singleton, Decimal.mk.injEq, true_and]
        omega
    . refine ⟨ds.take (n + 1), ds.drop (n + 1), ?_, .inr (h.take n), ⟨?_, ?_⟩,
        hplain ?_ ?_ (by omega)⟩
      . simp [positional, hfits]
      . simp
        omega
      . intro c hc
        exact h.isDigit c (List.mem_of_mem_drop hc)
      . rw [List.take_append_drop]
      . rw [List.length_drop]
        omega

theorem scientific_eq {ds : List Char} (h : Leading ds) (lead : Int)
    : ∃ whole fraction, scientific ds lead true
          = whole ++ ((if fraction = [] then [] else '.' :: fraction)
            ++ 'e' :: (if lead < 0 then '-' else '+') :: Nat.toDigits 10 lead.natAbs)
        ∧ IsWhole whole
        ∧ (∀ c ∈ fraction, c.isDigit = true)
        ∧ ofParts whole fraction lead = led ds lead := by
  have htake := h.take 0
  have hisDigit := h.isDigit
  obtain ⟨c, cs, rfl, -⟩ := h.head
  refine ⟨[c], cs, ?_, .inr htake, fun d hd => hisDigit d (List.mem_cons_of_mem c hd), ?_⟩
  . cases cs <;> by_cases hsign : lead < 0 <;> simp [scientific, hsign]
  . have hexponent : lead - cs.length = lead + 1 - (c :: cs).length := by
      rw [List.length_cons]
      omega
    rw [ofParts, led, hexponent]
    rfl

/-- The first digit of a number that a double stands for is not far in front of the point. -/
theorem lead_lt {d : Decimal} (hne : d.digits ≠ 0) (h : d.toFloat.isFinite = true)
    : (significant d).2 < 1024 := by
  obtain ⟨hleading, hvalue⟩ := significant_of_digits_ne_zero hne
  have hbound := value_lt_of_isFinite h
  have hsize := hleading.le_ofDigits
  have hlength : 0 < (significant d).1.length := by
    obtain ⟨c, cs, heq, -⟩ := hleading.head
    rw [heq]
    exact Nat.succ_pos _
  generalize (significant d).1 = ds at hleading hvalue hsize hlength
  generalize (significant d).2 = lead at hvalue ⊢
  by_contra hge
  have hle : (10 : Rat) ^ (lead : Int) ≤ d.value := by
    have hcast : (10 : Rat) ^ (ds.length - 1) ≤ ofDigits ds := by exact_mod_cast hsize
    calc (10 : Rat) ^ lead
      _ = 10 ^ (ds.length - 1) * 10 ^ (lead + 1 - ds.length) := by
        rw [← zpow_natCast, ← zpow_add₀ (by norm_num)]
        congr 1
        omega
      _ ≤ ofDigits ds * 10 ^ (lead + 1 - ds.length) := by gcongr
      _ = d.value := hvalue.symm
  have hpower : (2 : Rat) ^ (1024 : Int) ≤ 10 ^ lead :=
    le_trans (zpow_le_zpow_right₀ one_le_two (by omega)) (two_zpow_le_ten_zpow (by omega))
  exact absurd hbound (not_lt.2 (le_trans hpower hle))

end LiveTopology.Decimal
