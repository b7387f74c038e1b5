import LiveTopology.Json.Reader

/-!
This module contains that a string is read from its text, whatever characters it holds.
-/

namespace LiveTopology.Json.Read

theorem string_of_escape {cs rest : List Char} {c : Char} (h : escape cs = .ok (c, rest))
    : string ('\\' :: cs) = (string rest).map fun (ds, rest) => (c :: ds, rest) := by
  rw [string]
  split
  . next fault heq =>
    rw [h] at heq
    contradiction
  . next c' rest' heq =>
    rw [h] at heq
    injection heq with heq
    injection heq with hchar hrest
    subst hchar hrest
    rfl

theorem string_of_plain {c : Char} (hquote : c ≠ '"') (hslash : c ≠ '\\')
    (hcontrol : ¬ c.toNat < 0x20) (cs : List Char)
    : string (c :: cs) = (string cs).map fun (ds, rest) => (c :: ds, rest) := by
  rw [string]
  . rw [if_neg hcontrol]
  . exact hquote
  . exact hslash

theorem hexDigit?_digitChar {n : Nat} (h : n < 16) : hexDigit? (Nat.digitChar n) = some n := by
  revert n
  decide

theorem unit_control {n : Nat} (h : n < 0x20) (cs : List Char)
    : unit ('0' :: '0' :: Nat.digitChar (n / 16) :: Nat.digitChar (n % 16) :: cs)
        =
      .ok (n, cs) := by
  have hzero : hexDigit? '0' = some 0 := rfl
  have hvalue : ((0 * 16 + 0) * 16 + n / 16) * 16 + n % 16 = n := by omega
  simp only [unit, hzero, hexDigit?_digitChar (show n / 16 < 16 by omega),
    hexDigit?_digitChar (show n % 16 < 16 by omega), hvalue]

theorem escape_control {n : Nat} (h : n < 0x20) (cs : List Char)
    : escape ('u' :: '0' :: '0' :: Nat.digitChar (n / 16) :: Nat.digitChar (n % 16) :: cs)
        =
      .ok (Char.ofNat n, cs) := by
  have htrailing : isTrailing n = false := by simp [isTrailing]; omega
  have hleading : isLeading n = false := by simp [isLeading]; omega
  simp only [escape, unit_control h, bind, Except.bind, htrailing, hleading, Bool.false_eq_true,
    if_false]

theorem string_printChar (c : Char) (cs : List Char)
    : string (printChar c ++ cs) = (string cs).map fun (ds, rest) => (c :: ds, rest) := by
  unfold printChar
  split
  case h_8 hquote hslash _ _ _ _ _ =>
    split
    . next hcontrol =>
      apply string_of_escape
      have := escape_control hcontrol cs
      rwa [Char.ofNat_toNat] at this
    . next hcontrol => exact string_of_plain hquote hslash hcontrol cs
  all_goals exact string_of_escape rfl

theorem string_flatMap (s rest : List Char)
    : string (s.flatMap printChar ++ '"' :: rest) = .ok (s, rest) := by
  induction s with
  | nil => simp [string]
  | cons c s ih => rw [List.flatMap_cons, List.append_assoc, string_printChar, ih]; rfl

theorem name_printString (s : String) (rest : List Char)
    : ∃ cs, printString s ++ rest = '"' :: cs ∧ name cs = .ok (s, rest) := by
  refine ⟨s.toList.flatMap printChar ++ '"' :: rest, by simp [printString], ?_⟩
  unfold name
  rw [string_flatMap]
  show Except.ok (String.ofList s.toList, rest) = _
  rw [String.ofList_toList]

end LiveTopology.Json.Read
