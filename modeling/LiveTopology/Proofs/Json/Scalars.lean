import LiveTopology.Proofs.Json.RoundTrip
import LiveTopology.Proofs.Json.Spelling

/-!
This module contains that strings and numbers are read, and passed over, in every way in which they
can be written. It also contains that they are not read if they stand for nothing.
-/

namespace LiveTopology.Json.Read

open Decimal Spelling

/-!
Which fault ends a reading is of no interest here, so that results are compared as options.
-/

section ToOption

variable {ε α β : Type}

theorem ok_bind (a : α) (f : α → Except ε β) : (Except.ok a >>= f) = f a :=
  rfl

@[simp]
theorem toOption_ok (a : α) : (Except.ok a : Except ε α).toOption = some a :=
  rfl

@[simp]
theorem toOption_error (e : ε) : (Except.error e : Except ε α).toOption = none :=
  rfl

@[simp]
theorem toOption_bind (x : Except ε α) (f : α → Except ε β)
    : (x >>= f).toOption = x.toOption.bind fun a => (f a).toOption := by
  cases x <;> rfl

@[simp]
theorem toOption_map (x : Except ε α) (f : α → β) : (x.map f).toOption = x.toOption.map f := by
  cases x <;> rfl

theorem exists_error_of_toOption {x : Except ε α} (h : x.toOption = none) : ∃ e, x = .error e := by
  cases x with
  | ok a => contradiction
  | error e => exact ⟨e, rfl⟩

end ToOption

/--
Whatever follows a text, as long as it does not go on with a number, `a?` is read from the text, or
the reader fails if there is no such value.
-/
def Reads {α : Type} (reader : Reader α) (text : List Char) (a? : Option α) : Prop :=
  ∀ rest, Stops rest → (reader (text ++ rest)).toOption = a?.map (·, rest)

/-- A reader that does not care for blanks in front. -/
def Skips {α : Type} (reader : Reader α) : Prop :=
  ∀ cs, reader (blanks cs) = reader cs

theorem blanks_append (b : Blanks) (cs : List Char) : blanks (b.text ++ cs) = blanks cs := by
  unfold blanks
  rw [List.dropWhile_append_of_pos b.isBlank]

theorem blanks_blanks (cs : List Char) : blanks (blanks cs) = blanks cs := by
  unfold blanks
  induction cs with
  | nil => rfl
  | cons c cs ih =>
    cases hc : isBlank c with
    | true => rw [List.dropWhile_cons_of_pos hc, ih]
    | false => simp [hc]

theorem Opens.blanks {cs : List Char} (h : Opens cs) : blanks cs = cs := by
  obtain ⟨c, cs', rfl, hblank, -⟩ := h
  exact blanks_cons hblank cs'

theorem Skips.append {α : Type} {reader : Reader α} (h : Skips reader) (b : Blanks)
    (cs : List Char) : reader (b.text ++ cs) = reader cs := by
  rw [← h, blanks_append, h]

theorem stops_append (b : Blanks) {rest : List Char} (h : Stops rest) : Stops (b.text ++ rest) := by
  obtain ⟨cs, hblank⟩ := b
  cases cs with
  | nil => exact h
  | cons c cs =>
    apply stops_cons
    have hc := hblank c List.mem_cons_self
    have hc : c = ' ' ∨ c = '\n' ∨ c = '\t' ∨ c = '\r' := by simpa [isBlank, or_assoc] using hc
    rcases hc with rfl | rfl | rfl | rfl <;> decide

section Strings

theorem hexDigit?_char (d : HexDigit) : hexDigit? d.char = some d.value := by
  obtain ⟨value, capital⟩ := d
  revert value capital
  decide

theorem unit_text (u : CodeUnit) (cs : List Char) : unit (u.text ++ cs) = .ok (u.value, cs) := by
  simp only [CodeUnit.text, List.cons_append, List.nil_append, unit, hexDigit?_char]
  rfl

theorem escape_unit (u : CodeUnit) (cs : List Char)
    : escape ('u' :: (u.text ++ cs))
        =
      if isTrailing u.value then .error (.here .loneSurrogate cs)
      else if isLeading u.value then trailing u.value cs
      else .ok (.ofNat u.value, cs) := by
  unfold escape
  simp only [unit_text]
  rfl

theorem string_backslash (cs : List Char)
    : (string ('\\' :: cs)).toOption
        =
      (escape cs).toOption.bind fun p =>
        (string p.2).toOption.map fun q => (p.1 :: q.1, q.2) := by
  cases h : escape cs with
  | ok p =>
    rw [string_of_escape h, toOption_map]
    rfl
  | error e =>
    rw [string]
    split
    . rfl
    . next heq =>
      rw [h] at heq
      contradiction

theorem trailing_unit (u v : CodeUnit) (cs : List Char)
    : (trailing u.value ('\\' :: 'u' :: (v.text ++ cs))).toOption
        =
      if isTrailing v.value then some (u.pair v, cs) else none := by
  simp only [trailing, unit_text]
  show (if isTrailing v.value = true then _ else _ : Except Fault (Char × List Char)).toOption = _
  split <;> rfl

/-- The first half of a character is refused if no other unit comes right behind it. -/
theorem trailing_pieces (u : CodeUnit) {ps : List Piece} (hps : ∀ v ps', ps ≠ .unit v :: ps')
    (rest : List Char)
    : (trailing u.value (ps.flatMap Piece.text ++ '"' :: rest)).toOption = none := by
  cases ps with
  | nil => rfl
  | cons piece ps =>
    cases piece with
    | plain c control quote backslash =>
      show (trailing u.value (c :: _)).toOption = none
      unfold trailing
      split <;> simp_all
    | escaped e => cases e <;> rfl
    | unit v => exact absurd rfl (hps v ps)

theorem pieces_unit (u : CodeUnit) (ps : List Piece) (cs : List Char)
    : (Piece.unit u :: ps).flatMap Piece.text ++ cs
        =
      '\\' :: 'u' :: (u.text ++ (ps.flatMap Piece.text ++ cs)) := by
  simp [Piece.text]

theorem string_unit (u : CodeUnit) (cs : List Char)
    : (string ('\\' :: 'u' :: (u.text ++ cs))).toOption
        =
      (if isTrailing u.value then none
        else if isLeading u.value then (trailing u.value cs).toOption
        else some (.ofNat u.value, cs)).bind fun p =>
          (string p.2).toOption.map fun q => (p.1 :: q.1, q.2) := by
  rw [string_backslash, escape_unit]
  split
  . rfl
  . split <;> rfl

/-- A string is read as the characters that it stands for, or refused if half of one stands alone. -/
theorem string_pieces (ps : List Piece) (rest : List Char)
    : (string (ps.flatMap Piece.text ++ '"' :: rest)).toOption = (Piece.decode ps).map (·, rest) := by
  fun_induction Piece.decode ps with
  | case1 => simp [string]
  | case2 c control quote backslash ps ih =>
    show (string (c :: (ps.flatMap Piece.text ++ '"' :: rest))).toOption = _
    rw [string_of_plain quote backslash (by omega), toOption_map, ih]
    cases Piece.decode ps <;> rfl
  | case3 e ps ih =>
    have hescape : escape (e.letter :: (ps.flatMap Piece.text ++ '"' :: rest))
        = .ok (e.char, ps.flatMap Piece.text ++ '"' :: rest) := by
      cases e <;> rfl
    show (string ('\\' :: e.letter :: (ps.flatMap Piece.text ++ '"' :: rest))).toOption = _
    rw [string_of_escape hescape, toOption_map, ih]
    cases Piece.decode ps <;> rfl
  -- A unit is the second half of a character, the first one with or without a second, or all of it.
  | case4 u ps htrailing =>
    rw [pieces_unit, string_unit, if_pos htrailing]
    rfl
  | case5 u htrailing hleading v ps hv ih =>
    rw [pieces_unit, pieces_unit, string_unit, if_neg htrailing, if_pos hleading, trailing_unit,
      if_pos hv, Option.bind_some, ih]
    simp [Function.comp_def]
  | case6 u htrailing hleading v ps hv =>
    rw [pieces_unit, pieces_unit, string_unit, if_neg htrailing, if_pos hleading, trailing_unit,
      if_neg hv]
    rfl
  | case7 u ps htrailing hleading hps =>
    rw [pieces_unit, string_unit, if_neg htrailing, if_pos hleading, trailing_pieces u hps]
    rfl
  | case8 u ps htrailing hleading ih =>
    rw [pieces_unit, string_unit, if_neg htrailing, if_neg hleading, Option.bind_some, ih]
    cases Piece.decode ps <;> rfl

theorem name_pieces (ps : List Piece) (rest : List Char)
    : (name (ps.flatMap Piece.text ++ '"' :: rest)).toOption = (Piece.string? ps).map (·, rest) := by
  unfold name
  rw [toOption_bind, string_pieces]
  unfold Piece.string?
  cases Piece.decode ps <;> rfl

/-- A string is passed over whether its halves of characters are paired or not. -/
theorem skipString_pieces (ps : List Piece) (rest : List Char)
    : skipString (ps.flatMap Piece.text ++ '"' :: rest) = .ok ((), rest) := by
  induction ps with
  | nil => simp [skipString]
  | cons piece ps ih =>
    cases piece with
    | plain c control quote backslash =>
      show skipString (c :: (ps.flatMap Piece.text ++ '"' :: rest)) = _
      rw [skipString]
      . rw [if_neg (by omega), ih]
      . exact quote
      . simp [backslash]
      . simp [backslash]
      . simp [backslash]
    | escaped e =>
      have hletter : e.letter ≠ 'u' ∧ e.letter ∈ ['"', '\\', '/', 'b', 'f', 'n', 'r', 't'] := by
        cases e <;> decide
      show skipString ('\\' :: e.letter :: (ps.flatMap Piece.text ++ '"' :: rest)) = _
      rw [skipString, if_pos hletter.2, ih]
      exact hletter.1
    | unit u =>
      rw [pieces_unit, skipString]
      split
      . next heq =>
        rw [unit_text] at heq
        contradiction
      . next heq =>
        rw [unit_text] at heq
        injection heq with heq
        injection heq with hvalue hrest
        rw [← hrest, ih]

end Strings

section Numbers

theorem takeSign_text (sign : Sign) (ds : Digits) (rest : List Char)
    : takeSign (sign.text ++ (ds.text ++ rest)) = (decide (sign = .minus), ds.text ++ rest) := by
  cases sign with
  | none =>
    obtain ⟨text, hdigits, hne⟩ := ds
    cases text with
    | nil => exact absurd rfl hne
    | cons c cs =>
      have hc := hdigits c List.mem_cons_self
      have hminus : c ≠ '-' := ne_of_isDigit hc rfl
      have hplus : c ≠ '+' := ne_of_isDigit hc rfl
      simp [Sign.text, takeSign, hminus, hplus]
  | plus => simp [Sign.text, takeSign]
  | minus => simp [Sign.text, takeSign]

variable {e? : Option Exponent} {rest : List Char}

theorem startsWithDigit_exponent (e? : Option Exponent) (hrest : Stops rest)
    : number.startsWithDigit (e?.elim [] Exponent.text ++ rest) = false := by
  cases e? with
  | none => exact hrest.startsWithDigit
  | some e =>
    obtain ⟨capital, sign, ds⟩ := e
    cases capital <;> rfl

theorem exponent_ne_point (hrest : Stops rest) (cs : List Char)
    : e?.elim [] Exponent.text ++ rest ≠ '.' :: cs := by
  cases e? with
  | none => exact fun heq => (hrest _ _ heq).2.1 rfl
  | some e =>
    obtain ⟨capital, sign, ds⟩ := e
    cases capital <;> simp [Exponent.text]

theorem startsWithDigit_digits (ds : Digits) (rest : List Char)
    : number.startsWithDigit (ds.text ++ rest) = true := by
  obtain ⟨text, hdigits, hne⟩ := ds
  cases text with
  | nil => exact absurd rfl hne
  | cons c cs => exact hdigits c List.mem_cons_self

theorem finish_numeral (n : Read.Numeral) (rest : List Char)
    : (number.finish n rest).toOption = (inRange? n.value).map (·, rest) := by
  unfold number.finish
  split
  . next heq =>
    rw [heq]
    rfl
  . next heq =>
    rw [heq, inRange?]
    split <;> rfl

theorem exponent_text (negative : Bool) (whole fraction : List Char) (hrest : Stops rest)
    : (number.exponent negative whole fraction (e?.elim [] Exponent.text ++ rest)).toOption
        =
      if e?.any Exponent.isExcessive && ofDigits (whole ++ fraction) != 0 then none
      else (inRange? (Numeral.value ⟨negative, whole, fraction, e?.map Exponent.value⟩)).map
        (·, rest) := by
  cases e? with
  | none =>
    show (number.exponent negative whole fraction rest).toOption = _
    rw [exponent_none _ hrest, finish_numeral]
    rfl
  | some e =>
    obtain ⟨capital, sign, ds⟩ := e
    obtain ⟨htake, hdrop⟩ := span_digits ds.isDigit hrest.startsWithDigit
    have hletter : ((if capital then 'E' else 'e') == 'e'
        || (if capital then 'E' else 'e') == 'E') = true := by
      cases capital <;> rfl
    show (number.exponent negative whole fraction
      ((if capital then 'E' else 'e') :: (sign.text ++ ds.text ++ rest))).toOption = _
    unfold number.exponent
    simp only [hletter, if_true, List.append_assoc, takeSign_text, htake, hdrop]
    cases hds : ds.text with
    | nil => exact absurd hds ds.ne_nil
    | cons c cs =>
      simp only [← hds]
      show _ = if ((decide (greatestExponent < ofDigits ds.text) && !decide (sign = .minus))
          && ofDigits (whole ++ fraction) != 0) = true then none else _
      split
      . rfl
      . rw [finish_numeral]
        simp [Exponent.value]

/-- A number is read as far as it is written, or refused if it is out of range. -/
theorem number_size (n : Spelling.Numeral) {rest : List Char} (hrest : Stops rest)
    : (number n.negative (n.size ++ rest)).toOption = n.value?.map (·, rest) := by
  obtain ⟨negative, whole, hwhole, fraction, exponent⟩ := n
  have hdigit := startsWithDigit_exponent exponent hrest
  have hnumber : (number negative (whole ++ (fraction.elim [] (fun ds => '.' :: ds.text)
        ++ (exponent.elim [] Exponent.text ++ rest)))).toOption
      = (number.exponent negative whole (fraction.elim [] Digits.text)
        (exponent.elim [] Exponent.text ++ rest)).toOption := by
    cases fraction with
    | none =>
      show (number negative (whole ++ (exponent.elim [] Exponent.text ++ rest))).toOption = _
      rw [number_whole _ hwhole hdigit, fraction_none _ (exponent_ne_point hrest)]
      rfl
    | some ds =>
      show (number negative (whole ++ '.' :: (ds.text
        ++ (exponent.elim [] Exponent.text ++ rest)))).toOption = _
      rw [number_whole _ hwhole rfl, fraction_point _ ds.ne_nil ds.isDigit hdigit]
      rfl
  simp only [Numeral.size, List.append_assoc]
  rw [hnumber, exponent_text _ _ _ hrest]
  unfold Numeral.value?
  rw [apply_ite (Option.map (·, rest))]
  rfl

theorem skipNumber_whole {whole rest : List Char} (hwhole : IsWhole whole)
    (hrest : number.startsWithDigit rest = false)
    : skipNumber (whole ++ rest) = skipNumber.fraction rest := by
  rcases hwhole with rfl | hleading
  . simp [skipNumber, hrest]
  . obtain ⟨-, hdrop⟩ := span_digits hleading.isDigit hrest
    have hisDigit := hleading.isDigit
    obtain ⟨c, cs, rfl, hc⟩ := hleading.head
    have hdigit := hisDigit c List.mem_cons_self
    unfold skipNumber
    split
    . contradiction
    . next heq =>
      injection heq with hhead
      exact absurd hhead hc
    . next heq =>
      injection heq with hhead
      rw [← hhead, if_pos hdigit, hdrop]

theorem skipNumber_exponent (hrest : Stops rest)
    : skipNumber.exponent (e?.elim [] Exponent.text ++ rest) = .ok ((), rest) := by
  cases e? with
  | none =>
    cases rest with
    | nil => rfl
    | cons c cs =>
      obtain ⟨-, -, he, hE⟩ := hrest c cs rfl
      simp [skipNumber.exponent, he, hE]
  | some e =>
    obtain ⟨capital, sign, ds⟩ := e
    obtain ⟨-, hdrop⟩ := span_digits ds.isDigit hrest.startsWithDigit
    have hletter : ((if capital then 'E' else 'e') == 'e'
        || (if capital then 'E' else 'e') == 'E') = true := by
      cases capital <;> rfl
    show skipNumber.exponent
      ((if capital then 'E' else 'e') :: (sign.text ++ ds.text ++ rest)) = _
    unfold skipNumber.exponent
    simp only [hletter, if_true, List.append_assoc, takeSign_text, startsWithDigit_digits, hdrop]

theorem skipNumber_size (n : Spelling.Numeral) {rest : List Char} (hrest : Stops rest)
    : skipNumber (n.size ++ rest) = .ok ((), rest) := by
  obtain ⟨negative, whole, hwhole, fraction, exponent⟩ := n
  have hdigit := startsWithDigit_exponent exponent hrest
  simp only [Numeral.size, List.append_assoc]
  cases fraction with
  | none =>
    show skipNumber (whole ++ (exponent.elim [] Exponent.text ++ rest)) = _
    rw [skipNumber_whole hwhole hdigit, skipNumber.fraction, skipNumber_exponent hrest]
    exact exponent_ne_point hrest
  | some ds =>
    show skipNumber (whole ++ '.' :: (ds.text ++ (exponent.elim [] Exponent.text ++ rest))) = _
    obtain ⟨-, hdrop⟩ := span_digits ds.isDigit hdigit
    rw [skipNumber_whole hwhole rfl, skipNumber.fraction, if_pos (startsWithDigit_digits ds _),
      hdrop, skipNumber_exponent hrest]

end Numbers

end LiveTopology.Json.Read
