import LiveTopology.Command
import LiveTopology.Proofs.Decimal.Numeral
import LiveTopology.Proofs.Text.Runs

/-!
This module contains which modifier keys are held where some are named, and that a word that names
them is no number.
-/

namespace LiveTopology

inductive ModifierKey where
  | shift
  | ctrl
  | alt
  | command
  deriving DecidableEq, Repr

/-- What a key is called, in lower case. -/
def ModifierKey.names : ModifierKey → List String
  | shift => ["shift"]
  | ctrl => ["ctrl"]
  | alt => ["alt", "option"]
  | command => ["meta", "cmd"]

namespace Modifiers

def has (m : Modifiers) : ModifierKey → Bool
  | .shift => m.shift
  | .ctrl => m.ctrl
  | .alt => m.alt
  | .command => m.command

def hold (m : Modifiers) : ModifierKey → Modifiers
  | .shift => { m with shift := true }
  | .ctrl => { m with ctrl := true }
  | .alt => { m with alt := true }
  | .command => { m with command := true }

theorem has_hold_iff (m : Modifiers) (key other : ModifierKey)
    : (m.hold key).has other = true ↔ m.has other = true ∨ key = other := by
  cases key <;> cases other <;> simp [has, hold]

theorem ext_has {m m' : Modifiers} (h : ∀ key, m.has key = true ↔ m'.has key = true) : m = m' := by
  have hshift := h .shift
  have hctrl := h .ctrl
  have halt := h .alt
  have hcommand := h .command
  cases m
  cases m'
  simp_all [has]

end Modifiers

namespace Command

/-- Whether a key is called so, in whatever case. -/
def Names (name : String) (key : ModifierKey) : Prop :=
  lower name ∈ key.names

/-- Whether the words name nothing but keys, each by itself or several joined by plus signs. -/
def Named (words : List String) : Prop :=
  ∀ name ∈ words.flatMap modifierNames, ∃ key, Names name key

def Mentions (words : List String) (key : ModifierKey) : Prop :=
  ∃ name ∈ words.flatMap modifierNames, Names name key

/-- The keys that are held are those that are mentioned. -/
structure Held (words : List String) (m : Modifiers) : Prop where
  named : Named words
  has_iff : ∀ key, m.has key = true ↔ Mentions words key

theorem named_append (words words' : List String)
    : Named (words ++ words') ↔ Named words ∧ Named words' := by
  unfold Named
  rw [List.flatMap_append]
  exact List.forall_mem_append

theorem mentions_append (words words' : List String) (key : ModifierKey)
    : Mentions (words ++ words') key ↔ Mentions words key ∨ Mentions words' key := by
  unfold Mentions
  rw [List.flatMap_append]
  simp only [List.mem_append, or_and_right, exists_or]

/-- Of words that name the same keys, in whatever order and however they are joined, one is as good
as the other. -/
theorem Held.replace {words keys keys' : List String} {m : Modifiers} (h : Held (words ++ keys) m)
    (hnamed : Named keys') (hsame : ∀ key, Mentions keys key ↔ Mentions keys' key)
    : Held (words ++ keys') m where
  named := (named_append words keys').2 ⟨((named_append words keys).1 h.named).1, hnamed⟩
  has_iff := by
    intro key
    rw [h.has_iff, mentions_append, mentions_append, hsame]

theorem addModifier_of_names {name : String} {key : ModifierKey} (h : Names name key)
    (m : Modifiers)
    : addModifier m name = .ok (m.hold key) := by
  unfold Names at h
  unfold addModifier
  cases key with
  | shift =>
    have h : lower name = "shift" := by simpa [ModifierKey.names] using h
    rw [h]
    rfl
  | ctrl =>
    have h : lower name = "ctrl" := by simpa [ModifierKey.names] using h
    rw [h]
    rfl
  | alt =>
    have h : lower name = "alt" ∨ lower name = "option" := by simpa [ModifierKey.names] using h
    rcases h with h | h
    . rw [h]
      rfl
    . rw [h]
      rfl
  | command =>
    have h : lower name = "meta" ∨ lower name = "cmd" := by simpa [ModifierKey.names] using h
    rcases h with h | h
    . rw [h]
      rfl
    . rw [h]
      rfl

theorem names_of_addModifier {name : String} {m m' : Modifiers}
    (h : addModifier m name = .ok m')
    : ∃ key, Names name key := by
  unfold addModifier at h
  split at h
  . next heq => exact ⟨.alt, by simp [Names, ModifierKey.names, heq]⟩
  . next heq => exact ⟨.alt, by simp [Names, ModifierKey.names, heq]⟩
  . next heq => exact ⟨.command, by simp [Names, ModifierKey.names, heq]⟩
  . next heq => exact ⟨.command, by simp [Names, ModifierKey.names, heq]⟩
  . next heq => exact ⟨.ctrl, by simp [Names, ModifierKey.names, heq]⟩
  . next heq => exact ⟨.shift, by simp [Names, ModifierKey.names, heq]⟩
  . contradiction

theorem names_unique {name : String} {key other : ModifierKey} (h : Names name key)
    (hother : Names name other)
    : key = other := by
  have heq : Modifiers.none.hold key = Modifiers.none.hold other :=
    Except.ok.inj ((addModifier_of_names h .none).symm.trans (addModifier_of_names hother .none))
  revert heq
  cases key <;> cases other <;> decide

theorem foldlM_addModifier_eq_ok_iff (names : List String) (m m' : Modifiers)
    : names.foldlM addModifier m = .ok m'
        ↔ (∀ name ∈ names, ∃ key, Names name key)
          ∧ ∀ key, m'.has key = true ↔ m.has key = true ∨ ∃ name ∈ names, Names name key := by
  induction names generalizing m with
  | nil =>
    have hext : m = m' ↔ ∀ key, m'.has key = true ↔ m.has key = true := by
      constructor
      . rintro rfl
        simp
      . exact fun h => Modifiers.ext_has fun key => (h key).symm
    simpa [pure, Except.pure] using hext
  | cons name names ih =>
    rw [List.foldlM_cons]
    cases hadd : addModifier m name with
    | error e =>
      constructor
      . intro h
        contradiction
      . rintro ⟨hnamed, -⟩
        obtain ⟨key, hkey⟩ := hnamed name List.mem_cons_self
        rw [addModifier_of_names hkey] at hadd
        contradiction
    | ok next =>
      obtain ⟨key, hkey⟩ := names_of_addModifier hadd
      obtain rfl := Except.ok.inj ((addModifier_of_names hkey m).symm.trans hadd)
      have hnames (other : ModifierKey) : Names name other ↔ key = other :=
        ⟨names_unique hkey, fun heq => heq ▸ hkey⟩
      show names.foldlM addModifier (m.hold key) = .ok m' ↔ _
      rw [ih]
      simp [Modifiers.has_hold_iff, hnames, or_assoc]

theorem modifiers_eq_ok_iff (words : List String) (m : Modifiers)
    : modifiers words = .ok m ↔ Held words m := by
  have hnone (key : ModifierKey) : Modifiers.none.has key = false := by
    cases key <;> rfl
  unfold modifiers
  rw [foldlM_addModifier_eq_ok_iff]
  constructor
  . rintro ⟨hnamed, hhas⟩
    exact ⟨hnamed, fun key => by simpa [hnone, Mentions] using hhas key⟩
  . rintro ⟨hnamed, hhas⟩
    exact ⟨hnamed, fun key => by simpa [hnone, Mentions] using hhas key⟩

theorem cut_modifierNames (word : String)
    : Text.Cut (· == '+') word.toList ((modifierNames word).map String.toList) := by
  rw [Text.cut_map_toList_iff]
  rfl

theorem lower_ofList (cs : List Char) : lower (.ofList cs) = .ofList (cs.map Char.toLower) := by
  unfold lower
  rw [String.toList_ofList]

theorem toLower_of_isDigit {c : Char} (h : c.isDigit = true) : c.toLower = c := by
  unfold Char.isDigit at h
  unfold Char.toLower
  rw [Bool.and_eq_true, decide_eq_true_iff, decide_eq_true_iff] at h
  split
  . next hupper =>
    have hdigit := UInt32.le_iff_toNat_le.1 h.2
    have hletter := UInt32.le_iff_toNat_le.1 hupper.1
    simp at hdigit hletter
    omega
  . rfl

/-- The names of keys are of letters only, as far as this matters for numbers. -/
theorem ne_of_names {name : String} {key : ModifierKey} (h : Names name key) {c : Char}
    (hc : c ∈ name.toList)
    : c.isDigit = false ∧ c ≠ '-' := by
  have hletters : ∀ name ∈ key.names, name.toList.all (fun c => !c.isDigit && c != '-') := by
    cases key <;> decide
  have hlower : c.toLower ∈ (lower name).toList := by
    unfold lower
    rw [String.toList_ofList]
    exact List.mem_map_of_mem hc
  have hletter := List.all_eq_true.1 (hletters (lower name) h) c.toLower hlower
  rw [Bool.and_eq_true, Bool.not_eq_true', bne_iff_ne] at hletter
  obtain ⟨hdigit, hminus⟩ := hletter
  constructor
  . rw [← Bool.not_eq_true]
    intro hc
    rw [toLower_of_isDigit hc, hc] at hdigit
    contradiction
  . rintro rfl
    exact hminus rfl

theorem not_names_of_mem {name : String} (h : lower name ∈ Decimal.digitless)
    (key : ModifierKey)
    : ¬ Names name key := by
  have hother : ∀ name ∈ Decimal.digitless, name ∉ key.names := by
    cases key <;> decide
  exact hother (lower name) h

/-- The words that are numbers without a digit are not cut at plus signs. -/
theorem cut_of_lower_mem {cs : List Char}
    (h : lower (.ofList cs) ∈ Decimal.digitless)
    : Text.Cut (· == '+') cs [cs] := by
  rw [lower_ofList] at h
  apply Text.Cut.single
  . rintro rfl
    revert h
    decide
  . intro c hc
    have hall : ∀ text ∈ Decimal.digitless, '+' ∉ text.toList := by decide
    rw [beq_eq_false_iff_ne]
    rintro rfl
    apply hall _ h
    rw [String.toList_ofList]
    exact List.mem_map_of_mem hc

section Named

variable {word : String}

theorem names_of_named (h : Named [word]) {name : String} (hname : name ∈ modifierNames word)
    : ∃ key, Names name key := by
  apply h name
  rwa [List.flatMap_singleton]

theorem ne_of_named (h : Named [word]) {c : Char} (hc : c ∈ word.toList) (hplus : c ≠ '+')
    : c.isDigit = false ∧ c ≠ '-' := by
  obtain ⟨cs, hcs, hmem⟩ := (cut_modifierNames word).exists_of_mem hc (by simpa using hplus)
  obtain ⟨name, hname, rfl⟩ := List.mem_map.1 hcs
  obtain ⟨key, hkey⟩ := names_of_named h hname
  exact ne_of_names hkey hmem

theorem not_cut_of_named (h : Named [word]) {cs : List Char}
    (hother : lower (.ofList cs) ∈ Decimal.digitless)
    : ¬ Text.Cut (· == '+') word.toList [cs] := by
  intro hcut
  have hname : String.ofList cs ∈ modifierNames word := by
    unfold modifierNames
    rw [hcut.eq_runs]
    simp
  obtain ⟨key, hkey⟩ := names_of_named h hname
  exact not_names_of_mem hother key hkey

/-- No word can be taken for a number as well as for names of keys. -/
theorem parseFloat?_of_named (h : Named [word]) : Decimal.parseFloat? word = none := by
  rw [Option.eq_none_iff_forall_ne_some]
  intro x hparse
  rcases Decimal.spelling_of_parseFloat? hparse with ⟨c, hc, hdigit⟩ | hother
  . have hplus : c ≠ '+' := by
      rintro rfl
      contradiction
    rw [(ne_of_named h hc hplus).1] at hdigit
    contradiction
  . rw [← lower_ofList] at hother
    generalize hsign : (Decimal.takeSign word.toList).2 = cs at hother
    have hsingle : Text.Cut (· == '+') cs [cs] := cut_of_lower_mem hother
    rcases Decimal.takeSign_cases word.toList with heq | heq | heq
    . apply not_cut_of_named h hother
      rw [heq, hsign]
      exact hsingle
    . apply not_cut_of_named h hother
      rw [heq, hsign]
      exact .gap rfl hsingle
    . have hmem : '-' ∈ word.toList := by
        rw [heq]
        exact List.mem_cons_self
      exact (ne_of_named h hmem (by decide)).2 rfl

end Named

end Command

end LiveTopology
