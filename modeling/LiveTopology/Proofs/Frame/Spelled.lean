import LiveTopology.Proofs.Frame.Fields
import LiveTopology.Proofs.Json.Numeral

/-!
This module contains which texts a frame is read from: it does not matter how and in which order the
members of the object are written, nor what other members it has.
-/

namespace LiveTopology

open Json Json.Read Json.Spelling

namespace Frame

theorem proper_of_value? {s : Spelling} {v : Json} (h : s.value? = some v) : v.Proper := by
  have hread := value_text s s.depth [] stops_nil
  rw [within, if_pos (Nat.le_refl _), h] at hread
  exact (proper_of_value (eq_ok_of_toOption hread)).1

theorem tag?_eq_some {s : Spelling} {event : String}
    : tag? s = some event ↔ s.value? = some (.string event) := by
  unfold tag?
  rw [Option.bind_eq_some_iff]
  constructor
  . rintro ⟨v, hv, hstring⟩
    cases v <;> simp_all [Json.string?]
  . exact fun h => ⟨_, h, rfl⟩

theorem word?_eq_some {v : Json} (hv : v.Proper) {n : UInt64}
    : word? v = some n ↔ v = .number (.int n.toNat) := by
  cases v with
  | number m =>
    cases m with
    | int i =>
      obtain ⟨-, hlt⟩ : -(2 ^ 63) ≤ i ∧ i < 2 ^ 64 := hv
      have hn := n.toNat_lt
      have hword : UInt64.ofNat i.toNat = n ↔ i.toNat = n.toNat := by
        rw [← UInt64.toNat_inj, UInt64.toNat_ofNat', Nat.mod_eq_of_lt (by omega)]
      simp only [word?, Json.number.injEq, Number.int.injEq]
      split
      . rw [Option.some_inj, hword]
        omega
      . simp only [reduceCtorEq, false_iff]
        omega
    | float x => simp [word?]
  | _ => simp [word?]

/-- The value that stands for the number of a frame, or for none. -/
def sidValue (sid : Option UInt64) : Json :=
  sid.elim .null fun n => .number (.int n.toNat)

theorem sid?_eq_some {s : Spelling} {sid : Option UInt64}
    : sid? s = some sid ↔ s.value? = some (sidValue sid) := by
  unfold sid?
  rw [Option.bind_eq_some_iff]
  constructor
  . rintro ⟨v, hv, h⟩
    split at h
    . next hnull =>
      rw [hv, hnull, ← Option.some.inj h]
      rfl
    . obtain ⟨n, hn, rfl⟩ := Option.map_eq_some_iff.1 h
      rw [hv, (word?_eq_some (proper_of_value? hv)).1 hn]
      rfl
  . intro h
    refine ⟨_, h, ?_⟩
    cases sid with
    | none => rfl
    | some n =>
      have hne : sidValue (some n) ≠ .null := by simp [sidValue]
      rw [if_neg hne, (word?_eq_some (proper_of_value? h)).2 rfl]
      rfl

theorem within_eq_some {s : Spelling} {v : Json}
    : s.within (nesting - 1) = some v ↔ s.depth < nesting ∧ s.value? = some v := by
  have hle : s.depth ≤ nesting - 1 ↔ s.depth < nesting := Nat.le_sub_one_iff_lt (by decide)
  unfold within
  rw [Option.ite_none_right_eq_some, hle]

theorem completed?_eq (draft : Draft)
    : record.completed? draft = if draft.event.isSome then some draft else none := by
  obtain ⟨event, sid, payload⟩ := draft
  cases event <;> rfl

theorem settle_getD {α : Type} {read : Spelling → Option α} {ss : List Spelling} {default v : α}
    : (∃ given, settle read none ss = some given ∧ given.getD default = v)
        ↔
      ss = [] ∧ v = default ∨ ∃ s, ss = [s] ∧ read s = some v := by
  constructor
  . rintro ⟨given, hsettle, rfl⟩
    rcases settle_none.1 hsettle with ⟨hss, rfl⟩ | ⟨s, v, hss, hread, rfl⟩
    . exact .inl ⟨hss, rfl⟩
    . exact .inr ⟨s, hss, hread⟩
  . rintro (⟨hss, rfl⟩ | ⟨s, hss, hread⟩)
    . exact ⟨none, settle_none.2 (.inl ⟨hss, rfl⟩), rfl⟩
    . exact ⟨some v, settle_none.2 (.inr ⟨s, v, hss, hread, rfl⟩), rfl⟩

/--
The names of all members are texts. One of the members gives the tag, and at most one the number and
at most one the payload.
-/
structure Spells (ms : List Member) (frame : Frame) : Prop where
  names : ∀ m ∈ ms, m.name? ≠ none
  event : ∃ s, named ["type", "event"] ms = [s] ∧ s.value? = some (.string frame.event)
  sid : named ["sid"] ms = [] ∧ frame.sid = none
    ∨ ∃ s, named ["sid"] ms = [s] ∧ s.value? = some (sidValue frame.sid)
  payload : named ["payload"] ms = [] ∧ frame.payload = .empty
    ∨ ∃ s, named ["payload"] ms = [s] ∧ s.depth < nesting ∧ s.value? = some frame.payload

/-- It does not matter in which order the members stand. -/
theorem Spells.perm {ms ms' : List Member} (h : ms.Perm ms') {frame : Frame}
    (hspells : Spells ms frame) : Spells ms' frame := by
  have hperm (names : List String) : (named names ms).Perm (named names ms') :=
    (h.filter _).map _
  have hnil {names : List String} (heq : named names ms = []) : named names ms' = [] :=
    List.nil_perm.1 (heq ▸ hperm names)
  have hone {names : List String} {s : Spelling} (heq : named names ms = [s])
      : named names ms' = [s] :=
    (List.singleton_perm.1 (heq ▸ hperm names)).symm
  obtain ⟨hnames, ⟨s, hs, htag⟩, hsid, hpayload⟩ := hspells
  refine ⟨fun m hm => hnames m (h.mem_iff.2 hm), ⟨s, hone hs, htag⟩, ?_, ?_⟩
  . rcases hsid with ⟨heq, hnone⟩ | ⟨s, hs, hvalue⟩
    . exact .inl ⟨hnil heq, hnone⟩
    . exact .inr ⟨s, hone hs, hvalue⟩
  . rcases hpayload with ⟨heq, hempty⟩ | ⟨s, hs, hvalue⟩
    . exact .inl ⟨hnil heq, hempty⟩
    . exact .inr ⟨s, hone hs, hvalue⟩

/-- What the members leave in a draft, if each of them is taken and there is a tag. -/
def draft? (ms : List Member) : Option Draft :=
  (ms.foldlM (record.take? take) record.start).bind record.completed?

theorem draft?_eq_some {ms : List Member} {draft : Draft}
    : draft? ms = some draft
        ↔
      ms.foldlM (record.take? take) record.start = some draft ∧ draft.event.isSome := by
  unfold draft?
  rw [Option.bind_eq_some_iff]
  constructor
  . rintro ⟨draft', hfold, h⟩
    rw [completed?_eq, Option.ite_none_right_eq_some, Option.some_inj] at h
    obtain ⟨hevent, rfl⟩ := h
    exact ⟨hfold, hevent⟩
  . rintro ⟨hfold, hevent⟩
    exact ⟨draft, hfold, by rw [completed?_eq, if_pos hevent]⟩

theorem spells_iff {ms : List Member} {frame : Frame}
    : Spells ms frame ↔ (draft? ms).map ofDraft = some frame := by
  rw [Option.map_eq_some_iff]
  constructor
  . rintro ⟨hnames, ⟨s, hs, htag⟩, hsid, hpayload⟩
    simp only [← sid?_eq_some] at hsid
    simp only [← within_eq_some] at hpayload
    obtain ⟨sid, hsid, hsid'⟩ := settle_getD.2 hsid
    obtain ⟨payload, hpayload, hpayload'⟩ := settle_getD.2 hpayload
    refine ⟨⟨some frame.event, sid, payload⟩,
      draft?_eq_some.2 ⟨foldlM_take.2 ⟨hnames, ?_, hsid, hpayload⟩, rfl⟩, ?_⟩
    . exact settle_none.2 (.inr ⟨s, _, hs, tag?_eq_some.2 htag, rfl⟩)
    . unfold ofDraft
      rw [hsid', hpayload']
      rfl
  . rintro ⟨draft, hdraft, rfl⟩
    obtain ⟨hfold, hevent⟩ := draft?_eq_some.1 hdraft
    obtain ⟨hnames, htag, hsid, hpayload⟩ := foldlM_take.1 hfold
    refine ⟨hnames, ?_, ?_, ?_⟩
    . rcases settle_none.1 htag with ⟨-, hnone⟩ | ⟨s, event, hs, hread, hsome⟩
      . rw [hnone] at hevent
        contradiction
      . refine ⟨s, hs, ?_⟩
        rw [tag?_eq_some.1 hread, ofDraft, hsome]
        rfl
    . simp only [← sid?_eq_some]
      exact settle_getD.1 ⟨draft.sid, hsid, rfl⟩
    . simp only [← within_eq_some]
      exact settle_getD.1 ⟨draft.payload, hpayload, rfl⟩

def objectText (before inside after : Blanks) (ms : List Member) : String :=
  .ofList (before.text ++ ((Spelling.object inside ms).text ++ after.text))

/-- An object is read as the frame that its members spell, or else it is not the text of a frame. -/
theorem ofText_objectText_cases (before inside after : Blanks) (ms : List Member)
    : (∃ frame, (∀ frame', Spells ms frame' ↔ frame' = frame)
          ∧ ofText (objectText before inside after ms) = frame.checked)
        ∨ (∀ frame, ¬ Spells ms frame)
          ∧ ∃ cause position,
            ofText (objectText before inside after ms) = .error (.text cause position) := by
  have hread : (whole record.read (objectText before inside after ms).toList).toOption
      = draft? ms := by
    rw [objectText, String.toList_ofList]
    exact Json.Record.whole_text takes_fields before inside after ms
  simp only [spells_iff]
  unfold ofText
  cases hdraft : draft? ms with
  | none =>
    rw [hdraft] at hread
    obtain ⟨fault, hfault⟩ := exists_error_of_toOption hread
    rw [hfault]
    exact .inr ⟨by simp, _, _, rfl⟩
  | some draft =>
    rw [hdraft] at hread
    rw [eq_ok_of_toOption hread]
    exact .inl ⟨ofDraft draft, by simp [eq_comm], rfl⟩

theorem checked_eq_ok {frame frame' : Frame}
    : frame.checked = .ok frame' ↔ frame' = frame ∧ frame'.event ≠ "" := by
  unfold checked
  split
  . next hevent => simp_all
  . next hevent =>
    simp only [Except.ok.injEq]
    constructor
    . rintro rfl
      exact ⟨rfl, hevent⟩
    . rintro ⟨rfl, -⟩
      rfl

theorem checked_eq_noEvent {frame : Frame}
    : frame.checked = .error .noEvent ↔ frame.event = "" := by
  unfold checked
  split <;> simp_all

theorem exists_string_of_value? {s : Spelling} {event : String}
    (h : s.value? = some (.string event)) : ∃ ps, s = .string ps := by
  cases s with
  | string ps => exact ⟨ps, rfl⟩
  | _ => simp [value?] at h

/--
The frame that the members of an object spell is read from its text, in whatever order they stand and
whatever else is among them, unless its tag is empty. A tag that is missing, given twice or no string
makes the text no text of a frame, as do two numbers and two payloads. The integers are those that are
written in digits only, and another number of few digits is the double nearest to it.
-/
theorem ofText_spelled (before inside after : Blanks) (ms : List Member)
    : (∀ frame, ofText (objectText before inside after ms) = .ok frame
          ↔ Spells ms frame ∧ frame.event ≠ "")
        ∧ (ofText (objectText before inside after ms) = .error .noEvent
          ↔ ∃ frame, Spells ms frame ∧ frame.event = "")
        ∧ ((named ["type", "event"] ms).length ≠ 1 ∨ 1 < (named ["sid"] ms).length
            ∨ 1 < (named ["payload"] ms).length
            ∨ (∃ s ∈ named ["type", "event"] ms, ∀ ps, s ≠ .string ps) →
          ∃ cause position,
            ofText (objectText before inside after ms) = .error (.text cause position))
        ∧ (∀ (n : Spelling.Numeral) (i : Int), n.value? = some (.int i) ↔ n.IsInt i)
        ∧ ∀ (n : Spelling.Numeral) (x : Float), n.Short → n.value? = some (.float x) →
          x = Decimal.signed n.negative n.written.toFloat := by
  rcases ofText_objectText_cases before inside after ms with
    ⟨frame, hspells, htext⟩ | ⟨hspells, cause, position, htext⟩
  . rw [htext]
    refine ⟨fun frame' => ?_, ?_, fun hmembers => ?_,
      Numeral.value?_eq_int_iff, Numeral.eq_of_value?_eq_float⟩
    . rw [checked_eq_ok, hspells]
    . simp [checked_eq_noEvent, hspells]
    . obtain ⟨-, ⟨s, hs, htag⟩, hsid, hpayload⟩ := (hspells frame).2 rfl
      obtain ⟨ps, rfl⟩ := exists_string_of_value? htag
      rw [hs] at hmembers
      rcases hmembers with hlength | hlength | hlength | ⟨s, hmem, hstring⟩
      . contradiction
      . rcases hsid with ⟨hnil, -⟩ | ⟨s, hs, -⟩ <;> simp_all
      . rcases hpayload with ⟨hnil, -⟩ | ⟨s, hs, -⟩ <;> simp_all
      . exact absurd (List.eq_of_mem_singleton hmem) (hstring ps)
  . rw [htext]
    exact ⟨by simp [hspells], by simp [hspells], fun _ => ⟨cause, position, rfl⟩,
      Numeral.value?_eq_int_iff, Numeral.eq_of_value?_eq_float⟩

/-- A line of its own, and a space. -/
def gap : Blanks :=
  ⟨['\n', ' '], by simp [isBlank]⟩

def member (name : String) (value : Spelling) : Member :=
  (.bare (Piece.ofText name), .bare value)

/-- The number `-1E+999`, which is out of range. -/
def huge : Spelling :=
  .number ⟨true, ['1'], .inr ⟨by simp, _, _, rfl, by decide⟩, none,
    some ⟨true, .plus, ⟨['9', '9', '9'], by simp, by simp⟩⟩⟩

/-- The name of the tag begins with an escape, and a member that is passed over is out of range. -/
def reordered : List Member :=
  [member "payload" (.array gap [.bare (.bool true)]),
    member "x" huge,
    (⟨gap, .unit (.ofNat 0x65) :: Piece.ofText "vent", gap⟩,
      ⟨gap, .string (Piece.ofText "addHost"), gap⟩),
    member "sid" .null]

theorem ofText_spelled_reordered
    : ofText "\x7b\n \"payload\":[\n true],\"x\":-1E+999,\n \"\\u0065vent\"\n :\n \"addHost\"\n ,\"sid\":null\x7d\n "
          = .ok ⟨"addHost", none, .array [.bool true]⟩
        ∧ ∃ cause position, ofText "\x7b\"type\":\"a\",\"event\":\"a\"\x7d"
          = .error (.text cause position) := by
  have htext : objectText .none gap gap reordered
      = "\x7b\n \"payload\":[\n true],\"x\":-1E+999,\n \"\\u0065vent\"\n :\n \"addHost\"\n ,\"sid\":null\x7d\n " := by
    decide +kernel
  have hspells : Spells reordered ⟨"addHost", none, .array [.bool true]⟩ :=
    spells_iff.2 (by decide +kernel)
  have htwice : objectText .none .none .none
        [member "type" (.string (Piece.ofText "a")), member "event" (.string (Piece.ofText "a"))]
      = "\x7b\"type\":\"a\",\"event\":\"a\"\x7d" := by
    decide +kernel
  constructor
  . rw [← htext]
    exact ((ofText_spelled _ _ _ _).1 _).2 ⟨hspells, by decide⟩
  . rw [← htwice]
    exact (ofText_spelled _ _ _ _).2.2.1 (.inl (by decide +kernel))

theorem ne_ok_of_toOption {t : String} (h : (ofText t).toOption = none) (frame : Frame)
    : ofText t ≠ .ok frame := by
  intro hok
  rw [hok] at h
  contradiction

/-- The first half of a character that takes two units. -/
def half : List Piece :=
  [.unit (.ofNat 0xD800)]

/-- Half a character in a name or in a payload makes an object no text of a frame, and so does a
payload that is out of range. -/
theorem not_ofText_half
    : (objectText .none .none .none
            [member "type" (.string (Piece.ofText "a")), (.bare half, .bare .null)]
          = "\x7b\"type\":\"a\",\"\\ud800\":null\x7d"
        ∧ ∀ frame, ofText "\x7b\"type\":\"a\",\"\\ud800\":null\x7d" ≠ .ok frame)
      ∧ (objectText .none .none .none
            [member "type" (.string (Piece.ofText "a")), member "payload" (.string half)]
          = "\x7b\"type\":\"a\",\"payload\":\"\\ud800\"\x7d"
        ∧ ∀ frame, ofText "\x7b\"type\":\"a\",\"payload\":\"\\ud800\"\x7d" ≠ .ok frame)
      ∧ (objectText .none .none .none
            [member "type" (.string (Piece.ofText "a")), member "payload" huge]
          = "\x7b\"type\":\"a\",\"payload\":-1E+999\x7d"
        ∧ ∀ frame, ofText "\x7b\"type\":\"a\",\"payload\":-1E+999\x7d" ≠ .ok frame) := by
  refine ⟨⟨by decide +kernel, ?_⟩, ⟨by decide +kernel, ?_⟩, by decide +kernel, ?_⟩
  . exact ne_ok_of_toOption (by decide +kernel)
  . exact ne_ok_of_toOption (by decide +kernel)
  . exact ne_ok_of_toOption (by decide +kernel)

end Frame

end LiveTopology
