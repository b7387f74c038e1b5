import LiveTopology.Frame.Text
import LiveTopology.Proofs.Json.Accepted
import LiveTopology.Proofs.Json.Restored

/-!
This module contains that a frame is read back from its text form if each of its doubles is, also a
frame that is itself read from any text.
-/

namespace LiveTopology

open Json.Read

namespace Frame

/-- What the text of a payload has to be for it to be read inside a frame. -/
def Fits (payload : Json) : Prop :=
  payload.Proper ∧ payload.depth < nesting

theorem depth_members (frame : Frame)
    : (Json.object frame.members).depth = frame.payload.depth + 1 := by
  unfold members
  cases frame.sid <;> simp [Json.depth, Json.depthOfMembers]

theorem keeps_fits
    : Json.Record.Keeps (fun draft : Draft => ∀ payload, draft.payload = some payload → Fits payload)
        record.fields := by
  intro f hf draft cs draft' rest hdraft hread
  have hf : f = record.fields[0] ∨ f = record.fields[1] ∨ f = record.fields[2] := by
    simpa [record] using hf
  rcases hf with rfl | rfl | rfl
  . obtain ⟨event, -, rfl⟩ := map_eq_ok (f := fun event => { draft with event := some event }) hread
    exact hdraft
  . obtain ⟨sid, -, rfl⟩ := map_eq_ok (f := fun sid => { draft with sid := some sid }) hread
    exact hdraft
  . obtain ⟨payload, hvalue, rfl⟩ :=
      map_eq_ok (f := fun payload => { draft with payload := some payload }) hread
    intro payload' hpayload
    obtain ⟨hproper, hdepth⟩ := proper_of_value hvalue
    obtain rfl := Option.some.inj hpayload
    exact ⟨hproper, Nat.lt_of_le_of_lt hdepth (by decide)⟩

/-- A frame that is read from a text has a payload that can be written and read again. -/
theorem of_ofText {t : String} {frame : Frame} (h : ofText t = .ok frame)
    : frame.event ≠ "" ∧ Fits frame.payload := by
  unfold ofText at h
  split at h
  . contradiction
  . next draft hwhole =>
    obtain ⟨rest, hread⟩ := read_of_whole hwhole
    have hfits := Json.Record.of_read (r := record) (by simp [record]) keeps_fits hread
    unfold checked at h
    split at h
    . contradiction
    . next hevent =>
      injection h with heq
      subst heq
      refine ⟨hevent, ?_⟩
      show Fits (draft.payload.getD .empty)
      cases hpayload : draft.payload with
      | none => exact ⟨⟨List.Pairwise.nil, trivial⟩, by decide⟩
      | some payload => exact hfits payload hpayload

theorem read_type (draft : Draft) (s : String) (after : List Char)
    : record.fields[0].read draft ((Json.string s).print ++ after)
        =
      .ok ({ draft with event := some s }, after) := by
  obtain ⟨inside, hinside, hname⟩ := name_printString s after
  show (text (Json.printString s ++ after)
    >>= fun p => Except.ok ({ draft with event := some p.1 }, p.2)) = _
  rw [hinside]
  show (name inside >>= fun p => Except.ok ({ draft with event := some p.1 }, p.2)) = _
  rw [hname]
  rfl

theorem read_sid (draft : Draft) (sid : UInt64) {after : List Char} (hafter : Stops after)
    : record.fields[1].read draft ((Json.number (.int sid.toNat)).print ++ after)
        =
      .ok ({ draft with sid := some (some sid) }, after) := by
  show (option word64 _ >>= fun p => Except.ok ({ draft with sid := some p.1 }, p.2)) = _
  rw [option_word64 sid hafter]
  rfl

theorem read_payload (draft : Draft) {payload : Json} (hpayload : Fits payload)
    (hfloats : ∀ x ∈ payload.floats, Json.Restored x) {after : List Char} (hafter : Stops after)
    : record.fields[2].read draft (payload.print ++ after)
        =
      .ok ({ draft with payload := some payload }, after) := by
  have hdepth : payload.depth ≤ nesting - 1 := Nat.le_pred_of_lt hpayload.2
  show (value (nesting - 1) _ >>= fun p => Except.ok ({ draft with payload := some p.1 }, p.2)) = _
  rw [value_print payload hpayload.1 _ hdepth after hafter fun x hx => (hfloats x hx).reread]
  rfl

theorem field?_type : record.field? "type" = some record.fields[0] := by
  simp [Json.Record.field?, record]

theorem field?_sid : record.field? "sid" = some record.fields[1] := by
  simp [Json.Record.field?, record]

theorem field?_payload : record.field? "payload" = some record.fields[2] := by
  simp [Json.Record.field?, record]

theorem read_of_readMembers {cs rest : List Char} {draft : Draft}
    (h : Json.Record.readMembers record (cs.length + 1) true record.start cs
      = .complete draft ('\x7d' :: rest))
    : record.read ('\x7b' :: cs) = .ok (draft, rest) := by
  show Json.Record.finish Json.Record.endObject
    (Json.Record.readMembers record (cs.length + 1) true record.start cs) = _
  rw [h]
  rfl

/-- The reader of a record goes through the members in the order in which they are written. -/
theorem read_toText (frame : Frame) (hpayload : Fits frame.payload)
    (hfloats : ∀ x ∈ frame.payload.floats, Json.Restored x)
    : record.read frame.toText.toList
        =
      .ok (⟨some frame.event, frame.sid.map some, some frame.payload⟩, []) := by
  obtain ⟨event, sid, payload⟩ := frame
  obtain ⟨cs, hcs, hlength, hfirst⟩ := Json.Record.readMembers_first
    ((sid.map fun sid => ("sid", Json.number (.int sid.toNat))).toList ++ [("payload", payload)])
    [] field?_type rfl fun after _ => read_type record.start event after
  have hlast (draft : Draft) (hgiven : draft.payload.isSome = false) (fuel : Nat) :=
    Json.Record.readMembers_member fuel [] [] field?_payload hgiven
      fun after hafter => read_payload draft hpayload hfloats hafter
  have htext : (toText ⟨event, sid, payload⟩).toList = '\x7b' :: cs := by
    rw [← hcs, List.append_nil]
    exact String.toList_ofList
  rw [htext]
  apply read_of_readMembers
  rw [hfirst]
  cases sid with
  | none =>
    obtain ⟨fuel, hfuel⟩ : ∃ fuel, cs.length = fuel + 2 :=
      Nat.exists_eq_add_of_le' (show 2 ≤ cs.length from hlength)
    rw [hfuel]
    exact (hlast _ rfl _).trans (Json.Record.readMembers_done _ [] rfl)
  | some sid =>
    obtain ⟨fuel, hfuel⟩ : ∃ fuel, cs.length = fuel + 3 :=
      Nat.exists_eq_add_of_le' (show 3 ≤ cs.length from hlength)
    have hsid := Json.Record.readMembers_member (fuel + 2) [("payload", payload)] [] field?_sid rfl
      fun after hafter => read_sid ⟨some event, none, none⟩ sid hafter
    rw [hfuel]
    exact (hsid.trans (hlast _ rfl _)).trans (Json.Record.readMembers_done _ [] rfl)

theorem ofText_toText_of_fits {frame : Frame} (hevent : frame.event ≠ "")
    (hpayload : Fits frame.payload) (hfloats : ∀ x ∈ frame.payload.floats, Json.Restored x)
    : ofText frame.toText = .ok frame := by
  have hdraft : ofDraft ⟨some frame.event, frame.sid.map some, some frame.payload⟩ = frame := by
    cases frame with
    | mk event sid payload => cases sid <;> rfl
  unfold ofText
  rw [whole_of_read (read_toText frame hpayload hfloats)]
  simp only [hdraft]
  exact if_neg hevent

/-- This is for frames of which each double is read from the text that is written for it. -/
theorem ofText_toText
    : (∀ frame : Frame, frame.event ≠ "" → frame.payload.Proper →
          (Json.object frame.members).depth ≤ nesting →
          (∀ x ∈ frame.payload.floats, Json.Restored x) → ofText frame.toText = .ok frame)
        ∧ ∀ (t : String) (frame : Frame), ofText t = .ok frame →
            (∀ x ∈ frame.payload.floats, Json.Restored x) → ofText frame.toText = .ok frame := by
  refine ⟨fun frame hevent hproper hdepth hfloats => ?_, fun t frame h hfloats => ?_⟩
  . rw [depth_members] at hdepth
    exact ofText_toText_of_fits hevent ⟨hproper, hdepth⟩ hfloats
  . obtain ⟨hevent, hpayload⟩ := of_ofText h
    exact ofText_toText_of_fits hevent hpayload hfloats

/-- Control characters, an empty name, the greatest and least integers and a fraction are read back. -/
theorem ofText_toText_extremes
    : ofText (toText ⟨"topo.update", some 0xFFFFFFFFFFFFFFFF, .object
          [("", .string "\"\\\u0001\n\u00e9"), ("n", .array
            [.number (.int (-0x8000000000000000)), .number (.int 0xFFFFFFFFFFFFFFFF),
              .number (.float 0.1), .object []])]⟩)
        =
      .ok ⟨"topo.update", some 0xFFFFFFFFFFFFFFFF, .object
          [("", .string "\"\\\u0001\n\u00e9"), ("n", .array
            [.number (.int (-0x8000000000000000)), .number (.int 0xFFFFFFFFFFFFFFFF),
              .number (.float 0.1), .object []])]⟩ := by
  have hfinite : (0.1 : Float).isFinite = true := by rfl
  apply ofText_toText.1
  . decide
  . refine ⟨List.pairwise_pair.2 (by decide), ?_⟩
    simp [Json.Proper, Json.ProperMembers, Json.ProperItems, Number.Proper, Keyed.Sorted, hfinite]
  . decide
  . intro x hx
    rw [List.eq_of_mem_singleton (show x ∈ [(0.1 : Float)] from hx)]
    exact Json.Short.restored ⟨hfinite, by decide +kernel, by decide +kernel⟩

end Frame

end LiveTopology
