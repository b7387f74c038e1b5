import LiveTopology.Proofs.Command.Cursor
import LiveTopology.Proofs.Command.Modifiers

/-!
This module contains how the commands of the console are written, word by word, and that a line is
read as a command exactly if it is written so.
-/

namespace LiveTopology.Command

open Decimal (parseFloat?)

/-- The words of a point, which may be left out if it is the origin. -/
inductive Anchored : List String → Point Float → Prop where
  | origin : Anchored [] ⟨0.0, 0.0⟩
  | point {wx wy : String} {x y : Float} (hx : parseFloat? wx = some x)
    (hy : parseFloat? wy = some y)
    : Anchored [wx, wy] ⟨x, y⟩

/-- The words of a number, then of a point, then of keys. -/
inductive Scaled : List String → Float → Point Float → Modifiers → Prop where
  | mk {w : String} {anchor keys : List String} {x : Float} {p : Point Float} {m : Modifiers}
    (hx : parseFloat? w = some x) (hp : Anchored anchor p) (hm : Held keys m)
    : Scaled (w :: (anchor ++ keys)) x p m

/-- The words of a command. Names are read in whatever case. -/
inductive Written : List String → Command → Prop where
  | status {name : String} (hname : lower name = "status") : Written [name] .status
  | help {name : String} (hname : lower name = "help") : Written [name] .help
  | key (c : Char) : Written [.singleton c] (.key (.singleton c.toUpper))
  | pan {name wx wy : String} {keys : List String} {dx dy : Float} {m : Modifiers}
    (hname : lower name = "pan") (hdx : parseFloat? wx = some dx) (hdy : parseFloat? wy = some dy)
    (hm : Held keys m)
    : Written (name :: wx :: wy :: keys) (.gesture (.pan dx dy m))
  | zoom {name : String} {words : List String} {factor : Float} {p : Point Float} {m : Modifiers}
    (hname : lower name = "zoom") (h : Scaled words factor p m)
    : Written (name :: words) (.gesture (.zoom factor p m))
  | wheel {name : String} {words : List String} {dy : Float} {p : Point Float} {m : Modifiers}
    (hname : lower name = "wheel") (h : Scaled words dy p m)
    : Written (name :: words) (.gesture (.wheel dy p m))

theorem bind_eq_ok_iff {ε α β : Type} {x : Except ε α} {f : α → Except ε β} {b : β}
    : x >>= f = .ok b ↔ ∃ a, x = .ok a ∧ f a = .ok b := by
  cases x with
  | error e => simp [bind, Except.bind]
  | ok a => simp [bind, Except.bind]

theorem number_eq_ok_iff (command argument : String) (words rest : List String) (x : Float)
    : number command argument words = .ok (x, rest)
        ↔ ∃ word, words = word :: rest ∧ parseFloat? word = some x := by
  cases words with
  | nil => simp [number]
  | cons word words =>
    rw [number]
    cases h : parseFloat? word with
    | none => simp [h]
    | some y =>
      constructor
      . intro heq
        obtain ⟨rfl, rfl⟩ := Prod.mk.inj (Except.ok.inj heq)
        exact ⟨word, rfl, h⟩
      . rintro ⟨_, heq, hword⟩
        obtain ⟨rfl, rfl⟩ := List.cons.inj heq
        obtain rfl := Option.some.inj (h.symm.trans hword)
        rfl

/-- Words that name keys are told from the words of a point by their first word. -/
theorem anchor_of_held {words : List String} {m : Modifiers} (hm : Held words m) (command : String)
    : anchor command words = .ok (⟨0.0, 0.0⟩, words) := by
  unfold anchor
  cases words with
  | nil => rfl
  | cons word words =>
    have hnone : parseFloat? word = none := by
      apply parseFloat?_of_named
      exact ((named_append [word] words).1 hm.named).1
    rw [List.head?_cons, Option.bind_some, hnone]

theorem anchor_point {command wx wy : String} {x y : Float} (hx : parseFloat? wx = some x)
    (hy : parseFloat? wy = some y) (words : List String)
    : anchor command (wx :: wy :: words) = .ok (⟨x, y⟩, words) := by
  have hfirst := (number_eq_ok_iff command "x" (wx :: wy :: words) _ x).2 ⟨wx, rfl, hx⟩
  have hsecond := (number_eq_ok_iff command "y" (wy :: words) _ y).2 ⟨wy, rfl, hy⟩
  unfold anchor
  rw [List.head?_cons, Option.bind_some, hx]
  refine bind_eq_ok_iff.2 ⟨(x, wy :: words), hfirst, ?_⟩
  exact bind_eq_ok_iff.2 ⟨(y, words), hsecond, rfl⟩

theorem anchored_of_anchor {command : String} {words rest : List String} {p : Point Float}
    (h : anchor command words = .ok (p, rest))
    : ∃ taken, words = taken ++ rest ∧ Anchored taken p := by
  unfold anchor at h
  split at h
  . obtain ⟨rfl, rfl⟩ := Prod.mk.inj (Except.ok.inj h)
    exact ⟨[], rfl, .origin⟩
  . obtain ⟨⟨x, words'⟩, hfirst, hrest⟩ := bind_eq_ok_iff.1 h
    obtain ⟨⟨y, words''⟩, hsecond, hread⟩ := bind_eq_ok_iff.1 hrest
    obtain ⟨wx, rfl, hx⟩ := (number_eq_ok_iff ..).1 hfirst
    obtain ⟨wy, rfl, hy⟩ := (number_eq_ok_iff ..).1 hsecond
    obtain ⟨rfl, rfl⟩ := Prod.mk.inj (Except.ok.inj hread)
    exact ⟨[wx, wy], rfl, .point hx hy⟩

theorem anchor_of_anchored {taken keys : List String} {p : Point Float} {m : Modifiers}
    (hp : Anchored taken p) (hm : Held keys m) (command : String)
    : anchor command (taken ++ keys) = .ok (p, keys) := by
  cases hp with
  | origin => exact anchor_of_held hm command
  | point hx hy => exact anchor_point hx hy keys

theorem pan_eq_ok_iff (words : List String) (g : Gesture Float)
    : pan words = .ok g
        ↔ ∃ wx wy keys dx dy m, words = wx :: wy :: keys ∧ parseFloat? wx = some dx
          ∧ parseFloat? wy = some dy ∧ Held keys m ∧ g = .pan dx dy m := by
  unfold pan
  simp only [bind_eq_ok_iff, Prod.exists, number_eq_ok_iff, modifiers_eq_ok_iff]
  constructor
  . rintro ⟨dx, _, ⟨wx, rfl, hdx⟩, dy, keys, ⟨wy, rfl, hdy⟩, m, hm, h⟩
    exact ⟨wx, wy, keys, dx, dy, m, rfl, hdx, hdy, hm, (Except.ok.inj h).symm⟩
  . rintro ⟨wx, wy, keys, dx, dy, m, rfl, hdx, hdy, hm, rfl⟩
    exact ⟨dx, _, ⟨wx, rfl, hdx⟩, dy, keys, ⟨wy, rfl, hdy⟩, m, hm, rfl⟩

theorem scaling_eq_ok_iff {command argument : String} (words : List String)
    (f : Float → Point Float → Modifiers → Gesture Float) (g : Gesture Float)
    : (do
          let (x, words) ← number command argument words
          let (p, words) ← anchor command words
          .ok (f x p (← modifiers words))) = .ok g
        ↔ ∃ x p m, Scaled words x p m ∧ g = f x p m := by
  simp only [bind_eq_ok_iff, Prod.exists, number_eq_ok_iff, modifiers_eq_ok_iff]
  constructor
  . rintro ⟨x, _, ⟨w, rfl, hx⟩, p, keys, hanchor, m, hm, h⟩
    obtain ⟨taken, rfl, hp⟩ := anchored_of_anchor hanchor
    exact ⟨x, p, m, .mk hx hp hm, (Except.ok.inj h).symm⟩
  . rintro ⟨x, p, m, ⟨hx, hp, hm⟩, rfl⟩
    exact ⟨x, _, ⟨_, rfl, hx⟩, p, _, anchor_of_anchored hp hm command, m, hm, rfl⟩

theorem zoom_eq_ok_iff (words : List String) (g : Gesture Float)
    : zoom words = .ok g ↔ ∃ factor p m, Scaled words factor p m ∧ g = .zoom factor p m :=
  scaling_eq_ok_iff words Gesture.zoom g

theorem wheel_eq_ok_iff (words : List String) (g : Gesture Float)
    : wheel words = .ok g ↔ ∃ dy p m, Scaled words dy p m ∧ g = .wheel dy p m :=
  scaling_eq_ok_iff words Gesture.wheel g

theorem exists_singleton_of_length_eq_one {s : String} (h : s.toList.length = 1)
    : ∃ c, s = .singleton c := by
  obtain ⟨c, hc⟩ := List.length_eq_one_iff.1 h
  refine ⟨c, String.toList_inj.1 ?_⟩
  rw [hc, String.toList_singleton]

theorem upper_singleton (c : Char) : upper (.singleton c) = .singleton c.toUpper := by
  apply String.toList_inj.1
  simp [upper]

theorem lower_singleton_ne (c : Char) {s : String} (hs : s.toList.length ≠ 1)
    : lower (.singleton c) ≠ s := by
  rintro rfl
  simp [lower] at hs

theorem parse_eq_ok_none_iff (line : String) : parse line = .ok none ↔ Text.words line = [] := by
  unfold parse
  constructor
  . intro h
    split at h
    . next hwords => exact hwords
    . next name words _ =>
      split at h
      . exact nomatch Except.ok.inj h
      . exact nomatch Except.ok.inj h
      . obtain ⟨g, -, hg⟩ := bind_eq_ok_iff.1 h
        exact nomatch Except.ok.inj hg
      . obtain ⟨g, -, hg⟩ := bind_eq_ok_iff.1 h
        exact nomatch Except.ok.inj hg
      . obtain ⟨g, -, hg⟩ := bind_eq_ok_iff.1 h
        exact nomatch Except.ok.inj hg
      . split at h
        . exact nomatch Except.ok.inj h
        . exact nomatch h
      . exact nomatch h
  . intro h
    rw [h]

theorem written_of_parse {line : String} {c : Command} (h : parse line = .ok (some c))
    : Written (Text.words line) c := by
  unfold parse at h
  split at h
  . exact nomatch Except.ok.inj h
  . next name words hwords =>
    rw [hwords]
    split at h
    . next hname =>
      obtain rfl := Option.some.inj (Except.ok.inj h)
      exact .status hname
    . next hname =>
      obtain rfl := Option.some.inj (Except.ok.inj h)
      exact .help hname
    . next hname =>
      obtain ⟨g, hg, hc⟩ := bind_eq_ok_iff.1 h
      obtain rfl := Option.some.inj (Except.ok.inj hc)
      obtain ⟨wx, wy, keys, dx, dy, m, rfl, hdx, hdy, hm, rfl⟩ := (pan_eq_ok_iff ..).1 hg
      exact .pan hname hdx hdy hm
    . next hname =>
      obtain ⟨g, hg, hc⟩ := bind_eq_ok_iff.1 h
      obtain rfl := Option.some.inj (Except.ok.inj hc)
      obtain ⟨factor, p, m, hscaled, rfl⟩ := (zoom_eq_ok_iff ..).1 hg
      exact .zoom hname hscaled
    . next hname =>
      obtain ⟨g, hg, hc⟩ := bind_eq_ok_iff.1 h
      obtain rfl := Option.some.inj (Except.ok.inj hc)
      obtain ⟨dy, p, m, hscaled, rfl⟩ := (wheel_eq_ok_iff ..).1 hg
      exact .wheel hname hscaled
    . split at h
      . next hlength =>
        obtain rfl := Option.some.inj (Except.ok.inj h)
        obtain ⟨c, rfl⟩ := exists_singleton_of_length_eq_one hlength
        rw [upper_singleton]
        exact .key c
      . exact nomatch h
    . exact nomatch h

theorem parse_of_written {line : String} {c : Command} (h : Written (Text.words line) c)
    : parse line = .ok (some c) := by
  unfold parse
  generalize Text.words line = words at h
  cases h with
  | status hname =>
    simp only [hname]
  | help hname =>
    simp only [hname]
  | key c =>
    split
    . contradiction
    . next name words heq =>
      obtain ⟨rfl, rfl⟩ := List.cons.inj heq
      split
      . next hname _ => exact absurd hname (lower_singleton_ne c (by decide))
      . next hname _ => exact absurd hname (lower_singleton_ne c (by decide))
      . next hname => exact absurd hname (lower_singleton_ne c (by decide))
      . next hname => exact absurd hname (lower_singleton_ne c (by decide))
      . next hname => exact absurd hname (lower_singleton_ne c (by decide))
      . rw [if_pos (by simp), upper_singleton]
      . next hnil _ _ => exact (hnil rfl).elim
  | @pan name wx wy keys dx dy m hname hdx hdy hm =>
    have hpan := (pan_eq_ok_iff (wx :: wy :: keys) _).2
      ⟨wx, wy, keys, dx, dy, m, rfl, hdx, hdy, hm, rfl⟩
    simp only [hname, hpan]
    rfl
  | @zoom name words factor p m hname hscaled =>
    have hzoom := (zoom_eq_ok_iff words _).2 ⟨factor, p, m, hscaled, rfl⟩
    simp only [hname, hzoom]
    rfl
  | @wheel name words dy p m hname hscaled =>
    have hwheel := (wheel_eq_ok_iff words _).2 ⟨dy, p, m, hscaled, rfl⟩
    simp only [hname, hwheel]
    rfl

theorem parse_eq_ok_iff (line : String) (c : Command)
    : parse line = .ok (some c) ↔ Written (Text.words line) c :=
  ⟨written_of_parse, parse_of_written⟩

/-- The words of a gesture are numbers, then keys that others can take the place of. -/
theorem Written.keys {name : String} {words : List String} {g : Gesture Float}
    (h : Written (name :: words) (.gesture g))
    : ∃ numbers keys m, words = numbers ++ keys
        ∧ (∀ word ∈ numbers, ∃ x, parseFloat? word = some x)
        ∧ Held keys m
        ∧ ∀ keys', Held keys' m → Written (name :: (numbers ++ keys')) (.gesture g) := by
  have hscaled {words : List String} {x : Float} {p : Point Float} {m : Modifiers}
      (h : Scaled words x p m)
      : ∃ numbers keys, words = numbers ++ keys
          ∧ (∀ word ∈ numbers, ∃ x, parseFloat? word = some x)
          ∧ Held keys m
          ∧ ∀ keys', Held keys' m → Scaled (numbers ++ keys') x p m := by
    obtain @⟨w, anchor, keys, _, _, _, hx, hp, hm⟩ := h
    refine ⟨w :: anchor, keys, rfl, ?_, hm, fun keys' hm' => .mk hx hp hm'⟩
    cases hp with
    | origin => simp [hx]
    | point hwx hwy => simp [hx, hwx, hwy]
  cases h with
  | @pan _ wx wy keys dx dy m hname hdx hdy hm =>
    refine ⟨[wx, wy], keys, m, rfl, by simp [hdx, hdy], hm, ?_⟩
    exact fun keys' hm' => .pan hname hdx hdy hm'
  | @zoom _ _ factor p m hname h =>
    obtain ⟨numbers, keys, heq, hnumbers, hm, hreplace⟩ := hscaled h
    exact ⟨numbers, keys, m, heq, hnumbers, hm, fun keys' hm' => .zoom hname (hreplace keys' hm')⟩
  | @wheel _ _ dy p m hname h =>
    obtain ⟨numbers, keys, heq, hnumbers, hm, hreplace⟩ := hscaled h
    exact ⟨numbers, keys, m, heq, hnumbers, hm, fun keys' hm' => .wheel hname (hreplace keys' hm')⟩

/-- Words that name keys are at the end only. -/
theorem keys_of_append_eq {words keys numbers keys' : List String}
    (h : words ++ keys = numbers ++ keys') (hkeys : Named keys)
    (hnumbers : ∀ word ∈ numbers, ∃ x, parseFloat? word = some x)
    : ∃ middle, words = numbers ++ middle ∧ keys' = middle ++ keys := by
  rcases List.append_eq_append_iff.1 h with ⟨middle, hwords, hmiddle⟩ | ⟨middle, hwords, hmiddle⟩
  . cases middle with
    | nil => exact ⟨[], by simpa using hwords.symm, by simpa using hmiddle.symm⟩
    | cons word middle =>
      obtain ⟨x, hx⟩ := hnumbers word (by simp [hwords])
      rw [hmiddle] at hkeys
      have hword : Named [word] := ((named_append [word] (middle ++ keys')).1 hkeys).1
      rw [parseFloat?_of_named hword] at hx
      contradiction
  . exact ⟨middle, hwords, hmiddle⟩

theorem Written.replace {name : String} {words keys keys' : List String} {g : Gesture Float}
    (h : Written (name :: (words ++ keys)) (.gesture g)) (hkeys : Named keys)
    (hkeys' : Named keys') (hsame : ∀ key, Mentions keys key ↔ Mentions keys' key)
    : Written (name :: (words ++ keys')) (.gesture g) := by
  obtain ⟨numbers, rest, m, heq, hnumbers, hm, hreplace⟩ := h.keys
  obtain ⟨middle, rfl, rfl⟩ := keys_of_append_eq heq hkeys hnumbers
  rw [List.append_assoc]
  exact hreplace _ (hm.replace hkeys' hsame)

/-- How a line is read. It is cut into words at its blanks, and these are a command in one way only,
as no word is a number as well as names of keys. No word is looked for past the last one. -/
theorem parse_grammar (line : String)
    : (∀ words, Text.words line = words
          ↔ Text.Cut Text.isBlank line.toList (words.map String.toList))
        ∧ (∀ word names, modifierNames word = names
          ↔ Text.Cut (· == '+') word.toList (names.map String.toList))
        ∧ (∀ words, Cursor.pan ⟨words, 0⟩ = some (pan words)
          ∧ Cursor.zoom ⟨words, 0⟩ = some (zoom words)
          ∧ Cursor.wheel ⟨words, 0⟩ = some (wheel words))
        ∧ (∀ word, Named [word] → parseFloat? word = none)
        ∧ (parse line = .ok none ↔ Text.words line = [])
        ∧ (∀ c, parse line = .ok (some c) ↔ Written (Text.words line) c)
        ∧ ((∃ e, parse line = .error e)
          ↔ Text.words line ≠ [] ∧ ∀ c, ¬ Written (Text.words line) c)
        ∧ ∀ line' name words keys keys' g, Named keys → Named keys' →
          (∀ key, Mentions keys key ↔ Mentions keys' key) →
          Text.words line = name :: (words ++ keys) → Text.words line' = name :: (words ++ keys') →
            (parse line = .ok (some (.gesture g)) ↔ parse line' = .ok (some (.gesture g))) := by
  refine ⟨?words, ?names, ?cursor, ?distinct, parse_eq_ok_none_iff line, ?command, ?error, ?keys⟩
  case words =>
    intro words
    exact (Text.cut_map_toList_iff line words).symm
  case names =>
    intro word names
    exact (Text.cut_map_toList_iff word names).symm
  case cursor =>
    intro words
    exact ⟨Cursor.pan_eq words, Cursor.zoom_eq words, Cursor.wheel_eq words⟩
  case distinct =>
    intro word
    exact parseFloat?_of_named
  case command =>
    intro c
    apply parse_eq_ok_iff
  case error =>
    rw [ne_eq, ← parse_eq_ok_none_iff]
    simp only [← parse_eq_ok_iff]
    rcases parse line with e | _ | c
    . simp
    . simp
    . simp
  case keys =>
    intro line' name words keys keys' g hkeys hkeys' hsame hwords hwords'
    rw [parse_eq_ok_iff, parse_eq_ok_iff, hwords, hwords']
    constructor
    . intro h
      exact h.replace hkeys hkeys' hsame
    . intro h
      exact h.replace hkeys' hkeys fun key => (hsame key).symm

theorem parse_grammar_keys
    : let g := Gesture.zoom 2.0 ⟨10.0, 20.0⟩ ⟨true, false, true, false⟩
      parse "zoom 2 10 20 shift++ALT" = .ok (some (.gesture g))
        ∧ parse " zoom 2 10 20 Option\tSHIFT alt" = .ok (some (.gesture g)) := by
  intro g
  have hjoined : Held ["shift++ALT"] ⟨true, false, true, false⟩ :=
    (modifiers_eq_ok_iff _ _).1 (by rfl)
  have happart : Held ["Option", "SHIFT", "alt"] ⟨true, false, true, false⟩ :=
    (modifiers_eq_ok_iff _ _).1 (by rfl)
  have hparse : parse "zoom 2 10 20 shift++ALT" = .ok (some (.gesture g)) := by rfl
  obtain ⟨-, -, -, -, -, -, -, hkeys⟩ := parse_grammar "zoom 2 10 20 shift++ALT"
  refine ⟨hparse, (hkeys " zoom 2 10 20 Option\tSHIFT alt" "zoom" ["2", "10", "20"] ["shift++ALT"]
    ["Option", "SHIFT", "alt"] g hjoined.named happart.named ?_ (by rfl) (by rfl)).1 hparse⟩
  intro key
  rw [← hjoined.has_iff, ← happart.has_iff]

end LiveTopology.Command
