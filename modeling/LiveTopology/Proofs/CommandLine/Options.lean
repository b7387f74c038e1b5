import LiveTopology.CommandLine.Options

/-!
This module contains which settings follow from the options of the program and from its environment.
-/

namespace LiveTopology

namespace Settings

variable {lookup lookup' : Lookup} {s s' : Settings}

theorem parsed_congr {α : Type} {name : String} (h : lookup name = lookup' name)
    (parse? : String → Option α) (default : α)
    : parsed lookup name parse? default = parsed lookup' name parse? default := by
  unfold parsed
  rw [h]

/-- To check settings makes nothing else of them. -/
theorem checked_eq_ok_iff
    : (do s.validate; .ok s : Except Error Settings) = .ok s' ↔ s = s' ∧ s.validate = .ok () := by
  cases hvalid : s.validate with
  | error e =>
    constructor
    . intro h
      contradiction
    . rintro ⟨-, h⟩
      contradiction
  | ok u =>
    constructor
    . intro h
      exact ⟨Except.ok.inj h, rfl⟩
    . rintro ⟨rfl, -⟩
      rfl

theorem ofLookup_eq_ok_iff
    : ofLookup lookup = .ok s ↔ read lookup = .ok s ∧ s.validate = .ok () := by
  unfold ofLookup
  cases read lookup with
  | error e =>
    constructor
    . intro h
      contradiction
    . rintro ⟨h, -⟩
      contradiction
  | ok found =>
    refine checked_eq_ok_iff.trans ?_
    constructor
    . rintro ⟨rfl, hvalid⟩
      exact ⟨rfl, hvalid⟩
    . rintro ⟨heq, hvalid⟩
      obtain rfl := Except.ok.inj heq
      exact ⟨rfl, hvalid⟩

end Settings

namespace Options

/-- What is given, and otherwise what is looked up. -/
def prefer {α : Type} (given : Option α) (value : Except Settings.Error α)
    : Except Settings.Error α :=
  match given with
  | some a => .ok a
  | .none => value

/--
Whether the settings are made of the values that are in effect. For each of them that is the option
if it is given, otherwise what the environment says if it says anything, and otherwise the default.
-/
structure Effective (o : Options) (lookup : Settings.Lookup) (s : Settings) : Prop where
  serverUrl : s.serverUrl
    = o.url.getD ((lookup "TOPO_SERVER_URL").getD Settings.default.serverUrl)
  map : s.map = o.map.getD ((lookup "TOPO_MAP").getD Settings.default.map)
  zoomMin : prefer o.zoomMin (Settings.parsed lookup "TOPO_ZOOM_MIN" Decimal.parseFloat?
    Settings.default.zoomMin) = .ok s.zoomMin
  zoomMax : prefer o.zoomMax (Settings.parsed lookup "TOPO_ZOOM_MAX" Decimal.parseFloat?
    Settings.default.zoomMax) = .ok s.zoomMax
  initial : Settings.parsed lookup "TOPO_RECONNECT_INITIAL_MS" Decimal.parseWord?
    Settings.default.delays.initial = .ok s.delays.initial
  max : Settings.parsed lookup "TOPO_RECONNECT_MAX_MS" Decimal.parseWord?
    Settings.default.delays.max = .ok s.delays.max

/-- Whether the environment makes valid settings as long as no option is given. -/
def Accepts (lookup : Settings.Lookup) : Prop :=
  ∃ s, Effective none lookup s ∧ s.validate = .ok ()

/-- Whether an option is given that stands for a variable of the environment. -/
def replaces (o : Options) : String → Bool
  | "TOPO_SERVER_URL" => o.url.isSome
  | "TOPO_MAP" => o.map.isSome
  | "TOPO_ZOOM_MIN" => o.zoomMin.isSome
  | "TOPO_ZOOM_MAX" => o.zoomMax.isSome
  | _ => false

variable {o : Options} {lookup lookup' : Settings.Lookup} {s s' : Settings}

theorem Effective.unique (h : o.Effective lookup s) (h' : o.Effective lookup s') : s = s' := by
  have hurl := h.serverUrl.trans h'.serverUrl.symm
  have hmap := h.map.trans h'.map.symm
  have hmin := Except.ok.inj (h.zoomMin.symm.trans h'.zoomMin)
  have hmax := Except.ok.inj (h.zoomMax.symm.trans h'.zoomMax)
  have hinitial := Except.ok.inj (h.initial.symm.trans h'.initial)
  have hlast := Except.ok.inj (h.max.symm.trans h'.max)
  obtain ⟨_, _, _, _, _, _⟩ := s
  obtain ⟨_, _, _, _, _, _⟩ := s'
  dsimp at hurl hmap hmin hmax hinitial hlast
  rw [hurl, hmap, hmin, hmax, hinitial, hlast]

theorem prefer_congr {α : Type} {given : Option α} {name : String}
    (h : given.isSome = false → lookup name = lookup' name) (parse? : String → Option α)
    (default : α)
    : prefer given (Settings.parsed lookup name parse? default)
        =
      prefer given (Settings.parsed lookup' name parse? default) := by
  cases given with
  | some a => rfl
  | none => rw [Settings.parsed_congr (h rfl)]

theorem getD_congr {given : Option String} {name : String}
    (h : given.isSome = false → lookup name = lookup' name) (default : String)
    : given.getD ((lookup name).getD default) = given.getD ((lookup' name).getD default) := by
  cases given with
  | some a => rfl
  | none => rw [h rfl]

/-- What an option stands for has no influence on the values that are in effect. -/
theorem Effective.congr (hsame : ∀ name, o.replaces name = false → lookup name = lookup' name)
    (h : o.Effective lookup s)
    : o.Effective lookup' s where
  serverUrl := by rw [← getD_congr (hsame "TOPO_SERVER_URL"), h.serverUrl]
  map := by rw [← getD_congr (hsame "TOPO_MAP"), h.map]
  zoomMin := by rw [← prefer_congr (hsame "TOPO_ZOOM_MIN"), h.zoomMin]
  zoomMax := by rw [← prefer_congr (hsame "TOPO_ZOOM_MAX"), h.zoomMax]
  initial := by rw [← Settings.parsed_congr (hsame "TOPO_RECONNECT_INITIAL_MS" rfl), h.initial]
  max := by rw [← Settings.parsed_congr (hsame "TOPO_RECONNECT_MAX_MS" rfl), h.max]

theorem read_eq_ok_iff : Settings.read lookup = .ok s ↔ Effective none lookup s := by
  unfold Settings.read
  constructor
  . intro h
    rcases hmin : Settings.parsed lookup "TOPO_ZOOM_MIN" Decimal.parseFloat?
      Settings.default.zoomMin with e | min
    . rw [hmin] at h
      contradiction
    rcases hmax : Settings.parsed lookup "TOPO_ZOOM_MAX" Decimal.parseFloat?
      Settings.default.zoomMax with e | max
    . rw [hmin, hmax] at h
      contradiction
    rcases hinitial : Settings.parsed lookup "TOPO_RECONNECT_INITIAL_MS" Decimal.parseWord?
      Settings.default.delays.initial with e | initial
    . rw [hmin, hmax, hinitial] at h
      contradiction
    rcases hlast : Settings.parsed lookup "TOPO_RECONNECT_MAX_MS" Decimal.parseWord?
      Settings.default.delays.max with e | last
    . rw [hmin, hmax, hinitial, hlast] at h
      contradiction
    rw [hmin, hmax, hinitial, hlast] at h
    obtain rfl := Except.ok.inj h
    exact ⟨rfl, rfl, hmin, hmax, hinitial, hlast⟩
  . intro h
    obtain ⟨url, map, min, max, initial, last⟩ := s
    obtain rfl : url = _ := h.serverUrl
    obtain rfl : map = _ := h.map
    rw [show Settings.parsed lookup "TOPO_ZOOM_MIN" Decimal.parseFloat? _ = _ from h.zoomMin,
      show Settings.parsed lookup "TOPO_ZOOM_MAX" Decimal.parseFloat? _ = _ from h.zoomMax,
      h.initial, h.max]
    rfl

theorem prefer_of_ok {α : Type} (given : Option α) {value : Except Settings.Error α} {a : α}
    (h : value = .ok a)
    : prefer given value = .ok (given.getD a) := by
  cases given with
  | some a => rfl
  | none => exact h

theorem accepts_iff : Accepts lookup ↔ ∃ s, Settings.ofLookup lookup = .ok s := by
  simp only [Accepts, Settings.ofLookup_eq_ok_iff, read_eq_ok_iff]

theorem Effective.override (o : Options) (h : Effective none lookup s)
    : o.Effective lookup ((o.withEnvironment lookup).override s) where
  serverUrl := by
    show (o.url <|> lookup "TOPO_SERVER_URL").getD s.serverUrl = _
    rw [h.serverUrl]
    cases o.url <;> cases lookup "TOPO_SERVER_URL" <;> rfl
  map := by
    show (o.map <|> lookup "TOPO_MAP").getD s.map = _
    rw [h.map]
    cases o.map <;> cases lookup "TOPO_MAP" <;> rfl
  zoomMin := prefer_of_ok o.zoomMin h.zoomMin
  zoomMax := prefer_of_ok o.zoomMax h.zoomMax
  initial := h.initial
  max := h.max

theorem settings_of_error {e : Settings.Error} (o : Options)
    (h : Settings.ofLookup lookup = .error e)
    : o.settings lookup = .error e := by
  unfold settings
  rw [h]
  rfl

theorem settings_of_ok (o : Options) (h : Settings.ofLookup lookup = .ok s)
    : o.settings lookup
        =
      (do
        ((o.withEnvironment lookup).override s).validate
        .ok ((o.withEnvironment lookup).override s)) := by
  unfold settings
  rw [h]
  rfl

theorem settings_eq_ok_iff (o : Options)
    : o.settings lookup = .ok s
        ↔ Accepts lookup ∧ o.Effective lookup s ∧ s.validate = .ok () := by
  rw [accepts_iff]
  cases hfound : Settings.ofLookup lookup with
  | error e =>
    rw [settings_of_error o hfound]
    constructor
    . intro h
      contradiction
    . rintro ⟨⟨_, h⟩, -⟩
      contradiction
  | ok found =>
    have heffective : o.Effective lookup ((o.withEnvironment lookup).override found) :=
      (read_eq_ok_iff.1 (Settings.ofLookup_eq_ok_iff.1 hfound).1).override o
    rw [settings_of_ok o hfound, Settings.checked_eq_ok_iff]
    constructor
    . rintro ⟨rfl, hvalid⟩
      exact ⟨⟨found, rfl⟩, heffective, hvalid⟩
    . rintro ⟨-, h, hvalid⟩
      obtain rfl := h.unique heffective
      exact ⟨rfl, hvalid⟩

/-- Of two environments that are accepted, what is given replaces in both of them the same. -/
theorem settings_congr (hsame : ∀ name, o.replaces name = false → lookup name = lookup' name)
    (haccepts : Accepts lookup) (haccepts' : Accepts lookup')
    : o.settings lookup = o.settings lookup' := by
  obtain ⟨found, hfound⟩ := accepts_iff.1 haccepts
  obtain ⟨found', hfound'⟩ := accepts_iff.1 haccepts'
  have heffective := (read_eq_ok_iff.1 (Settings.ofLookup_eq_ok_iff.1 hfound).1).override o
  have heffective' := (read_eq_ok_iff.1 (Settings.ofLookup_eq_ok_iff.1 hfound').1).override o
  rw [settings_of_ok o hfound, settings_of_ok o hfound', (heffective.congr hsame).unique heffective']

/--
Settings are those that are in effect, if they are valid. But an environment that is refused is
refused whatever is given, even if what is given replaces all that is wrong with it.
-/
theorem settings_outcome (o : Options) (lookup : Settings.Lookup)
    : (∀ s, o.settings lookup = .ok s
          ↔ Accepts lookup ∧ o.Effective lookup s ∧ s.validate = .ok ())
        ∧ (∀ e, Settings.ofLookup lookup = .error e → o.settings lookup = .error e)
        ∧ ∀ lookup', (∀ name, o.replaces name = false → lookup name = lookup' name) →
          Accepts lookup → Accepts lookup' → o.settings lookup = o.settings lookup' := by
  refine ⟨?accepted, ?refused, ?replaced⟩
  case accepted =>
    intro s
    apply settings_eq_ok_iff
  case refused =>
    intro e
    apply settings_of_error
  case replaced =>
    intro lookup' hsame haccepts haccepts'
    apply settings_congr hsame haccepts haccepts'

/-- An environment with a server address that is not valid. -/
def badAddress : Settings.Lookup
  | "TOPO_SERVER_URL" => some "http://x"
  | _ => .none

/-- A valid address that is given does not help when the one in its place is not valid. -/
theorem not_settings_badAddress
    : Effective { none with url := some "ws://a" } badAddress
          { Settings.default with serverUrl := "ws://a" }
        ∧ { Settings.default with serverUrl := "ws://a" }.validate = .ok ()
        ∧ settings { none with url := some "ws://a" } badAddress = .error (.url "http://x") := by
  have hzoom : Settings.isZoom Settings.default.zoomMin Settings.default.zoomMax = true := by
    decide +kernel
  refine ⟨⟨rfl, rfl, rfl, rfl, rfl, rfl⟩, ?_, settings_of_error _ rfl⟩
  unfold Settings.validate
  simp only [hzoom]
  rfl

end Options

end LiveTopology
