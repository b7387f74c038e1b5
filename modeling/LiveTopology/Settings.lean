import LiveTopology.Decimal.Layout
import LiveTopology.Decimal.Numeral
import LiveTopology.Text.Blank
import LiveTopology.Viewport.Extent

/-!
This module contains the settings of a view, how they are looked up by name, and what makes them
valid.
-/

namespace LiveTopology

/-- The first and the greatest delay before the feed is opened again, in milliseconds. -/
structure Delays where
  initial : UInt64
  max : UInt64
  deriving DecidableEq, Repr

structure Settings where
  serverUrl : String
  map : String
  zoomMin : Float
  zoomMax : Float
  delays : Delays
  deriving DecidableEq, Repr

namespace Settings

inductive Error where
  | parse (name value : String)
  | url (given : String)
  | zoom (min max : Float)
  | delays (delays : Delays)
  deriving DecidableEq, Repr

def Error.message : Error → String
  | .parse name value => s!"{name}: cannot parse '{value}'"
  | .url given => s!"server url must start with ws:// or wss://, got '{given}'"
  | .zoom min max =>
    let write := Decimal.Layout.full.write
    s!"zoom bounds must satisfy 0 < min <= max, got min={write min} max={write max}"
  | .delays d =>
    s!"reconnect delays must satisfy 0 < initial <= max, got initial={d.initial.toNat}ms max={d.max.toNat}ms"

def default : Settings where
  serverUrl := "ws://127.0.0.1:8181/onos/ui/websock/core"
  map := "*continental_us"
  zoomMin := Extent.defaultMin
  zoomMax := Extent.defaultMax
  delays := ⟨1000, 10000⟩

def isUrl (s : String) : Bool :=
  ['w', 's', ':', '/', '/'].isPrefixOf s.toList
    || ['w', 's', 's', ':', '/', '/'].isPrefixOf s.toList

def isZoom (min max : Float) : Bool :=
  min.isFinite && max.isFinite && 0.0 < min && min ≤ max

def Delays.isValid (d : Delays) : Bool :=
  0 < d.initial && d.initial ≤ d.max

/-- Refuses settings that cannot be used, naming the first reason. -/
def validate (s : Settings) : Except Error Unit :=
  if !isUrl s.serverUrl then .error (.url s.serverUrl)
  else if !isZoom s.zoomMin s.zoomMax then .error (.zoom s.zoomMin s.zoomMax)
  else if !Delays.isValid s.delays then .error (.delays s.delays)
  else .ok ()

abbrev Lookup := String → Option String

/-- The value of a setting that is parsed, or the default if it is not given. -/
def parsed (lookup : Lookup) (name : String) (parse? : String → Option α) (default : α)
    : Except Error α :=
  match lookup name with
  | none => .ok default
  | some value =>
    match parse? (Text.trim value) with
    | none => .error (.parse name value)
    | some a => .ok a

/-- The settings that are looked up, valid or not. -/
def read (lookup : Lookup) : Except Error Settings := do
  let zoomMin ← parsed lookup "TOPO_ZOOM_MIN" Decimal.parseFloat? default.zoomMin
  let zoomMax ← parsed lookup "TOPO_ZOOM_MAX" Decimal.parseFloat? default.zoomMax
  let initial ←
    parsed lookup "TOPO_RECONNECT_INITIAL_MS" Decimal.parseWord? default.delays.initial
  let max ← parsed lookup "TOPO_RECONNECT_MAX_MS" Decimal.parseWord? default.delays.max
  .ok {
    serverUrl := (lookup "TOPO_SERVER_URL").getD default.serverUrl
    map := (lookup "TOPO_MAP").getD default.map
    zoomMin
    zoomMax
    delays := ⟨initial, max⟩ }

def ofLookup (lookup : Lookup) : Except Error Settings := do
  let s ← read lookup
  s.validate
  .ok s

def extent (s : Settings) : Extent Float :=
  .of s.zoomMin s.zoomMax

end Settings

end LiveTopology
