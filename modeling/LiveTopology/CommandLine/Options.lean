import LiveTopology.Settings

/-!
This module contains the options of the program, how its arguments are read, and the settings that
follow from them and from the environment.
-/

namespace LiveTopology

structure Options where
  url : Option String
  map : Option String
  zoomMin : Option Float
  zoomMax : Option Float
  noReconnect : Bool
  deriving DecidableEq, Repr

namespace Options

inductive Usage where
  | help
  | unknownArgument
  | noValue
  | badValue
  | extraValue
  | twice
  deriving DecidableEq, Repr

inductive Name where
  | url
  | map
  | zoomMin
  | zoomMax
  deriving DecidableEq, Repr

def none : Options :=
  ⟨.none, .none, .none, .none, false⟩

def name? : String → Option Name
  | "url" => some .url
  | "map" => some .map
  | "zoom-min" => some .zoomMin
  | "zoom-max" => some .zoomMax
  | _ => .none

def isGiven (o : Options) : Name → Bool
  | .url => o.url.isSome
  | .map => o.map.isSome
  | .zoomMin => o.zoomMin.isSome
  | .zoomMax => o.zoomMax.isSome

def number (value : String) (set : Float → Options) : Except Usage Options :=
  match Decimal.parseFloat? value with
  | .none => .error .badValue
  | some x => .ok (set x)

def give (o : Options) (name : Name) (value : String) : Except Usage Options :=
  if o.isGiven name then .error .twice
  else
    match name with
    | .url => .ok { o with url := some value }
    | .map => .ok { o with map := some value }
    | .zoomMin => number value fun x => { o with zoomMin := some x }
    | .zoomMax => number value fun x => { o with zoomMax := some x }

structure Progress where
  options : Options
  /-- The option that was named last, with its value if that was given. It is not set yet. -/
  waiting : Option (Name × Option String)
  /-- Whether what follows can no longer be an option. -/
  trailing : Bool

def Progress.settle (p : Progress) : Except Usage Options :=
  match p.waiting with
  | .none => .ok p.options
  | some (_, .none) => .error .noValue
  | some (name, some value) => p.options.give name value

def Progress.long (p : Progress) (name : List Char) (value : Option String)
    : Except Usage Progress :=
  match String.ofList name, value with
  | "help", .none => do
    let _ ← p.settle
    .error .help
  | "no-reconnect", .none => do
    let o ← p.settle
    if o.noReconnect then .error .twice
    else .ok { p with options := { o with noReconnect := true }, waiting := .none }
  | "help", some _ | "no-reconnect", some _ => .error .extraValue
  | name, value =>
    match name? name with
    | .none => .error .unknownArgument
    | some name => do
      let o ← p.settle
      match value with
      | .none => .ok { p with options := o, waiting := some (name, .none) }
      | some value => .ok { p with options := ← o.give name value, waiting := .none }

/-- Reads one argument. An option that is unknown is reported before all that was still to be set. -/
def Progress.step (p : Progress) (arg : String) : Except Usage Progress :=
  if p.trailing then .error .unknownArgument
  else
    match arg.toList with
    | ['-', '-'] => .ok { p with trailing := true }
    | '-' :: '-' :: cs =>
      match cs.dropWhile (· ≠ '=') with
      | [] => p.long cs .none
      | _ :: value => p.long (cs.takeWhile (· ≠ '=')) (some (String.ofList value))
    | '-' :: 'h' :: _ => do
      let _ ← p.settle
      .error .help
    | '-' :: _ :: _ => .error .unknownArgument
    | _ =>
      match p.waiting with
      | some (name, .none) => .ok { p with waiting := some (name, some arg) }
      | _ => .error .unknownArgument

def parse (args : List String) : Except Usage Options := do
  let p ← args.foldlM Progress.step ⟨none, .none, false⟩
  p.settle

/-- The options, where the environment stands in for an address and a map that are not given. -/
def withEnvironment (o : Options) (lookup : Settings.Lookup) : Options :=
  { o with
    url := o.url <|> lookup "TOPO_SERVER_URL"
    map := o.map <|> lookup "TOPO_MAP" }

/-- Settings with the given options in the place of their own values. -/
def override (o : Options) (s : Settings) : Settings :=
  { s with
    serverUrl := o.url.getD s.serverUrl
    map := o.map.getD s.map
    zoomMin := o.zoomMin.getD s.zoomMin
    zoomMax := o.zoomMax.getD s.zoomMax }

/-- The settings that follow from the environment and the options. Both are checked. -/
def settings (o : Options) (lookup : Settings.Lookup) : Except Settings.Error Settings := do
  let s := (o.withEnvironment lookup).override (← Settings.ofLookup lookup)
  s.validate
  .ok s

end Options

end LiveTopology
