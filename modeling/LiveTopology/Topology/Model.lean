import LiveTopology.Json.Basic
import LiveTopology.Log
import LiveTopology.Topology.Element

/-!
This module contains the topology as far as it is known: the elements of each kind, by their ids, as
the objects that the server has sent, and the summary.
-/

namespace LiveTopology

structure Model where
  controllers : List (String × Json)
  devices : List (String × Json)
  links : List (String × Json)
  hosts : List (String × Json)
  summary : Option Json
  revision : Nat
  deriving DecidableEq, Repr

namespace Model

def empty : Model :=
  ⟨[], [], [], [], none, 0⟩

def elements (m : Model) : ElementKind → List (String × Json)
  | .controller => m.controllers
  | .device => m.devices
  | .link => m.links
  | .host => m.hosts

def setElements (m : Model) (kind : ElementKind) (es : List (String × Json)) : Model :=
  match kind with
  | .controller => { m with controllers := es }
  | .device => { m with devices := es }
  | .link => { m with links := es }
  | .host => { m with hosts := es }

def get? (m : Model) (kind : ElementKind) (id : String) : Option Json :=
  Keyed.get? id (m.elements kind)

def count (m : Model) (kind : ElementKind) : Nat :=
  (m.elements kind).length

def touch (m : Model) : Model :=
  { m with revision := m.revision + 1 }

def put (m : Model) (kind : ElementKind) (id : String) (element : Json) : Model :=
  (m.setElements kind (Keyed.insert id element (m.elements kind))).touch

/-- The id of an element: its member `id`, if that is a string. -/
def idOf? (payload : Json) : Option String :=
  (payload.member? "id").bind Json.string?

def idNotice (kind : ElementKind) : Log.Record :=
  .warn "topo element payload has no string id; ignored" [("kind", kind.word)]

def logOf (kind : ElementKind) (payload : Json) : List Log.Record :=
  if (idOf? payload).isNone then [idNotice kind] else []

/-- Inserts or replaces an element. Says whether it has an id. -/
def upsert (m : Model) (kind : ElementKind) (payload : Json) : Bool × Model :=
  match idOf? payload with
  | none => (false, m)
  | some id => (true, m.put kind id payload)

/-- An object with the members of another one put over its own. What is no object is replaced. -/
def merge (old new : Json) : Json :=
  match old, new with
  | .object members, .object fields =>
    .object (fields.foldl (fun ms (name, value) => Keyed.insert name value ms) members)
  | _, new => new

/-- Merges members into an element, or inserts it. Says whether it has an id. -/
def update (m : Model) (kind : ElementKind) (payload : Json) : Bool × Model :=
  match idOf? payload with
  | none => (false, m)
  | some id =>
    match m.get? kind id with
    | none => (true, m.put kind id payload)
    | some old => (true, m.put kind id (merge old payload))

/-- Removes an element. Says whether it was there. -/
def remove (m : Model) (kind : ElementKind) (payload : Json) : Bool × Model :=
  match idOf? payload with
  | none => (false, m)
  | some id =>
    if (m.get? kind id).isSome then
      (true, (m.setElements kind (Keyed.erase id (m.elements kind))).touch)
    else
      (false, m)

def batchItems (payload : Json) (kind : ElementKind) : List Json :=
  ((payload.member? kind.batchKey).bind Json.items?).getD []

/-- Every element that a batch lists, with its kind. -/
def batch (payload : Json) : List (ElementKind × Json) :=
  ElementKind.all.flatMap fun kind => (batchItems payload kind).map fun item => (kind, item)

/-- Inserts or replaces every element of a batch. Says how many have an id. -/
def applyBatch (m : Model) (payload : Json) : Nat × Model :=
  (batch payload).foldl
    (fun (n, m) (kind, item) =>
      let (applied, m) := m.upsert kind item
      (n + applied.toNat, m))
    (0, m)

def batchLog (payload : Json) : List Log.Record :=
  (batch payload).flatMap fun (kind, item) => logOf kind item

/-- Replaces all elements by those of a batch. The summary stays. -/
def loadSnapshot (m : Model) (payload : Json) : Nat × Model :=
  ({ m with controllers := [], devices := [], links := [], hosts := [] }.touch).applyBatch payload

def setSummary (m : Model) (payload : Json) : Model :=
  { m with summary := some payload }.touch

end Model

end LiveTopology
