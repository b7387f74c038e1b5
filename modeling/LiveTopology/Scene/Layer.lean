import LiveTopology.Log
import LiveTopology.Text.Quoted
import LiveTopology.Viewport.Transform

/-!
This module contains the scene that a view is drawn in: a tree of layers, kept in the order in which
they were appended. A layer is named by its place in that order.
-/

namespace LiveTopology

structure Layer where
  name : String
  /-- The layer that it was appended to. Only the root has none. -/
  parent : Option Nat
  styles : List (String × String)
  transform : Option (Transform Float)
  deriving DecidableEq, Repr

structure Scene where
  layers : List Layer
  glyphLoads : Nat
  /-- The maps that were loaded, each with the layer that it was loaded into. -/
  maps : List (Nat × String)
  deriving DecidableEq, Repr

namespace Scene

def empty : Scene where
  layers := [⟨"svg", none, [], none⟩]
  glyphLoads := 0
  maps := []

def root : Nat := 0

def append (s : Scene) (parent : Nat) (name : String) : Nat × Scene :=
  (s.layers.length, { s with layers := s.layers ++ [⟨name, some parent, [], none⟩] })

def setStyle (s : Scene) (layer : Nat) (property value : String) : Scene :=
  { s with layers := s.layers.modify layer fun l =>
      { l with styles := Keyed.insert property value l.styles } }

def setTransform (s : Scene) (layer : Nat) (t : Transform Float) : Scene :=
  { s with layers := s.layers.modify layer fun l => { l with transform := some t } }

def style? (s : Scene) (layer : Nat) (property : String) : Option String :=
  s.layers[layer]?.bind fun l => Keyed.get? property l.styles

def find? (s : Scene) (name : String) : Option Nat :=
  s.layers.findIdx? fun l => l.name = name

def children (s : Scene) (parent : Nat) : List Nat :=
  (List.range s.layers.length).filter fun i => (s.layers[i]?.bind Layer.parent) = some parent

def glyphs : List String :=
  ["unknown", "node", "switch", "roadm", "router", "endstation", "bgpSpeaker", "uiAttached", "bird"]

def loadGlyphs (s : Scene) (layer : Nat) : Scene :=
  let s := glyphs.foldl (fun s glyph => (s.append layer glyph).2) s
  { s with glyphLoads := s.glyphLoads + 1 }

/-- Appends a layer for a map, which is called what the map is called without leading stars. -/
def loadMap (s : Scene) (layer : Nat) (map : String) : Scene × List Log.Record :=
  let s := (s.append layer (String.ofList (map.toList.dropWhile (· == '*')))).2
  ({ s with maps := s.maps ++ [(layer, map)] },
    [.info "background map loaded" [("map", Text.quote map)]])

end Scene

end LiveTopology
