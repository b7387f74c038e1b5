import LiveTopology.Json.Printer
import LiveTopology.Log
import LiveTopology.Text.Quoted

/-!
This module contains the floating panels of a host, and the part of them that one view has created
and takes away again.
-/

namespace LiveTopology

structure Panel where
  visible : Bool
  content : Json
  deriving DecidableEq, Repr

/-- The panels that there are, by name, and how many were ever created. -/
structure PanelHost where
  panels : List (String × Panel)
  created : Nat
  deriving DecidableEq, Repr

namespace PanelHost

def empty : PanelHost :=
  ⟨[], 0⟩

def panel? (h : PanelHost) (name : String) : Option Panel :=
  Keyed.get? name h.panels

def has (h : PanelHost) (name : String) : Bool :=
  Keyed.contains name h.panels

/-- Puts a new panel, hidden and without content, in the place of any other of that name. -/
def create (h : PanelHost) (name : String) : PanelHost :=
  ⟨Keyed.insert name ⟨false, .null⟩ h.panels, h.created + 1⟩

def setContent (h : PanelHost) (name : String) (content : Json) : PanelHost :=
  { h with panels := Keyed.modify name (fun p => { p with content }) h.panels }

def reveal (h : PanelHost) (name : String) : PanelHost × List Log.Record :=
  ({ h with panels := Keyed.modify name (fun p => { p with visible := true }) h.panels },
    (h.panel? name).toList.map fun p =>
      .info "panel shown" [("panel", Text.quote name), ("content", p.content.text)])

def hide (h : PanelHost) (name : String) : PanelHost :=
  { h with panels := Keyed.modify name (fun p => { p with visible := false }) h.panels }

def destroy (h : PanelHost) (name : String) : PanelHost :=
  { h with panels := Keyed.erase name h.panels }

end PanelHost

/-- A host, with the names of the panels on it that one view has created. -/
structure Panels where
  host : PanelHost
  owned : List String
  deriving DecidableEq, Repr

namespace Panels

def on (host : PanelHost) : Panels :=
  ⟨host, []⟩

def owns (p : Panels) (name : String) : Bool :=
  p.owned.contains name

/-- Creates a panel unless it is owned. Says whether it was created. -/
def ensure (p : Panels) (name : String) : Bool × Panels :=
  if p.owns name then (false, p) else (true, ⟨p.host.create name, p.owned ++ [name]⟩)

/-- Applies `f` to the host if a panel is owned. Says whether it is. -/
def act (p : Panels) (name : String) (f : PanelHost → PanelHost × List Log.Record)
    : Bool × Panels × List Log.Record :=
  if p.owns name then
    let (host, log) := f p.host
    (true, { p with host }, log)
  else
    (false, p, [])

/-- Destroys what is owned. Says how many panels that were. -/
def release (p : Panels) : Nat × Panels :=
  (p.owned.length, ⟨p.owned.foldl PanelHost.destroy p.host, []⟩)

end Panels

end LiveTopology
