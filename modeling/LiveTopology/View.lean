import LiveTopology.Feed.Subscription
import LiveTopology.Scene.Keymap
import LiveTopology.Scene.Layer
import LiveTopology.Settings
import LiveTopology.Topology.Board
import LiveTopology.Viewport.Controller

/-!
This module contains the view of a topology over its whole life: a scene that is shifted and scaled
by gestures and keys, and a subscription to the feed that keeps the topology and its summary panel.
-/

namespace LiveTopology

inductive KeyAction where
  | resetZoom
  | logWarning
  | logError
  deriving DecidableEq, Repr

structure ViewLayers where
  defs : Nat
  zoom : Nat
  map : Nat
  deriving DecidableEq, Repr

/-- The handlers of a view's own table, and those of tables that others put in its place. -/
inductive Handler (η : Type) where
  | own (reaction : Reaction)
  | foreign (handler : η)
  deriving DecidableEq, Repr

structure View (η : Type) where
  scene : Scene
  keymap : Keymap KeyAction
  layers : ViewLayers
  controller : Controller Float Scene
  subscription : Subscription (Handler η)
  board : Board
  tornDown : Bool
  /-- Whether the view itself is gone, and only what it was shown on is left. -/
  dropped : Bool

/-- The width of the outlines of a map, in pixels on the screen. -/
def mapStroke : Float := 2.0

namespace View

variable {η : Type}

def routes : Routes (Handler η) :=
  ⟨Board.routes.entries.map fun (kind, reaction) => (kind, .own reaction)⟩

def bindings : Keymap KeyAction :=
  [⟨"R", "Reset pan / zoom", .resetZoom⟩, ⟨"W", "Log a warning", .logWarning⟩,
    ⟨"E", "Log an error", .logError⟩]

/-- The width that outlines need in the world to be seen with the same width at every scale. -/
def stroke (t : Transform Float) : String :=
  Decimal.Layout.full.write (t.compensate mapStroke) ++ "px"

def applyTransform (layers : ViewLayers) (t : Transform Float) (s : Scene) : Scene :=
  (s.setTransform layers.zoom t).setStyle layers.map "stroke-width" (stroke t)

def addLayers (s : Scene) (map : String) : ViewLayers × Scene × List Log.Record :=
  let (defs, s) := s.append Scene.root "defs"
  let s := s.loadGlyphs defs
  let (zoomLayer, s) := s.append Scene.root "topo-zoomlayer"
  let (mapLayer, s) := s.append zoomLayer "topo-map"
  let (s, log) := s.loadMap mapLayer map
  (⟨defs, zoomLayer, mapLayer⟩, s, log)

/-- Lets a notice have its effect on the board. Others see the log and the calls of their handlers. -/
def absorb (b : Board) : Notice (Handler η) → Board × List (Effect η)
  | .called (.own reaction) payload =>
    let (b, log) := b.react reaction payload
    (b, log.map .log)
  | .called (.foreign handler) payload => (b, [.call handler payload])
  | notice => (b, notice.log.map .log)

def absorbAll (b : Board) : List (Notice (Handler η)) → Board × List (Effect η)
  | [] => (b, [])
  | notice :: notices =>
    let (b, first) := absorb b notice
    let (b, rest) := absorbAll b notices
    (b, first ++ rest)

def withSubscription (v : View η)
    (change : Subscription (Handler η) × List (Notice (Handler η))) : View η × List (Effect η) :=
  let (board, effects) := absorbAll v.board change.2
  ({ v with subscription := change.1, board }, effects)

/-- Builds a view on an empty scene and a host of panels, and opens the feed. -/
def activate (settings : Settings) (host : PanelHost) : View η × List (Effect η) :=
  let (layers, scene, mapLog) := addLayers .empty settings.map
  let (subscription, _) := Subscription.fresh.bind routes
  let view : View η :=
    { scene := applyTransform layers .identity scene
      keymap := bindings
      layers
      controller := .start settings.extent Gesture.isHeld (applyTransform layers)
      subscription
      board := .on host
      tornDown := false
      dropped := false }
  let (view, effects) := view.withSubscription subscription.openSock
  (view, mapLog.map .log ++ effects
    ++ [.log (.info "topology view activated"
      [("map", settings.map), ("kinds", toString (routes (η := η)).kinds.length)])])

def gesture (v : View η) (g : Gesture Float) : Bool × View η :=
  let (moved, controller, scene) := v.controller.gesture g v.scene
  (moved, { v with controller, scene })

def resetZoom (v : View η) : View η :=
  let (controller, scene) := v.controller.reset v.scene
  { v with controller, scene }

/-- Presses a key. Says whether it is bound. A view that is gone cannot be moved. -/
def press (v : View η) (key : String) : Bool × View η × List Log.Record :=
  match v.keymap.press key with
  | none => (false, v, [])
  | some .resetZoom => (true, if v.dropped then v else v.resetZoom, [])
  | some .logWarning => (true, v, [.warn "topology view: diagnostic warning" []])
  | some .logError => (true, v, [.error "topology view: diagnostic error" []])

def lastError (v : View η) : Option String :=
  v.subscription.lastError.map LinkError.message

/-- How many frames the view's own table had a handler for and how many not. -/
def counts (v : View η) : Nat × Nat :=
  match v.subscription.tables.head? with
  | none => (0, 0)
  | some table => (table.dispatched, table.dropped)

/-- Opens the feed again, unless the view is torn down. -/
def recover (v : View η) : View η × List (Effect η) :=
  if v.tornDown then
    (v, [.log (.warn "recover ignored; view torn down" [("view_id", "*")])])
  else
    let (v', effects) := v.withSubscription v.subscription.openSock
    (v', .log (.info "recovering topo event channel"
      [("last_error", Text.quoteOption v.lastError)]) :: effects)

/-- Gives up the feed and takes away the view's panels. -/
def teardown (v : View η) : View η × List (Effect η) :=
  if v.tornDown then
    (v, [])
  else
    let (v, effects) := { v with tornDown := true }.withSubscription v.subscription.closeSock
    let (destroyed, panels) := v.board.panels.release
    let v := { v with board := { v.board with panels } }
    (v, effects ++ [.log (.info "topology view torn down"
      [("destroyed", toString destroyed), ("dispatched", toString v.counts.1),
        ("dropped", toString v.counts.2)])])

def drop (v : View η) : View η × List (Effect η) :=
  let (v, first) := v.teardown
  let (v, rest) := v.withSubscription v.subscription.drop
  ({ v with dropped := true }, first ++ rest)

/-! What the owner of a view does with its subscription. -/

def bind (v : View η) (routes : Routes η) : View η × List (Effect η) :=
  v.withSubscription
    (v.subscription.bind ⟨routes.entries.map fun (kind, handler) => (kind, .foreign handler)⟩)

def openSock (v : View η) : View η × List (Effect η) :=
  v.withSubscription v.subscription.openSock

def closeSock (v : View η) : View η × List (Effect η) :=
  v.withSubscription v.subscription.closeSock

def pump (v : View η) : Nat × View η × List (Effect η) :=
  let (handled, change) := v.subscription.pump
  (handled, v.withSubscription change)

def next (v : View η) : Bool × View η × List (Effect η) :=
  let (handled, change) := v.subscription.next
  (handled, v.withSubscription change)

def send (v : View η) (link : Nat) (event : LinkEvent) : Bool × View η :=
  let (taken, subscription) := v.subscription.send link event
  (taken, { v with subscription })

def onHost (v : View η) (f : PanelHost → PanelHost) : View η :=
  { v with board := { v.board with panels := { v.board.panels with host := f v.board.panels.host } } }

end View

end LiveTopology
