import LiveTopology.Command
import LiveTopology.View

/-!
This module contains what a line on the console does to a view.
-/

namespace LiveTopology.View

variable {η : Type}

def status (v : View η) : Log.Record :=
  let write := Decimal.Layout.marked.write
  let t := v.controller.transform
  .info "status"
    [("state", v.subscription.phase.text), ("last_error", Text.quoteOption v.lastError),
      ("translate_x", write t.translateX), ("translate_y", write t.translateY),
      ("scale", write t.scale), ("devices", toString (v.board.model.count .device)),
      ("links", toString (v.board.model.count .link)),
      ("hosts", toString (v.board.model.count .host)),
      ("instances", toString (v.board.model.count .controller)),
      ("revision", toString v.board.model.revision), ("dispatched", toString v.counts.1),
      ("dropped", toString v.counts.2)]

def obey (v : View η) : Command → View η × List Log.Record
  | .key key =>
    let (bound, v, log) := v.press key
    (v, if bound then log else [.warn "no binding for key" [("key", key)]])
  | .gesture g =>
    let (moved, v) := v.gesture g
    (v, if moved then [] else [.info "gesture ignored; hold alt or meta" []])
  | .status => (v, [v.status])
  | .help =>
    (v, (Keymap.describe v.keymap).map fun (key, description) =>
      .info "key binding" [("key", key), ("description", description)])

def respond (v : View η) (line : String) : View η × List Log.Record :=
  match Command.parse line with
  | .error e => (v, [.warn "bad command" [("error", e.message)]])
  | .ok none => (v, [])
  | .ok (some command) => v.obey command

end LiveTopology.View
