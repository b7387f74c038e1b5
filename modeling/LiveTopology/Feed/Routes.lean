import LiveTopology.Feed.EventKind
import LiveTopology.Frame.Basic

/-!
This module contains the tables that say which handler an event goes to, and the dispatchers that
use such a table and count the frames that it has a handler for.
-/

namespace LiveTopology

/-- Handlers by kinds of events, in increasing order of the tags. -/
structure Routes (η : Type) where
  entries : List (EventKind × η)
  deriving DecidableEq, Repr

namespace Routes

variable {η : Type}

def empty : Routes η := ⟨[]⟩

/-- Registers a handler in the place of an earlier one for the same kind. -/
def insert (r : Routes η) (kind : EventKind) (handler : η) : Routes η :=
  ⟨go r.entries⟩
where
  go : List (EventKind × η) → List (EventKind × η)
    | [] => [(kind, handler)]
    | (k, h) :: rest =>
      if k = kind then (kind, handler) :: rest
      else if kind.tag < k.tag then (kind, handler) :: (k, h) :: rest
      else (k, h) :: go rest

def ofList (pairs : List (EventKind × η)) : Routes η :=
  pairs.foldl (fun r (kind, handler) => r.insert kind handler) empty

def handler? (r : Routes η) (kind : EventKind) : Option η :=
  (r.entries.find? fun (k, _) => k = kind).map Prod.snd

def contains (r : Routes η) (kind : EventKind) : Bool :=
  (r.handler? kind).isSome

def size (r : Routes η) : Nat :=
  r.entries.length

def kinds (r : Routes η) : List EventKind :=
  r.entries.map Prod.fst

def text (r : Routes η) : String :=
  "DispatchTable \x7b kinds: [" ++ ", ".intercalate (r.kinds.map EventKind.text) ++ "] \x7d"

end Routes

/-- A number of events, which stays at its greatest value once it is reached. -/
def Count.bump (n : Nat) : Nat :=
  min (n + 1) (UInt64.size - 1)

/-- A table in use, with how many frames it had a handler for and how many not. -/
structure Dispatcher (η : Type) where
  routes : Routes η
  dispatched : Nat
  dropped : Nat
  deriving DecidableEq, Repr

namespace Dispatcher

variable {η : Type}

def bind (routes : Routes η) : Dispatcher η :=
  ⟨routes, 0, 0⟩

def handler? (d : Dispatcher η) (frame : Frame) : Option η :=
  d.routes.handler? (.ofTag frame.event)

def count (d : Dispatcher η) (frame : Frame) : Dispatcher η :=
  match d.handler? frame with
  | some _ => { d with dispatched := Count.bump d.dispatched }
  | none => { d with dropped := Count.bump d.dropped }

end Dispatcher

end LiveTopology
