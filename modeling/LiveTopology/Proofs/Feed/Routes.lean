import LiveTopology.Feed.Notice

/-!
This module contains lemmas about which handler a table gives for a kind of events, and about which
kind of events a tag stands for.
-/

namespace LiveTopology

namespace EventKind

theorem mem_known_of_isKnown {kind : EventKind} (h : kind.isKnown = true) : kind ∈ known := by
  cases kind with
  | other tag => contradiction
  | element change kind => cases change <;> cases kind <;> decide
  | _ => decide

theorem ofTag_tag {kind : EventKind} (h : kind.isKnown = true) : ofTag kind.tag = kind := by
  have hall : ∀ k ∈ known, ofTag k.tag = k := by decide
  apply hall
  apply mem_known_of_isKnown h

theorem eq_tag_iff (kind : EventKind) (h : kind.isKnown = true) (t : String)
    : t = kind.tag ↔ ofTag t = kind := by
  constructor
  . intro heq
    rw [heq, ofTag_tag h]
  . intro heq
    rw [← heq, tag_ofTag]

end EventKind

namespace Routes

variable {η : Type}

theorem find?_insert_go (kind other : EventKind) (handler : η) (entries : List (EventKind × η))
    : ((insert.go kind handler entries).find? fun (k, _) => k = other).map Prod.snd
        =
      if other = kind then some handler else (entries.find? fun (k, _) => k = other).map Prod.snd := by
  induction entries with
  | nil =>
    by_cases heq : other = kind
    . simp [insert.go, heq]
    . simp [insert.go, heq, Ne.symm heq]
  | cons entry rest ih => grind [insert.go]

theorem handler?_insert (r : Routes η) (kind other : EventKind) (handler : η)
    : (r.insert kind handler).handler? other
        =
      if other = kind then some handler else r.handler? other := by
  unfold handler? insert
  apply find?_insert_go

theorem handler?_foldl_insert (pairs : List (EventKind × η)) (r : Routes η) (kind : EventKind)
    : (pairs.foldl (fun r (kind, handler) => r.insert kind handler) r).handler? kind
        =
      ((pairs.findRev? fun (k, _) => k = kind).map Prod.snd).or (r.handler? kind) := by
  induction pairs generalizing r with
  | nil => rfl
  | cons pair rest ih =>
    rw [List.foldl_cons, ih, handler?_insert]
    simp only [List.findRev?]
    cases rest.findRev? (fun (k, _) => k = kind) with
    | some pair => rfl
    | none =>
      by_cases heq : kind = pair.1
      . simp [heq]
      . simp [heq, Ne.symm heq]

theorem handler?_ofList (pairs : List (EventKind × η)) (kind : EventKind)
    : (ofList pairs).handler? kind = (pairs.findRev? fun (k, _) => k = kind).map Prod.snd := by
  unfold ofList
  rw [handler?_foldl_insert]
  apply Option.or_none

end Routes

namespace Dispatcher

variable {η : Type}

@[simp]
theorem routes_count (d : Dispatcher η) (frame : Frame) : (d.count frame).routes = d.routes := by
  unfold count
  split <;> rfl

end Dispatcher

end LiveTopology
