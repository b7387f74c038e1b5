/-!
This module contains values kept under text keys, as a list of pairs in increasing order of the
keys. Texts are ordered by their characters' code points.
-/

namespace LiveTopology

abbrev Keyed (α : Type) := List (String × α)

namespace Keyed

variable {α : Type}

/-- The first value kept under `key`. -/
def get? (key : String) : List (String × α) → Option α
  | [] => none
  | (k, v) :: rest => if key = k then some v else get? key rest

/-- Puts `value` under `key`, in the place of what was there. -/
def insert (key : String) (value : α) : List (String × α) → List (String × α)
  | [] => [(key, value)]
  | (k, v) :: rest =>
    if key < k then (key, value) :: (k, v) :: rest
    else if key = k then (key, value) :: rest
    else (k, v) :: insert key value rest

def erase (key : String) (m : List (String × α)) : List (String × α) :=
  m.filter fun (k, _) => k ≠ key

def modify (key : String) (f : α → α) (m : List (String × α)) : List (String × α) :=
  m.map fun (k, v) => if k = key then (k, f v) else (k, v)

def contains (key : String) (m : List (String × α)) : Bool :=
  (get? key m).isSome

/-- Puts pair after pair into the order, so that of two values under one key the last one stays. -/
def ofList (pairs : List (String × α)) : List (String × α) :=
  pairs.foldl (fun m (k, v) => insert k v m) []

def Sorted (m : List (String × α)) : Prop :=
  m.Pairwise fun a b => a.1 < b.1

@[simp]
theorem get?_insert_self (key : String) (value : α) (m : List (String × α))
    : get? key (insert key value m) = some value := by
  induction m with
  | nil => simp [insert, get?]
  | cons kv m ih => grind [insert, get?]

theorem get?_insert_of_ne {key other : String} (h : other ≠ key) (value : α) (m : List (String × α))
    : get? other (insert key value m) = get? other m := by
  induction m with
  | nil => simp [insert, get?, h]
  | cons kv m ih => grind [insert, get?]

@[simp]
theorem get?_erase_self (key : String) (m : List (String × α)) : get? key (erase key m) = none := by
  induction m with
  | nil => rfl
  | cons kv m ih => grind [erase, get?]

theorem get?_erase_of_ne {key other : String} (h : other ≠ key) (m : List (String × α))
    : get? other (erase key m) = get? other m := by
  induction m with
  | nil => rfl
  | cons kv m ih => grind [erase, get?]

theorem mem_insert {key : String} {value : α} {m : List (String × α)} {p : String × α}
    (h : p ∈ insert key value m) : p = (key, value) ∨ p ∈ m := by
  induction m with
  | nil => simpa [insert] using h
  | cons kv m ih => grind [insert]

theorem sorted_insert {m : List (String × α)} (h : Sorted m) (key : String) (value : α)
    : Sorted (insert key value m) := by
  induction m with
  | nil => simp [insert, Sorted]
  | cons kv m ih =>
    obtain ⟨k, v⟩ := kv
    obtain ⟨hk, hm⟩ := List.pairwise_cons.1 h
    unfold insert
    split
    . next hlt =>
      refine List.pairwise_cons.2 ⟨fun p hp => ?_, h⟩
      rcases List.mem_cons.1 hp with rfl | hp
      . exact hlt
      . exact String.lt_trans hlt (hk p hp)
    . split
      . next heq =>
        subst heq
        exact List.pairwise_cons.2 ⟨hk, hm⟩
      . next hlt hne =>
        refine List.pairwise_cons.2 ⟨fun p hp => ?_, ih hm⟩
        rcases mem_insert hp with rfl | hp
        . exact Decidable.byContradiction fun hnot =>
            hne (String.le_antisymm (String.not_lt.1 hnot) (String.not_lt.1 hlt))
        . exact hk p hp

end Keyed

end LiveTopology
