import LiveTopology.Keyed

/-!
This module contains lemmas about values kept under text keys in increasing order of the keys.
-/

namespace LiveTopology

namespace Keyed

variable {α : Type}

theorem get?_eq_none_of_forall_ne {key : String} {m : List (String × α)}
    (h : ∀ p ∈ m, key ≠ p.1) : get? key m = none := by
  induction m with
  | nil => rfl
  | cons kv m ih =>
    unfold get?
    rw [if_neg (h kv List.mem_cons_self)]
    apply ih
    intro p hp
    apply h p (List.mem_cons_of_mem kv hp)

theorem insert_of_forall_lt {key : String} {m : List (String × α)} (h : ∀ p ∈ m, p.1 < key)
    (value : α) : insert key value m = m ++ [(key, value)] := by
  induction m with
  | nil => rfl
  | cons kv m ih =>
    have hlt : kv.1 < key := h kv List.mem_cons_self
    unfold insert
    rw [if_neg (String.lt_asymm hlt), if_neg (Ne.symm (String.ne_of_lt hlt)), ih]
    . rfl
    . intro p hp
      apply h p (List.mem_cons_of_mem kv hp)

theorem ofList_eq_self {m : List (String × α)} (h : Sorted m) : ofList m = m := by
  have hfold (m' : List (String × α)) : ∀ before : List (String × α), Sorted (before ++ m') →
      m'.foldl (fun m p => insert p.1 p.2 m) before = before ++ m' := by
    induction m' with
    | nil => simp
    | cons kv m' ih =>
      intro before hsorted
      have hlast : insert kv.1 kv.2 before = before ++ [kv] := by
        apply insert_of_forall_lt
        intro p hp
        apply (List.pairwise_append.1 hsorted).2.2 p hp kv List.mem_cons_self
      rw [List.append_cons, ← ih (before ++ [kv]) (by rwa [List.append_assoc]), ← hlast]
      rfl
  apply hfold m [] h

theorem sorted_ofList (pairs : List (String × α)) : Sorted (ofList pairs) := by
  have hfold (pairs : List (String × α)) : ∀ m : List (String × α), Sorted m →
      Sorted (pairs.foldl (fun m p => insert p.1 p.2 m) m) := by
    induction pairs with
    | nil => exact fun m hm => hm
    | cons pair pairs ih =>
      intro m hm
      apply ih
      apply sorted_insert hm
  apply hfold pairs [] List.Pairwise.nil

theorem mem_of_mem_ofList {pairs : List (String × α)} {p : String × α} (h : p ∈ ofList pairs)
    : p ∈ pairs := by
  have hfold (pairs : List (String × α)) : ∀ m : List (String × α),
      p ∈ pairs.foldl (fun m p => insert p.1 p.2 m) m → p ∈ m ∨ p ∈ pairs := by
    induction pairs with
    | nil => exact fun m hp => .inl hp
    | cons pair pairs ih =>
      intro m hp
      rcases ih _ hp with hp | hp
      . rcases mem_insert hp with hp | hp
        . exact .inr (hp ▸ List.mem_cons_self)
        . exact .inl hp
      . exact .inr (List.mem_cons_of_mem _ hp)
  simpa using hfold pairs [] h

theorem sorted_erase {m : List (String × α)} (h : Sorted m) (key : String)
    : Sorted (erase key m) := by
  unfold erase
  apply h.filter

theorem get?_modify (key other : String) (f : α → α) (m : List (String × α))
    : get? other (modify key f m) = (get? other m).map fun v => if other = key then f v else v := by
  induction m with
  | nil => rfl
  | cons kv m ih => grind [modify, get?]

theorem get?_eq_none_of_lt {key : String} {value : α} {m : List (String × α)}
    (h : Sorted ((key, value) :: m)) {other : String} (hother : other < key ∨ other = key)
    : get? other m = none := by
  obtain ⟨hfirst, -⟩ := List.pairwise_cons.1 h
  apply get?_eq_none_of_forall_ne
  intro p hp
  apply String.ne_of_lt
  cases hother with
  | inl hlt => exact String.lt_trans hlt (hfirst p hp)
  | inr heq => exact heq ▸ hfirst p hp

/-- Values in order are known by what is kept under each key. -/
theorem ext_of_sorted {m m' : List (String × α)} (hm : Sorted m) (hm' : Sorted m')
    (h : ∀ key, get? key m = get? key m') : m = m' := by
  induction m generalizing m' with
  | nil =>
    cases m' with
    | nil => rfl
    | cons kv m' =>
      have := h kv.1
      simp [get?] at this
  | cons kv m ih =>
    cases m' with
    | nil =>
      have := h kv.1
      simp [get?] at this
    | cons kv' m' =>
      -- Of two different first keys, the lesser one is kept in one of the lists only.
      have hkey : kv.1 = kv'.1 := by
        by_cases hlt : kv.1 < kv'.1
        . have := h kv.1
          have hnone := get?_eq_none_of_lt hm' (.inl hlt)
          simp [get?, String.ne_of_lt hlt, hnone] at this
        . by_cases hlt' : kv'.1 < kv.1
          . have := h kv'.1
            have hnone := get?_eq_none_of_lt hm (.inl hlt')
            simp [get?, String.ne_of_lt hlt', hnone] at this
          . apply String.le_antisymm
            . exact String.not_lt.1 hlt'
            . exact String.not_lt.1 hlt
      have hvalue : kv.2 = kv'.2 := by
        have := h kv.1
        simpa [get?, hkey] using this
      have hrest : m = m' := by
        apply ih (List.pairwise_cons.1 hm).2 (List.pairwise_cons.1 hm').2
        intro key
        by_cases heq : key = kv.1
        . rw [get?_eq_none_of_lt hm (.inr heq), get?_eq_none_of_lt hm' (.inr (heq.trans hkey))]
        . have := h key
          simpa [get?, heq, hkey ▸ heq] using this
      rw [hrest, Prod.ext hkey hvalue]

section MapValues

variable {β : Type} (f : α → β) (key : String) (m : List (String × α))

def mapValues (m : List (String × α)) : List (String × β) :=
  m.map fun p => (p.1, f p.2)

theorem keys_mapValues : (mapValues f m).map Prod.fst = m.map Prod.fst := by
  simp [mapValues]

theorem get?_mapValues : get? key (mapValues f m) = (get? key m).map f := by
  induction m with
  | nil => rfl
  | cons kv m ih =>
    show (if key = kv.1 then some (f kv.2) else get? key (mapValues f m))
      = (if key = kv.1 then some kv.2 else get? key m).map f
    rw [ih]
    split <;> rfl

theorem insert_mapValues (value : α)
    : insert key (f value) (mapValues f m) = mapValues f (insert key value m) := by
  induction m with
  | nil => rfl
  | cons kv m ih =>
    show (if key < kv.1 then (key, f value) :: mapValues f (kv :: m)
        else if key = kv.1 then (key, f value) :: mapValues f m
        else (kv.1, f kv.2) :: insert key (f value) (mapValues f m))
      = mapValues f (if key < kv.1 then (key, value) :: kv :: m
        else if key = kv.1 then (key, value) :: m
        else kv :: insert key value m)
    rw [ih]
    split
    . rfl
    . split <;> rfl

theorem erase_mapValues : erase key (mapValues f m) = mapValues f (erase key m) := by
  unfold erase mapValues
  rw [List.filter_map]
  rfl

/-- Values that are changed under a key can be taken before or after the change. -/
theorem modify_mapValues {g : β → β} {h : α → α} (hgh : ∀ a, g (f a) = f (h a))
    : modify key g (mapValues f m) = mapValues f (modify key h m) := by
  unfold modify mapValues
  rw [List.map_map, List.map_map]
  apply List.map_congr_left
  intro p _
  dsimp
  split
  . rw [hgh]
  . rfl

end MapValues

end Keyed

end LiveTopology
