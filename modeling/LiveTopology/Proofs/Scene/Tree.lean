import LiveTopology.Proofs.Scene.Layer
import LiveTopology.Proofs.Since

/-!
This module contains that the layers of a scene are a tree, whatever is done with the scene, and
that what is set on a layer stays there until it is set again.
-/

namespace LiveTopology.Scene

/-- What is done with a scene. -/
inductive Op where
  | append (parent : Nat) (name : String)
  | loadGlyphs (layer : Nat)
  | loadMap (layer : Nat) (map : String)
  | setStyle (layer : Nat) (property value : String)
  | setTransform (layer : Nat) (t : Transform Float)

namespace Op

/-- The names of the layers that are appended, each with the layer that it is appended to. -/
def added : Op → List (Nat × String)
  | append parent name => [(parent, name)]
  | loadGlyphs layer => glyphs.map fun glyph => (layer, glyph)
  | loadMap layer map => [(layer, String.ofList (map.toList.dropWhile (· == '*')))]
  | setStyle _ _ _ | setTransform _ _ => []

/-- What becomes of a layer that is there already. -/
def touch (op : Op) (layer : Nat) (l : Layer) : Layer :=
  match op with
  | setStyle layer' property value =>
    if layer' = layer then { l with styles := Keyed.insert property value l.styles } else l
  | setTransform layer' t => if layer' = layer then { l with transform := some t } else l
  | append _ _ | loadGlyphs _ | loadMap _ _ => l

@[simp]
theorem name_touch (op : Op) (layer : Nat) (l : Layer) : (op.touch layer l).name = l.name := by
  unfold touch
  split
  . split <;> rfl
  . split <;> rfl
  . rfl
  . rfl
  . rfl

@[simp]
theorem parent_touch (op : Op) (layer : Nat) (l : Layer)
    : (op.touch layer l).parent = l.parent := by
  unfold touch
  split
  . split <;> rfl
  . split <;> rfl
  . rfl
  . rfl
  . rfl

end Op

def perform (s : Scene) : Op → Scene
  | .append parent name => (s.append parent name).2
  | .loadGlyphs layer => s.loadGlyphs layer
  | .loadMap layer map => (s.loadMap layer map).1
  | .setStyle layer property value => s.setStyle layer property value
  | .setTransform layer t => s.setTransform layer t

/-- Appends layer after layer. Says what each of them is called by. -/
def appendAll (s : Scene) : List (Nat × String) → List Nat × Scene
  | [] => ([], s)
  | (parent, name) :: rest =>
    let (id, s) := s.append parent name
    let (ids, s) := s.appendAll rest
    (id :: ids, s)

/-- A scene after one more thing is done, with all that its layers were called by so far. -/
def step (p : Scene × List Nat) (op : Op) : Scene × List Nat :=
  (p.1.perform op, p.2 ++ (p.1.appendAll op.added).1)

def run (p : Scene × List Nat) (ops : List Op) : Scene × List Nat :=
  ops.foldl step p

/-- Layers are appended only to the root and to layers that were appended before. -/
def Grounded : Scene × List Nat → List Op → Prop
  | _, [] => True
  | p, op :: ops => (∀ a ∈ op.added, a.1 = root ∨ a.1 ∈ p.2) ∧ Grounded (step p op) ops

instance decidableGrounded : (p : Scene × List Nat) → (ops : List Op) → Decidable (Grounded p ops)
  | _, [] => isTrue trivial
  | p, op :: ops =>
    @instDecidableAnd _ _ inferInstance (decidableGrounded (step p op) ops)

def parent? (s : Scene) (layer : Nat) : Option Nat :=
  s.layers[layer]?.bind Layer.parent

def name? (s : Scene) (layer : Nat) : Option String :=
  s.layers[layer]?.map Layer.name

def transform? (s : Scene) (layer : Nat) : Option (Transform Float) :=
  s.layers[layer]?.bind Layer.transform

/-- A layer from which the root is reached by going from layer to parent. -/
inductive Descends (s : Scene) : Nat → Prop where
  | root : Descends s root
  | child {layer parent : Nat} (hparent : s.parent? layer = some parent) (h : Descends s parent)
    : Descends s layer

structure Tree (s : Scene) : Prop where
  root_lt : root < s.layers.length
  root_parent : s.parent? root = none
  descends : ∀ layer < s.layers.length, s.Descends layer
  parent_of : ∀ layer < s.layers.length, layer ≠ root →
    ∃ parent, s.parent? layer = some parent ∧ ∀ other, layer ∈ s.children other ↔ other = parent
  root_not_mem : ∀ parent, root ∉ s.children parent
  children_lt : ∀ parent, ∀ layer ∈ s.children parent, layer < s.layers.length
  children_ordered : ∀ parent, (s.children parent).Pairwise (· < ·)

/-- The layers are those that were appended, in the order in which they were. -/
structure Lists (ops : List Op) (p : Scene × List Nat) : Prop where
  layers : p.1.layers.map (fun l => (l.parent, l.name))
    = (none, "svg") :: (ops.flatMap Op.added).map fun a => (some a.1, a.2)
  ids : p.2 = List.range' 1 (ops.flatMap Op.added).length

structure Finds (s : Scene) : Prop where
  some_iff : ∀ name layer, s.find? name = some layer
    ↔ s.name? layer = some name ∧ ∀ earlier < layer, s.name? earlier ≠ some name
  none_iff : ∀ name, s.find? name = none ↔ ∀ layer, s.name? layer ≠ some name

/-- Of all that can be read from a scene, only `property` of `layer` may have changed. -/
structure Restyled (s s' : Scene) (layer : Nat) (property value : String) : Prop where
  unknown : s.layers.length ≤ layer → s' = s
  known : layer < s.layers.length → s'.style? layer property = some value
  others : ∀ other, other ≠ layer → s'.layers[other]? = s.layers[other]?
  styles : ∀ property', property' ≠ property → s'.style? layer property' = s.style? layer property'
  rest : s'.name? layer = s.name? layer ∧ s'.parent? layer = s.parent? layer
    ∧ s'.transform? layer = s.transform? layer
  loads : s'.glyphLoads = s.glyphLoads ∧ s'.maps = s.maps

structure Moved (s s' : Scene) (layer : Nat) (t : Transform Float) : Prop where
  unknown : s.layers.length ≤ layer → s' = s
  known : layer < s.layers.length → s'.transform? layer = some t
  others : ∀ other, other ≠ layer → s'.layers[other]? = s.layers[other]?
  styles : ∀ property, s'.style? layer property = s.style? layer property
  rest : s'.name? layer = s.name? layer ∧ s'.parent? layer = s.parent? layer
  loads : s'.glyphLoads = s.glyphLoads ∧ s'.maps = s.maps

def start : Scene × List Nat :=
  (.empty, [])

/-- What is read from a layer was set on it after it was appended, and not set again since. -/
structure Recalls (ops : List Op) (s : Scene) : Prop where
  style : ∀ layer property value, s.style? layer property = some value
    ↔ Since
      (fun before op => op = .setStyle layer property value
        ∧ layer < (run start before).1.layers.length)
      (fun op => ∃ value, op = .setStyle layer property value) ops
  transform : ∀ layer t, s.transform? layer = some t
    ↔ Since
      (fun before op => op = .setTransform layer t ∧ layer < (run start before).1.layers.length)
      (fun op => ∃ t, op = .setTransform layer t) ops

theorem run_concat (p : Scene × List Nat) (ops : List Op) (op : Op)
    : run p (ops ++ [op]) = step (run p ops) op := by
  unfold run
  rw [List.foldl_append]
  rfl

/-- A layer as it is appended. -/
def blank (a : Nat × String) : Layer :=
  ⟨a.2, some a.1, [], none⟩

theorem ids_appendAll (s : Scene) (added : List (Nat × String))
    : (s.appendAll added).1 = List.range' s.layers.length added.length := by
  induction added generalizing s with
  | nil => rfl
  | cons a added ih =>
    show s.layers.length :: ((s.append a.1 a.2).2.appendAll added).1 = _
    rw [ih, List.length_cons, List.range'_succ]
    show _ :: List.range' (s.layers ++ [blank a]).length _ = _
    rw [List.length_append, List.length_singleton]

theorem layers_foldl_append (s : Scene) (layer : Nat) (names : List String)
    : (names.foldl (fun s name => (s.append layer name).2) s).layers
        = s.layers ++ names.map fun name => blank (layer, name) := by
  induction names generalizing s with
  | nil => simp
  | cons name names ih =>
    rw [List.foldl_cons, ih]
    show (s.layers ++ [blank (layer, name)]) ++ _ = _
    rw [List.append_assoc]
    rfl

theorem modify_eq_mapIdx {α : Type} (l : List α) (n : Nat) (f : α → α)
    : l.modify n f = l.mapIdx fun i a => if n = i then f a else a := by
  apply List.ext_getElem?
  intro i
  rw [List.getElem?_modify, List.getElem?_mapIdx]
  split <;> rfl

/-- What is there already stays in its place, and what is appended comes behind it. -/
theorem layers_perform (s : Scene) (op : Op)
    : (s.perform op).layers = s.layers.mapIdx op.touch ++ op.added.map blank := by
  have hsame : s.layers.mapIdx (fun _ l => l) = s.layers := by
    apply List.ext_getElem?
    simp
  cases op with
  | append parent name =>
    show s.layers ++ [blank (parent, name)] = s.layers.mapIdx (fun _ l => l) ++ _
    rw [hsame]
    rfl
  | loadGlyphs layer =>
    show (glyphs.foldl (fun s glyph => (s.append layer glyph).2) s).layers
      = s.layers.mapIdx (fun _ l => l) ++ (glyphs.map _).map blank
    rw [hsame, layers_foldl_append, List.map_map]
    rfl
  | loadMap layer map =>
    show s.layers ++ [blank (layer, _)] = s.layers.mapIdx (fun _ l => l) ++ _
    rw [hsame]
    rfl
  | setStyle layer property value =>
    show s.layers.modify layer _ = s.layers.mapIdx _ ++ []
    rw [modify_eq_mapIdx, List.append_nil]
    rfl
  | setTransform layer t =>
    show s.layers.modify layer _ = s.layers.mapIdx _ ++ []
    rw [modify_eq_mapIdx, List.append_nil]
    rfl

section Perform

variable (s : Scene) (op : Op) (layer : Nat)

theorem length_perform
    : (s.perform op).layers.length = s.layers.length + op.added.length := by
  rw [layers_perform]
  simp

theorem getElem?_perform_of_lt (h : layer < s.layers.length)
    : (s.perform op).layers[layer]? = s.layers[layer]?.map (op.touch layer) := by
  rw [layers_perform, List.getElem?_append_left (by simpa using h), List.getElem?_mapIdx]

theorem getElem?_perform_of_le (h : s.layers.length ≤ layer)
    : (s.perform op).layers[layer]? = op.added[layer - s.layers.length]?.map blank := by
  rw [layers_perform, List.getElem?_append_right (by simpa using h), List.getElem?_map,
    List.length_mapIdx]

theorem parent?_perform_of_lt (h : layer < s.layers.length)
    : (s.perform op).parent? layer = s.parent? layer := by
  unfold parent?
  rw [getElem?_perform_of_lt s op layer h]
  cases s.layers[layer]? <;> simp

theorem parent?_perform_of_le (h : s.layers.length ≤ layer)
    : (s.perform op).parent? layer = op.added[layer - s.layers.length]?.map Prod.fst := by
  unfold parent?
  rw [getElem?_perform_of_le s op layer h]
  cases op.added[layer - s.layers.length]? <;> rfl

end Perform

/-- Every layer but the root has a parent, which was there before it. -/
structure Rooted (s : Scene) : Prop where
  root_lt : root < s.layers.length
  root_parent : s.parent? root = none
  parent_lt : ∀ layer < s.layers.length, layer ≠ root →
    ∃ parent < layer, s.parent? layer = some parent

theorem Rooted.perform {s : Scene} (h : Rooted s) (op : Op)
    (hadded : ∀ a ∈ op.added, a.1 < s.layers.length)
    : Rooted (s.perform op) where
  root_lt := by
    have := h.root_lt
    rw [length_perform]
    omega
  root_parent := by
    rw [parent?_perform_of_lt s op root h.root_lt]
    exact h.root_parent
  parent_lt := by
    intro layer hlayer hne
    rw [length_perform] at hlayer
    by_cases hold : layer < s.layers.length
    . rw [parent?_perform_of_lt s op layer hold]
      exact h.parent_lt layer hold hne
    . rw [Nat.not_lt] at hold
      have hnew : layer - s.layers.length < op.added.length := by omega
      have hparent := hadded _ (List.getElem_mem hnew)
      refine ⟨op.added[layer - s.layers.length].1, by omega, ?_⟩
      rw [parent?_perform_of_le s op layer hold, List.getElem?_eq_getElem hnew]
      rfl

/-- The layers but the root are called by consecutive numbers. -/
structure Numbered (p : Scene × List Nat) : Prop where
  ids : p.2 = List.range' 1 p.2.length
  length : p.1.layers.length = p.2.length + 1

theorem Numbered.step {p : Scene × List Nat} (h : Numbered p) (op : Op)
    : Numbered (step p op) := by
  have hids : (Scene.step p op).2 = List.range' 1 (p.2.length + op.added.length) := by
    show p.2 ++ (p.1.appendAll op.added).1 = _
    rw [ids_appendAll, h.length, List.range'_append_1.symm, ← h.ids, Nat.add_comm 1]
  constructor
  . rw [hids, List.length_range']
  . show (p.1.perform op).layers.length = _
    rw [hids, List.length_range', length_perform, h.length]
    omega

theorem Numbered.mem_iff {p : Scene × List Nat} (h : Numbered p) (layer : Nat)
    : layer = root ∨ layer ∈ p.2 ↔ layer < p.1.layers.length := by
  rw [h.ids, List.mem_range'_1, h.length]
  unfold root
  omega

theorem Numbered.rooted_run {p : Scene × List Nat} (h : Numbered p) (hrooted : Rooted p.1)
    {ops : List Op} (hgrounded : Grounded p ops)
    : Rooted (run p ops).1 := by
  induction ops generalizing p with
  | nil => exact hrooted
  | cons op ops ih =>
    obtain ⟨hadded, hgrounded⟩ := hgrounded
    apply ih (h.step op) (hrooted.perform op _) hgrounded
    intro a ha
    exact (h.mem_iff a.1).1 (hadded a ha)

theorem numbered_start : Numbered start :=
  ⟨rfl, rfl⟩

theorem rooted_start : Rooted start.1 where
  root_lt := by decide
  root_parent := rfl
  parent_lt := by
    intro layer hlayer hne
    have hlayer : layer < 1 := hlayer
    unfold root at hne
    omega

theorem mem_children_iff (s : Scene) (parent layer : Nat)
    : layer ∈ s.children parent ↔ s.parent? layer = some parent := by
  unfold children
  rw [List.mem_filter, List.mem_range, decide_eq_true_iff]
  constructor
  . exact fun h => h.2
  . intro h
    refine ⟨?_, h⟩
    obtain ⟨l, hl, -⟩ := Option.bind_eq_some_iff.1 h
    exact (List.getElem?_eq_some_iff.1 hl).1

theorem Rooted.descends {s : Scene} (h : Rooted s) (layer : Nat)
    (hlayer : layer < s.layers.length)
    : s.Descends layer := by
  induction layer using Nat.strongRecOn with
  | ind layer ih =>
    by_cases hroot : layer = root
    . rw [hroot]
      exact .root
    . obtain ⟨parent, hlt, hparent⟩ := h.parent_lt layer hlayer hroot
      exact .child hparent (ih parent hlt (by omega))

theorem Rooted.tree {s : Scene} (h : Rooted s) : Tree s where
  root_lt := h.root_lt
  root_parent := h.root_parent
  descends := h.descends
  parent_of := by
    intro layer hlayer hne
    obtain ⟨parent, -, hparent⟩ := h.parent_lt layer hlayer hne
    refine ⟨parent, hparent, ?_⟩
    intro other
    rw [mem_children_iff, hparent, Option.some.injEq]
    exact eq_comm
  root_not_mem := by
    intro parent
    rw [mem_children_iff, h.root_parent]
    simp
  children_lt := by
    intro parent layer hlayer
    unfold children at hlayer
    rw [List.mem_filter, List.mem_range] at hlayer
    exact hlayer.1
  children_ordered := by
    intro parent
    unfold children
    exact List.pairwise_lt_range.filter _

/-- Whatever is set on layers, their names and parents stay. -/
theorem map_mapIdx_touch (op : Op) (layers : List Layer)
    : (layers.mapIdx op.touch).map (fun l => (l.parent, l.name))
        = layers.map fun l => (l.parent, l.name) := by
  apply List.ext_getElem?
  intro i
  rw [List.getElem?_map, List.getElem?_mapIdx, List.getElem?_map]
  cases layers[i]? <;> simp

theorem lists_run (ops : List Op) : Lists ops (run start ops) := by
  induction ops using List.reverseRecOn with
  | nil => exact ⟨rfl, rfl⟩
  | append_singleton ops op ih =>
    rw [run_concat]
    constructor
    . show (Scene.perform _ op).layers.map _ = _
      rw [layers_perform, List.map_append, map_mapIdx_touch, ih.layers]
      simp [blank]
    . have hlength := congrArg List.length ih.layers
      show (run start ops).2 ++ _ = _
      rw [ids_appendAll, ih.ids, List.flatMap_append, List.length_append, ← List.range'_append_1]
      simp at hlength
      simp [hlength, Nat.add_comm]

theorem finds (s : Scene) : Finds s where
  some_iff := by
    intro name layer
    unfold find? name?
    rw [List.findIdx?_eq_some_iff_getElem]
    simp only [decide_eq_true_iff, ne_eq, Option.map_eq_some_iff, List.getElem?_eq_some_iff]
    constructor
    . rintro ⟨hlt, hname, hearlier⟩
      refine ⟨⟨_, ⟨hlt, rfl⟩, hname⟩, ?_⟩
      rintro earlier hlt' ⟨_, ⟨_, rfl⟩, hname'⟩
      exact hearlier earlier hlt' hname'
    . rintro ⟨⟨_, ⟨hlt, rfl⟩, hname⟩, hearlier⟩
      refine ⟨hlt, hname, ?_⟩
      intro earlier hlt' hname'
      exact hearlier earlier hlt' ⟨_, ⟨_, rfl⟩, hname'⟩
  none_iff := by
    intro name
    unfold find? name?
    rw [List.findIdx?_eq_none_iff]
    simp only [decide_eq_false_iff_not, List.mem_iff_getElem?, ne_eq, Option.map_eq_some_iff]
    constructor
    . rintro h layer ⟨l, hl, hname⟩
      exact h l ⟨layer, hl⟩ hname
    . rintro h l ⟨layer, hl⟩ hname
      exact h layer ⟨l, hl, hname⟩

theorem setStyle_of_le {s : Scene} {layer : Nat} (h : s.layers.length ≤ layer)
    (property value : String)
    : s.setStyle layer property value = s := by
  unfold setStyle
  rw [List.modify_eq_self h]

theorem setTransform_of_le {s : Scene} {layer : Nat} (h : s.layers.length ≤ layer)
    (t : Transform Float)
    : s.setTransform layer t = s := by
  unfold setTransform
  rw [List.modify_eq_self h]

theorem restyled (s : Scene) (layer : Nat) (property value : String)
    : Restyled s (s.setStyle layer property value) layer property value where
  unknown := fun h => setStyle_of_le h property value
  known := by
    intro h
    unfold style?
    rw [getElem?_setStyle, List.getElem?_eq_getElem h]
    simp
  others := by
    intro other hne
    rw [getElem?_setStyle]
    simp [hne.symm]
  styles := by
    intro property' hne
    unfold style?
    rw [getElem?_setStyle]
    cases s.layers[layer]? with
    | none => rfl
    | some l => simp [Keyed.get?_insert_of_ne hne]
  rest := by
    unfold name? parent? transform?
    rw [getElem?_setStyle]
    cases s.layers[layer]? <;> simp
  loads := ⟨rfl, rfl⟩

theorem moved (s : Scene) (layer : Nat) (t : Transform Float)
    : Moved s (s.setTransform layer t) layer t where
  unknown := fun h => setTransform_of_le h t
  known := by
    intro h
    unfold transform?
    rw [getElem?_setTransform, List.getElem?_eq_getElem h]
    simp
  others := by
    intro other hne
    rw [getElem?_setTransform]
    simp [hne.symm]
  styles := by
    intro property
    unfold style?
    rw [getElem?_setTransform]
    cases s.layers[layer]? <;> simp
  rest := by
    unfold name? parent?
    rw [getElem?_setTransform]
    cases s.layers[layer]? <;> simp
  loads := ⟨rfl, rfl⟩

/-- What a layer does not have when it is appended is read only from layers that were there. -/
theorem bind_perform {α : Type} {read : Layer → Option α} (hblank : ∀ a, read (blank a) = none)
    (s : Scene) (op : Op) (layer : Nat)
    : (s.perform op).layers[layer]?.bind read
        = s.layers[layer]?.bind fun l => read (op.touch layer l) := by
  by_cases h : layer < s.layers.length
  . rw [getElem?_perform_of_lt s op layer h, Option.bind_map]
    rfl
  . rw [Nat.not_lt] at h
    rw [getElem?_perform_of_le s op layer h, List.getElem?_eq_none h]
    cases op.added[layer - s.layers.length]? with
    | none => rfl
    | some a => exact hblank a

theorem style?_perform (s : Scene) (op : Op) (layer : Nat) (property : String)
    : (s.perform op).style? layer property
        = s.layers[layer]?.bind fun l => Keyed.get? property (op.touch layer l).styles :=
  bind_perform (fun _ => rfl) s op layer

theorem transform?_perform (s : Scene) (op : Op) (layer : Nat)
    : (s.perform op).transform? layer
        = s.layers[layer]?.bind fun l => (op.touch layer l).transform :=
  bind_perform (fun _ => rfl) s op layer

section Recalls

variable {α : Type} {read : Scene → Option α} {set : α → Op} {layer : Nat}

/-- What one kind of setting is read back as, if nothing else has an effect on what is read. -/
theorem eq_some_iff_since (hinjective : Function.Injective set) (hstart : read start.1 = none)
    (hset : ∀ (s : Scene) a,
      read (s.perform (set a)) = if layer < s.layers.length then some a else none)
    (hother : ∀ (s : Scene) op, (∀ a, op ≠ set a) → read (s.perform op) = read s)
    (ops : List Op) (a : α)
    : read (run start ops).1 = some a
        ↔ Since (fun before op => op = set a ∧ layer < (run start before).1.layers.length)
          (fun op => ∃ a, op = set a) ops := by
  induction ops using List.reverseRecOn with
  | nil =>
    show read start.1 = some a ↔ _
    simp [hstart, not_since_nil]
  | append_singleton ops op ih =>
    rw [run_concat, since_concat]
    show read ((run start ops).1.perform op) = some a ↔ _
    by_cases hsets : ∃ b, op = set b
    . obtain ⟨b, rfl⟩ := hsets
      rw [hset, hinjective.eq_iff]
      simp
      tauto
    . have hnot : ∀ b, op ≠ set b := fun b heq => hsets ⟨b, heq⟩
      rw [hother _ op hnot, ih]
      simp [hsets, hnot a]

theorem style?_perform_setStyle (s : Scene) (layer : Nat) (property value : String)
    : (s.perform (.setStyle layer property value)).style? layer property
        = if layer < s.layers.length then some value else none := by
  rw [style?_perform]
  split
  . next h =>
    rw [List.getElem?_eq_getElem h]
    simp [Op.touch]
  . next h =>
    rw [List.getElem?_eq_none (Nat.not_lt.1 h)]
    rfl

theorem style?_perform_of_ne {s : Scene} {op : Op} {layer : Nat} {property : String}
    (h : ∀ value, op ≠ .setStyle layer property value)
    : (s.perform op).style? layer property = s.style? layer property := by
  rw [style?_perform]
  unfold style?
  congr 1
  funext l
  cases op with
  | setStyle layer' property' value =>
    unfold Op.touch
    dsimp
    split
    . next heq =>
      have hne : property ≠ property' := by
        rintro rfl
        exact h value (by rw [heq])
      rw [Keyed.get?_insert_of_ne hne]
    . rfl
  | setTransform layer' t =>
    unfold Op.touch
    dsimp
    split <;> rfl
  | append parent name => rfl
  | loadGlyphs layer' => rfl
  | loadMap layer' map => rfl

theorem transform?_perform_setTransform (s : Scene) (layer : Nat) (t : Transform Float)
    : (s.perform (.setTransform layer t)).transform? layer
        = if layer < s.layers.length then some t else none := by
  rw [transform?_perform]
  split
  . next h =>
    rw [List.getElem?_eq_getElem h]
    simp [Op.touch]
  . next h =>
    rw [List.getElem?_eq_none (Nat.not_lt.1 h)]
    rfl

theorem transform?_perform_of_ne {s : Scene} {op : Op} {layer : Nat}
    (h : ∀ t, op ≠ .setTransform layer t)
    : (s.perform op).transform? layer = s.transform? layer := by
  rw [transform?_perform]
  unfold transform?
  congr 1
  funext l
  cases op with
  | setStyle layer' property' value =>
    unfold Op.touch
    dsimp
    split <;> rfl
  | setTransform layer' t =>
    unfold Op.touch
    dsimp
    split
    . next heq => exact absurd (by rw [heq]) (h t)
    . rfl
  | append parent name => rfl
  | loadGlyphs layer' => rfl
  | loadMap layer' map => rfl

end Recalls

theorem recalls_run (ops : List Op) : Recalls ops (run start ops).1 where
  style := by
    intro layer property value
    apply @eq_some_iff_since _ (fun s => s.style? layer property) (.setStyle layer property) layer
    . intro value value' heq
      exact (Op.setStyle.inj heq).2.2
    . cases layer <;> rfl
    . intro s value
      apply style?_perform_setStyle
    . intro s op hother
      exact style?_perform_of_ne hother
  transform := by
    intro layer t
    apply @eq_some_iff_since _ (fun s => s.transform? layer) (.setTransform layer) layer
    . intro t t' heq
      exact (Op.setTransform.inj heq).2
    . cases layer <;> rfl
    . intro s t
      apply transform?_perform_setTransform
    . intro s op hother
      exact transform?_perform_of_ne hother

/-- Whatever is done with a new scene, its layers are a tree of which nothing is lost or moved, if
layers are appended only to layers. -/
theorem tree_run (ops : List Op) (hgrounded : Grounded start ops)
    : let p := run start ops
      Lists ops p
        ∧ Tree p.1
        ∧ Finds p.1
        ∧ (∀ layer property value,
          Restyled p.1 (p.1.setStyle layer property value) layer property value)
        ∧ (∀ layer t, Moved p.1 (p.1.setTransform layer t) layer t)
        ∧ Recalls ops p.1 := by
  intro p
  have hrooted : Rooted p.1 := numbered_start.rooted_run rooted_start hgrounded
  refine ⟨lists_run ops, hrooted.tree, finds p.1, ?_, ?_, recalls_run ops⟩
  . intro layer property value
    apply restyled
  . intro layer t
    apply moved

/-- A map in the second of two layers, of which one has the glyphs and the other a width. -/
def drawn : List Op :=
  [.append 0 "defs", .loadGlyphs 1, .append 0 "map", .setStyle 11 "stroke-width" "2px",
    .loadMap 11 "*world", .setStyle 42 "fill" "red", .setTransform 12 .identity]

theorem tree_run_drawn
    : Grounded start drawn
        ∧ Lists drawn (run start drawn)
        ∧ (run start drawn).1.children 11 = [12]
        ∧ (run start drawn).1.Descends 12 := by
  have hgrounded : Grounded start drawn := by decide
  obtain ⟨hlists, htree, -⟩ := tree_run drawn hgrounded
  exact ⟨hgrounded, hlists, by decide, htree.descends 12 (by decide)⟩

end LiveTopology.Scene
