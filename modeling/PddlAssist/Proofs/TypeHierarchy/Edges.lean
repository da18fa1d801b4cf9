import Mathlib.Data.String.Basic
import PddlAssist.Proofs.TypeHierarchy.Ancestors

namespace PddlAssist

open Text Relation

theorem mem_insertKey {key other : String} {keys : List String} :
    other ∈ insertKey key keys ↔ other = key ∨ other ∈ keys := by
  induction keys with
  | nil => simp [insertKey]
  | cons k keys ih =>
    rw [insertKey]
    split
    · exact List.mem_cons
    split
    case isTrue same => simp [same]
    case isFalse => rw [List.mem_cons, ih, List.mem_cons, or_left_comm]

theorem insertKey_sorted {key : String} {keys : List String} (sorted : keys.Pairwise (· < ·)) :
    (insertKey key keys).Pairwise (· < ·) := by
  induction keys with
  | nil => simp [insertKey]
  | cons k keys ih =>
    obtain ⟨first, tail⟩ := List.pairwise_cons.mp sorted
    rw [insertKey]
    split
    case isTrue before =>
      refine List.pairwise_cons.mpr ⟨?_, sorted⟩
      rintro other (_ | ⟨_, later⟩)
      · exact before
      · exact before.trans (first other later)
    split
    case isTrue => exact sorted
    case isFalse notBefore notSame =>
      refine List.pairwise_cons.mpr ⟨?_, ih tail⟩
      intro other member
      rcases mem_insertKey.mp member with rfl | later
      · exact lt_of_le_of_ne (not_lt.mp notBefore) (Ne.symm notSame)
      · exact first other later

namespace TypeHierarchy

structure IsSorted (h : TypeHierarchy) : Prop where
  keys : h.vertices.Pairwise (·.key < ·.key)
  parents : ∀ v ∈ h.vertices, v.parents.Pairwise (· < ·)

theorem mem_insertVertex {name : String} {vertices : List TypeVertex} {v : TypeVertex}
    (member : v ∈ insertVertex name vertices) : v = ⟨name, []⟩ ∨ v ∈ vertices := by
  induction vertices with
  | nil => exact .inl (List.mem_singleton.mp member)
  | cons w vertices ih =>
    rw [insertVertex] at member
    split at member
    · exact List.mem_cons.mp member
    split at member
    · exact .inr member
    · rcases List.mem_cons.mp member with rfl | later
      · exact .inr (.head _)
      · exact (ih later).imp_right (.tail _)

theorem insertVertex_sorted {name : String} {vertices : List TypeVertex}
    (sorted : vertices.Pairwise (·.key < ·.key)) : (insertVertex name vertices).Pairwise (·.key < ·.key) := by
  induction vertices with
  | nil => simp [insertVertex]
  | cons w vertices ih =>
    obtain ⟨first, tail⟩ := List.pairwise_cons.mp sorted
    rw [insertVertex]
    split
    case isTrue before =>
      refine List.pairwise_cons.mpr ⟨?_, sorted⟩
      rintro v (_ | ⟨_, later⟩)
      · exact before
      · exact before.trans (first v later)
    split
    case isTrue => exact sorted
    case isFalse notBefore notSame =>
      refine List.pairwise_cons.mpr ⟨?_, ih tail⟩
      intro v member
      rcases mem_insertVertex member with rfl | later
      · exact lt_of_le_of_ne (not_lt.mp notBefore) (Ne.symm notSame)
      · exact first v later

theorem find?_insertVertex {name key : String} {vertices : List TypeVertex}
    (sorted : vertices.Pairwise (·.key < ·.key)) :
    (insertVertex name vertices).find? (·.key == key) =
      (vertices.find? (·.key == key)).or (if lower name = key then some ⟨name, []⟩ else none) := by
  have isKey : (⟨name, []⟩ : TypeVertex).key = lower name := rfl
  induction vertices with
  | nil => by_cases same : lower name = key <;> simp [insertVertex, isKey, same]
  | cons w vertices ih =>
    obtain ⟨first, tail⟩ := List.pairwise_cons.mp sorted
    rw [insertVertex]
    split
    case isTrue before =>
      rw [List.find?_cons, isKey]
      by_cases same : lower name = key
      · have absent : (w :: vertices).find? (·.key == key) = none := by
          rw [List.find?_eq_none]
          rintro v (_ | ⟨_, later⟩)
          · simpa [← same] using before.ne'
          · simpa [← same] using (before.trans (first v later)).ne'
        simp [same, absent]
      · have differs : (lower name == key) = false := by simpa using same
        simp [same, differs]
    split
    case isTrue same =>
      by_cases here : w.key = key
      · simp [here]
      · simp [same, here]
    case isFalse =>
      by_cases here : w.key = key
      · simp [here]
      · simp [here, ih tail]

theorem IsSorted.addType {h : TypeHierarchy} (sorted : h.IsSorted) (name : String) : (h.addType name).IsSorted where
  keys := insertVertex_sorted sorted.keys
  parents v member := by
    rcases mem_insertVertex member with rfl | old
    · exact .nil
    · exact sorted.parents v old

theorem find?_addType {h : TypeHierarchy} (sorted : h.IsSorted) (name key : String) :
    (h.addType name).find? key = (h.find? key).or (if lower name = key then some ⟨name, []⟩ else none) :=
  find?_insertVertex sorted.keys

@[simp] theorem key_addParent (child parent : String) (v : TypeVertex) : (addParent child parent v).key = v.key := by
  rw [addParent]
  split <;> rfl

@[simp] theorem name_addParent (child parent : String) (v : TypeVertex) : (addParent child parent v).name = v.name := by
  rw [addParent]
  split <;> rfl

theorem mem_parents_addParent {child parent other : String} {v : TypeVertex} :
    other ∈ (addParent child parent v).parents ↔ other ∈ v.parents ∨ v.key = child ∧ other = parent := by
  rw [addParent]
  split
  case isTrue here => rw [mem_insertKey, or_comm]; simp [here]
  case isFalse notHere => simp [notHere]

def join (h : TypeHierarchy) (child parent : String) : TypeHierarchy := ⟨h.vertices.map (addParent child parent)⟩

theorem find?_join (h : TypeHierarchy) (child parent key : String) :
    (h.join child parent).find? key = (h.find? key).map (addParent child parent) := by
  have sameKey : (fun v : TypeVertex => v.key == key) ∘ addParent child parent = fun v => v.key == key := by
    funext v
    rw [Function.comp_apply, key_addParent]
  rw [find?, join, List.find?_map, sameKey, find?]

theorem IsSorted.join {h : TypeHierarchy} (sorted : h.IsSorted) (child parent : String) :
    (h.join child parent).IsSorted where
  keys := by simpa [TypeHierarchy.join, List.pairwise_map] using sorted.keys
  parents v member := by
    obtain ⟨w, old, rfl⟩ := List.mem_map.mp member
    rw [addParent]
    split
    · exact insertKey_sorted (sorted.parents w old)
    · exact sorted.parents w old

theorem hasParent_iff {h : TypeHierarchy} {child parent : String} :
    h.HasParent child parent ↔ ∃ v, h.find? child = some v ∧ parent ∈ v.parents := by
  rw [HasParent, parentKeys]
  cases h.find? child <;> simp

theorem hasParent_addType {h : TypeHierarchy} (sorted : h.IsSorted) (name : String) :
    (h.addType name).HasParent = h.HasParent := by
  funext child parent
  rw [hasParent_iff, hasParent_iff, find?_addType sorted]
  cases h.find? child with
  | some v => simp
  | none => by_cases same : lower name = child <;> simp [same]

theorem hasParent_join {h : TypeHierarchy} {child parent : String} (isType : (h.find? child).isSome) {a b : String} :
    (h.join child parent).HasParent a b ↔ h.HasParent a b ∨ a = child ∧ b = parent := by
  rw [hasParent_iff, hasParent_iff, find?_join]
  cases found : h.find? a with
  | none =>
    have other : a ≠ child := by
      rintro rfl
      simp [found] at isType
    simp [other]
  | some v =>
    have isKey : v.key = a := by simpa using List.find?_some found
    simp [mem_parents_addParent, isKey]

/-- A way in a graph with one edge more takes that edge or does not. -/
theorem transGen_join {R : String → String → Prop} {child parent a b : String}
    (way : TransGen (fun x y => R x y ∨ x = child ∧ y = parent) a b) :
    TransGen R a b ∨ ReflTransGen R a child ∧ ReflTransGen R parent b := by
  induction way with
  | single edge =>
    rcases edge with old | ⟨rfl, rfl⟩
    · exact .inl (.single old)
    · exact .inr ⟨.refl, .refl⟩
  | tail _ edge ih =>
    rcases edge with old | ⟨rfl, rfl⟩
    · exact ih.imp (·.tail old) fun ⟨before, after⟩ => ⟨before, after.tail old⟩
    · exact .inr ⟨ih.elim TransGen.to_reflTransGen And.left, .refl⟩

/-- A graph without cycles over types that are all there. -/
structure IsSound (h : TypeHierarchy) : Prop where
  sorted : h.IsSorted
  closed : h.IsClosed
  acyclic : ∀ key, ¬ TransGen h.HasParent key key

theorem IsSound.empty : IsSound {} where
  sorted := ⟨.nil, fun _ nothing => by cases nothing⟩
  closed _ _ edge := by cases edge
  acyclic key way := by
    obtain ⟨_, edge, _⟩ := TransGen.head'_iff.mp way
    cases edge

theorem IsSound.addType {h : TypeHierarchy} (sound : h.IsSound) (name : String) : (h.addType name).IsSound where
  sorted := sound.sorted.addType name
  closed child parent edge := by
    rw [hasParent_addType sound.sorted] at edge
    rw [find?_addType sound.sorted]
    simp [sound.closed child parent edge]
  acyclic := by
    rw [hasParent_addType sound.sorted]
    exact sound.acyclic

theorem addEdge?_eq (h : TypeHierarchy) (child parent : String) :
    h.addEdge? child parent =
      if h.closesCycle child parent then none
      else some (((h.addType child).addType parent).join (lower child) (lower parent)) := rfl

theorem addEdge?_eq_none_iff {h : TypeHierarchy} (closed : h.IsClosed) {child parent : String} :
    h.addEdge? child parent = none ↔
      sameName child parent = true ∨ TransGen h.HasParent (lower parent) (lower child) := by
  rw [addEdge?_eq, ite_eq_left_iff, ← closesCycle_iff closed]
  simp

theorem find?_name_addType {h : TypeHierarchy} (sorted : h.IsSorted) (name key : String) :
    ((h.addType name).find? key).map (·.name) =
      ((h.find? key).map (·.name)).or (if lower name = key then some name else none) := by
  rw [find?_addType sorted]
  cases h.find? key with
  | some v => rfl
  | none => by_cases same : lower name = key <;> simp [same]

/-- What an edge that is not refused adds. -/
structure Gains (h : TypeHierarchy) (child parent : String) (after : TypeHierarchy) : Prop where
  edges : ∀ a b, after.HasParent a b ↔ h.HasParent a b ∨ a = lower child ∧ b = lower parent
  names : ∀ key, (after.find? key).map (·.name) =
    ((h.find? key).map (·.name)).or
      (if lower child = key then some child else if lower parent = key then some parent else none)

theorem IsSound.gains_of_addEdge? {h after : TypeHierarchy} (sound : h.IsSound) {child parent : String}
    (added : h.addEdge? child parent = some after) : h.Gains child parent after := by
  rw [addEdge?_eq] at added
  split at added
  · cases added
  cases added
  have sorted := sound.sorted.addType child
  have isType : (((h.addType child).addType parent).find? (lower child)).isSome := by
    rw [find?_addType sorted, find?_addType sound.sorted]
    simp
  constructor
  · intro a b
    rw [hasParent_join isType, hasParent_addType sorted, hasParent_addType sound.sorted]
  · intro key
    rw [find?_join, Option.map_map]
    have sameName : TypeVertex.name ∘ addParent (lower child) (lower parent) = TypeVertex.name := by
      funext v
      exact name_addParent _ _ v
    rw [sameName, find?_name_addType sorted, find?_name_addType sound.sorted, Option.or_assoc]
    by_cases same : lower child = key <;> simp [same]

theorem IsSound.addEdge? {h after : TypeHierarchy} (sound : h.IsSound) {child parent : String}
    (added : h.addEdge? child parent = some after) : after.IsSound := by
  have gains := sound.gains_of_addEdge? added
  have isType {key : String} : (after.find? key).isSome ↔
      (h.find? key).isSome ∨ key = lower child ∨ key = lower parent := by
    have names := congrArg Option.isSome (gains.names key)
    rw [Option.isSome_map, Option.isSome_or, Option.isSome_map] at names
    rw [names, Bool.or_eq_true, eq_comm (a := key), eq_comm (a := key)]
    by_cases isChild : lower child = key <;> by_cases isParent : lower parent = key <;> simp [isChild, isParent]
  have allowed : ¬ (sameName child parent = true ∨ TransGen h.HasParent (lower parent) (lower child)) := by
    rw [← addEdge?_eq_none_iff sound.closed, added]
    exact Option.some_ne_none after
  rw [not_or, sameName_iff] at allowed
  constructor
  · rw [addEdge?_eq] at added
    split at added
    · cases added
    · cases added
      exact ((sound.sorted.addType child).addType parent).join _ _
  · intro a b edge
    rw [isType]
    rcases (gains.edges a b).mp edge with old | ⟨_, rfl⟩
    · exact .inl (sound.closed a b old)
    · exact .inr (.inr rfl)
  · intro key way
    have edges : after.HasParent = fun a b => h.HasParent a b ∨ a = lower child ∧ b = lower parent := by
      funext a b
      exact propext (gains.edges a b)
    rw [edges] at way
    rcases transGen_join way with old | ⟨before, onward⟩
    · exact sound.acyclic key old
    · rcases reflTransGen_iff_eq_or_transGen.mp (onward.trans before) with same | back
      · exact allowed.1 same
      · exact allowed.2 back

/-- A request to a hierarchy. -/
inductive Call where
  | type (name : String)
  | edge (child parent : String)

def call (h : TypeHierarchy) : Call → TypeHierarchy
  | .type name => h.addType name
  | .edge child parent => (h.addEdge? child parent).getD h

def ofCalls (calls : List Call) : TypeHierarchy := calls.foldl call {}

def namesGiven (h : TypeHierarchy) : List Call → List String
  | [] => []
  | .type name :: rest => name :: namesGiven (h.addType name) rest
  | .edge child parent :: rest =>
    match h.addEdge? child parent with
    | none => namesGiven h rest
    | some after => child :: parent :: namesGiven after rest

theorem IsSound.call {h : TypeHierarchy} (sound : h.IsSound) (c : Call) : (h.call c).IsSound := by
  cases c with
  | type name => exact sound.addType name
  | edge child parent =>
    rw [TypeHierarchy.call]
    cases added : h.addEdge? child parent with
    | none => exact sound
    | some after => exact sound.addEdge? added

theorem IsSound.find?_name_calls {h : TypeHierarchy} (sound : h.IsSound) (calls : List Call) (key : String) :
    ((calls.foldl TypeHierarchy.call h).find? key).map (·.name) =
      ((h.find? key).map (·.name)).or ((h.namesGiven calls).find? (lower · == key)) := by
  induction calls generalizing h with
  | nil => simp [namesGiven]
  | cons c rest ih =>
    rw [List.foldl_cons, ih (sound.call c)]
    cases c with
    | type name =>
      rw [TypeHierarchy.call, find?_name_addType sound.sorted, Option.or_assoc, namesGiven, List.find?_cons]
      by_cases same : lower name = key
      · simp [same]
      · have differs : (lower name == key) = false := by simpa using same
        simp [same, differs]
    | edge child parent =>
      rw [TypeHierarchy.call, namesGiven]
      cases added : h.addEdge? child parent with
      | none => rfl
      | some after =>
        rw [Option.getD_some, (sound.gains_of_addEdge? added).names, Option.or_assoc]
        by_cases isChild : lower child = key <;> by_cases isParent : lower parent = key <;>
          simp [isChild, isParent]

theorem IsSound.calls {h : TypeHierarchy} (sound : h.IsSound) (calls : List Call) :
    (calls.foldl TypeHierarchy.call h).IsSound := by
  induction calls generalizing h with
  | nil => exact sound
  | cons c rest ih => exact ih (sound.call c)

/-- After any requests to an empty hierarchy no type is above itself, all parents are types, and each type is
found by the lower case of the name that it was given first. A further edge is refused exactly if its ends are
one type or its parent is below its child; otherwise it is added with the types at its ends, and nothing else
changes. -/
theorem grows_without_cycles (calls : List Call) (child parent : String) :
    let h := ofCalls calls
    h.IsSound ∧
      (∀ key v, h.find? key = some v →
        key = lower v.name ∧ (namesGiven {} calls).find? (lower · == key) = some v.name) ∧
      (h.addEdge? child parent = none ↔
        sameName child parent = true ∨ TransGen h.HasParent (lower parent) (lower child)) ∧
      (h.addEdge? child parent = none → h.call (.edge child parent) = h) ∧
      ∀ after, h.addEdge? child parent = some after →
        h.call (.edge child parent) = after ∧ h.Gains child parent after := by
  intro h
  have sound : h.IsSound := IsSound.empty.calls calls
  refine ⟨sound, ?_, addEdge?_eq_none_iff sound.closed, ?_, ?_⟩
  · intro key v found
    have isKey : v.key = key := by simpa using List.find?_some found
    have given := IsSound.empty.find?_name_calls calls key
    rw [show calls.foldl TypeHierarchy.call {} = h from rfl, found] at given
    exact ⟨isKey.symm, given.symm⟩
  · intro refused
    rw [TypeHierarchy.call, refused]
    rfl
  · intro after added
    exact ⟨by rw [TypeHierarchy.call, added]; rfl, sound.gains_of_addEdge? added⟩

end TypeHierarchy
end PddlAssist
