import Mathlib.Data.List.Nodup
import PddlAssist.Proofs.Text.Case
import PddlAssist.Proofs.TypeHierarchy.Edges

namespace PddlAssist.TypeHierarchy

open Text Relation

theorem IsSorted.find?_of_mem {h : TypeHierarchy} (sorted : h.IsSorted) {v : TypeVertex} (member : v ∈ h.vertices) :
    h.find? v.key = some v := by
  have distinct : (h.vertices.map TypeVertex.key).Nodup :=
    List.pairwise_map.mpr (sorted.keys.imp fun before => ne_of_lt before)
  cases found : h.find? v.key with
  | none => exact absurd member (by simpa using fun isVertex => List.find?_eq_none.mp found v isVertex)
  | some w =>
    have isKey : w.key = v.key := by simpa using List.find?_some found
    rw [List.inj_on_of_nodup_map distinct (List.mem_of_find?_eq_some found) member isKey]

theorem lower_displayName {h : TypeHierarchy} {key : String} (isKey : lower key = key) :
    lower (h.displayName key) = key := by
  rw [displayName]
  cases found : h.find? key with
  | none => exact isKey
  | some v => simpa [TypeVertex.key] using List.find?_some found

theorem lower_key {h : TypeHierarchy} {key : String} (isType : (h.find? key).isSome) : lower key = key := by
  obtain ⟨v, found⟩ := Option.isSome_iff_exists.mp isType
  have isKey : lower v.name = key := by simpa [TypeVertex.key] using List.find?_some found
  rw [← isKey, lower_lower]

theorem isSome_find?_of_hasParent {h : TypeHierarchy} {child parent : String} (edge : h.HasParent child parent) :
    (h.find? child).isSome := by
  obtain ⟨v, found, _⟩ := hasParent_iff.mp edge
  simp [found]

theorem IsSound.lower_displayName {h : TypeHierarchy} (sound : h.IsSound) {child parent : String}
    (edge : h.HasParent child parent) : lower (h.displayName parent) = parent :=
  TypeHierarchy.lower_displayName (lower_key (sound.closed child parent edge))

theorem IsSound.mem_edges_iff {h : TypeHierarchy} (sound : h.IsSound) {child parent : String} :
    (child, parent) ∈ h.edges.map (fun edge => (lower edge.1, lower edge.2)) ↔ h.HasParent child parent := by
  simp only [edges, List.mem_map, List.mem_flatMap, Prod.mk.injEq, Prod.exists]
  constructor
  · rintro ⟨_, _, ⟨v, isVertex, key, isParent, rfl, rfl⟩, rfl, rfl⟩
    have edge : h.HasParent v.key key := hasParent_iff.mpr ⟨v, sound.sorted.find?_of_mem isVertex, isParent⟩
    rw [sound.lower_displayName edge]
    exact edge
  · intro edge
    obtain ⟨v, found, isParent⟩ := hasParent_iff.mp edge
    have isKey : v.key = child := by simpa using List.find?_some found
    exact ⟨v.name, _, ⟨v, List.mem_of_find?_eq_some found, parent, isParent, rfl, rfl⟩, isKey,
      sound.lower_displayName edge⟩

theorem parents_isEmpty {h : TypeHierarchy} {name : String} :
    (h.parents name).isEmpty = true ↔ ∀ parent, ¬ h.HasParent (lower name) parent := by
  rw [parents, List.isEmpty_iff, List.map_eq_nil_iff, List.eq_nil_iff_forall_not_mem]
  rfl

theorem IsSorted.mem_childKeys_iff {h : TypeHierarchy} (sorted : h.IsSorted) {child parent : String} :
    child ∈ h.childKeys parent ↔ h.HasParent child parent := by
  simp only [childKeys, List.mem_map, List.mem_filter, List.contains_iff_mem, hasParent_iff]
  constructor
  · rintro ⟨v, ⟨isVertex, isParent⟩, rfl⟩
    exact ⟨v, sorted.find?_of_mem isVertex, isParent⟩
  · rintro ⟨v, found, isParent⟩
    exact ⟨v, ⟨List.mem_of_find?_eq_some found, isParent⟩, by simpa using List.find?_some found⟩

theorem childKeys_subset (h : TypeHierarchy) (parent : String) :
    ∀ child ∈ h.childKeys parent, child ∈ h.vertices.map TypeVertex.key := by
  intro child member
  obtain ⟨v, isChild, same⟩ := List.mem_map.mp member
  exact List.mem_map.mpr ⟨v, (List.mem_filter.mp isChild).1, same⟩

theorem IsSorted.mem_descendantKeys_iff {h : TypeHierarchy} (sorted : h.IsSorted) {key other : String} :
    other ∈ h.descendantKeys key ↔ TransGen h.HasParent other key := by
  have downwards : (fun a b => b ∈ h.childKeys a) = Function.swap h.HasParent := by
    funext parent child
    exact propext sorted.mem_childKeys_iff
  rw [descendantKeys, mem_reach_iff h.childKeys_subset (by simp), downwards, transGen_swap]

theorem IsClosed.reach_eq {h : TypeHierarchy} (closed : h.IsClosed) {rounds : Nat} (enough : h.vertices.length < rounds)
    (key : String) : reach h.parentKeys rounds [] [key] = h.ancestorKeys key ∧
      reach h.childKeys rounds [] [key] = h.descendantKeys key := by
  obtain ⟨more, rfl⟩ := Nat.exists_eq_add_of_lt enough
  rw [show h.vertices.length + more + 1 = h.vertices.length + 1 + more by omega]
  exact ⟨reach_add closed.mem_keys .nil (List.nil_subset _) (by simp) more,
    reach_add h.childKeys_subset .nil (List.nil_subset _) (by simp) more⟩

namespace IsSound

variable {h : TypeHierarchy} (sound : h.IsSound)
include sound

theorem isSome_of_transGen {child ancestor : String} (way : TransGen h.HasParent child ancestor) :
    (h.find? child).isSome ∧ (h.find? ancestor).isSome := by
  obtain ⟨_, first, _⟩ := TransGen.head'_iff.mp way
  obtain ⟨_, _, last⟩ := TransGen.tail'_iff.mp way
  exact ⟨isSome_find?_of_hasParent first, sound.closed _ _ last⟩

theorem lower_displayName_of_transGen {child ancestor : String} (way : TransGen h.HasParent child ancestor) :
    lower (h.displayName ancestor) = ancestor :=
  TypeHierarchy.lower_displayName (lower_key (sound.isSome_of_transGen way).2)

theorem map_lower_ancestors (name : String) : (h.ancestors name).map lower = h.ancestorKeys (lower name) := by
  rw [ancestors, List.map_map]
  conv_rhs => rw [← List.map_id (h.ancestorKeys (lower name))]
  refine List.map_congr_left fun key member => ?_
  exact sound.lower_displayName_of_transGen ((mem_ancestorKeys_iff sound.closed).mp member)

omit sound in
theorem map_lower_inheriting (name : String) :
    (h.inheriting name).map lower =
      (h.vertices.map TypeVertex.key).filter ((h.descendantKeys (lower name)).contains ·) := by
  rw [inheriting, List.map_map, List.filter_map]
  rfl

theorem mem_ancestors_iff {a b : String} :
    h.displayName (lower a) ∈ h.ancestors b ↔ TransGen h.HasParent (lower b) (lower a) := by
  rw [← mem_ancestorKeys_iff sound.closed]
  constructor
  · intro member
    have isKey := List.mem_map_of_mem (f := lower) member
    rwa [sound.map_lower_ancestors, TypeHierarchy.lower_displayName (lower_lower a)] at isKey
  · intro isKey
    exact List.mem_map_of_mem isKey

theorem mem_inheriting_iff {a b : String} :
    h.displayName (lower b) ∈ h.inheriting a ↔ TransGen h.HasParent (lower b) (lower a) := by
  constructor
  · intro member
    have isKey := List.mem_map_of_mem (f := lower) member
    rw [map_lower_inheriting, TypeHierarchy.lower_displayName (lower_lower b)] at isKey
    exact sound.sorted.mem_descendantKeys_iff.mp (by simpa using (List.mem_filter.mp isKey).2)
  · intro way
    obtain ⟨v, found⟩ := Option.isSome_iff_exists.mp (sound.isSome_of_transGen way).1
    have isKey : v.key = lower b := by simpa using List.find?_some found
    have below : v.key ∈ h.descendantKeys (lower a) := isKey ▸ sound.sorted.mem_descendantKeys_iff.mpr way
    rw [displayName, found]
    exact List.mem_map.mpr ⟨v, List.mem_filter.mpr ⟨List.mem_of_find?_eq_some found, by simpa using below⟩, rfl⟩

theorem nodup_ancestors (name : String) : ((h.ancestors name).map lower).Nodup := by
  rw [sound.map_lower_ancestors]
  exact nodup_reach _ _ _

theorem sorted_inheriting (name : String) : ((h.inheriting name).map lower).Pairwise (· < ·) := by
  rw [map_lower_inheriting]
  exact (List.pairwise_map.mpr sound.sorted.keys).filter _

theorem isSubtype_iff {child ancestor : String} : h.isSubtype child ancestor = true ↔
    sameName child ancestor = true ∨ TransGen h.HasParent (lower child) (lower ancestor) := by
  rw [isSubtype, Bool.or_eq_true, List.contains_iff_mem, mem_ancestorKeys_iff sound.closed]

theorem isSubtype_iff_reflTransGen {child ancestor : String} : h.isSubtype child ancestor = true ↔
    ReflTransGen h.HasParent (lower child) (lower ancestor) := by
  rw [sound.isSubtype_iff, reflTransGen_iff_eq_or_transGen, sameName_iff, eq_comm]

theorem isSubtype_trans {a b c : String} (first : h.isSubtype a b = true) (second : h.isSubtype b c = true) :
    h.isSubtype a c = true := by
  rw [sound.isSubtype_iff_reflTransGen] at *
  exact first.trans second

/-- Two names are below each other only if they are one name: otherwise paths back and forth would close a cycle. -/
theorem sameName_iff_isSubtype {a b : String} :
    sameName a b = true ↔ h.isSubtype a b = true ∧ h.isSubtype b a = true := by
  constructor
  · intro same
    exact ⟨sound.isSubtype_iff.mpr (.inl same), sound.isSubtype_iff.mpr (.inl (sameName_comm a b ▸ same))⟩
  · rintro ⟨upwards, downwards⟩
    rcases sound.isSubtype_iff.mp upwards with same | way
    · exact same
    · rcases sound.isSubtype_iff.mp downwards with same | back
      · rwa [sameName_comm]
      · exact absurd (way.trans back) (sound.acyclic _)

end IsSound

/-- After any requests to an empty hierarchy, `a` is shown among the ancestors of `b`, and `b` among the types that
inherit from `a`, exactly if parent edges lead from `b` to `a`. No type is listed twice, and those that inherit stand in
the order of their keys. To be a subtype is to be the same name or to have a path of edges, and it orders names without
their case. -/
theorem queries_follow_edges (calls : List Call) :
    let h := ofCalls calls
    (∀ a b, (TransGen h.HasParent (lower b) (lower a) ↔ h.displayName (lower a) ∈ h.ancestors b) ∧
      (TransGen h.HasParent (lower b) (lower a) ↔ h.displayName (lower b) ∈ h.inheriting a)) ∧
      (∀ name, ((h.ancestors name).map lower).Nodup ∧ ((h.inheriting name).map lower).Pairwise (· < ·)) ∧
      (∀ a b, h.isSubtype a b = true ↔ sameName a b = true ∨ TransGen h.HasParent (lower a) (lower b)) ∧
      (∀ a b, sameName a b = true ↔ h.isSubtype a b = true ∧ h.isSubtype b a = true) ∧
      (∀ a b c, h.isSubtype a b = true → h.isSubtype b c = true → h.isSubtype a c = true) ∧
      ∀ rounds key, h.vertices.length < rounds →
        reach h.parentKeys rounds [] [key] = h.ancestorKeys key ∧
          reach h.childKeys rounds [] [key] = h.descendantKeys key := by
  intro h
  have sound : h.IsSound := IsSound.empty.calls calls
  refine ⟨fun a b => ⟨?_, ?_⟩, fun name => ⟨?_, ?_⟩, ?_, ?_, ?_, ?_⟩
  · exact sound.mem_ancestors_iff.symm
  · exact sound.mem_inheriting_iff.symm
  · exact sound.nodup_ancestors name
  · exact sound.sorted_inheriting name
  · exact fun a b => sound.isSubtype_iff
  · exact fun a b => sound.sameName_iff_isSubtype
  · exact fun a b c => sound.isSubtype_trans
  · exact fun rounds key enough => sound.closed.reach_eq enough key

end PddlAssist.TypeHierarchy
