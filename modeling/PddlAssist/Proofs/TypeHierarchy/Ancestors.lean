import Mathlib.Data.List.Perm.Subperm
import Mathlib.Logic.Relation
import PddlAssist.TypeHierarchy

namespace PddlAssist.TypeHierarchy

open Text Relation

section Reach

variable {step : String → List String}

theorem mem_unseen {seen found : List String} {key : String} :
    key ∈ unseen seen found ↔ key ∈ found ∧ key ∉ seen := by
  induction found generalizing seen with
  | nil => simp [unseen]
  | cons k found ih =>
    by_cases known : k ∈ seen
    · have apart : key ∉ seen → key ≠ k := fun new same => new (same ▸ known)
      rw [unseen, if_pos (by simpa using known), ih, List.mem_cons]
      tauto
    · rw [unseen, if_neg (by simpa using known), List.mem_cons, ih, List.mem_cons, List.mem_cons]
      by_cases same : key = k
      · simp [same, known]
      · simp [same]

theorem nodup_unseen (seen found : List String) : (unseen seen found).Nodup := by
  induction found generalizing seen with
  | nil => exact .nil
  | cons k found ih =>
    rw [unseen]
    split
    · exact ih seen
    · refine List.nodup_cons.mpr ⟨?_, ih (k :: seen)⟩
      simp [mem_unseen]

theorem nodup_append_unseen {seen : List String} (distinct : seen.Nodup) (found : List String) :
    (seen ++ unseen seen found).Nodup := by
  refine List.nodup_append.mpr ⟨distinct, nodup_unseen seen found, ?_⟩
  rintro key isSeen _ isNext rfl
  exact (mem_unseen.mp isNext).2 isSeen

theorem append_unseen_subset {keys : List String} (inside : ∀ a, ∀ b ∈ step a, b ∈ keys) {seen : List String}
    (known : seen ⊆ keys) (frontier : List String) : seen ++ unseen seen (frontier.flatMap step) ⊆ keys := by
  refine List.append_subset.mpr ⟨known, fun key isNext => ?_⟩
  obtain ⟨a, _, edge⟩ := List.mem_flatMap.mp (mem_unseen.mp isNext).1
  exact inside a key edge

theorem transGen_of_mem_reach {n : Nat} {seen frontier : List String} {key : String}
    (reached : key ∈ reach step n seen frontier) :
    ∃ start ∈ frontier, TransGen (fun a b => b ∈ step a) start key := by
  induction n generalizing seen frontier with
  | zero => cases reached
  | succ n ih =>
    have near {k : String} (next : k ∈ unseen seen (frontier.flatMap step)) : ∃ start ∈ frontier, k ∈ step start :=
      List.mem_flatMap.mp (mem_unseen.mp next).1
    rcases List.mem_append.mp reached with next | later
    · obtain ⟨start, isStart, edge⟩ := near next
      exact ⟨start, isStart, .single edge⟩
    · obtain ⟨middle, next, way⟩ := ih later
      obtain ⟨start, isStart, edge⟩ := near next
      exact ⟨start, isStart, .head edge way⟩

theorem reach_nil (n : Nat) (seen : List String) : reach step n seen [] = [] := by
  refine List.eq_nil_iff_forall_not_mem.mpr fun key reached => ?_
  obtain ⟨_, isStart, _⟩ := transGen_of_mem_reach reached
  cases isStart

theorem not_mem_seen_of_mem_reach {n : Nat} {seen frontier : List String} {key : String}
    (reached : key ∈ reach step n seen frontier) : key ∉ seen := by
  induction n generalizing seen frontier with
  | zero => cases reached
  | succ n ih =>
    rcases List.mem_append.mp reached with next | later
    · exact (mem_unseen.mp next).2
    · exact fun isSeen => ih later (List.mem_append_left _ isSeen)

theorem nodup_reach (n : Nat) (seen frontier : List String) : (reach step n seen frontier).Nodup := by
  induction n generalizing seen frontier with
  | zero => exact .nil
  | succ n ih =>
    refine List.nodup_append.mpr ⟨nodup_unseen seen _, ih _ _, ?_⟩
    rintro key next _ later rfl
    exact not_mem_seen_of_mem_reach later (List.mem_append_right _ next)

theorem reach_add {keys : List String} (inside : ∀ a, ∀ b ∈ step a, b ∈ keys) {n : Nat} {seen frontier : List String}
    (distinct : seen.Nodup) (known : seen ⊆ keys) (spare : keys.length < n + seen.length) (more : Nat) :
    reach step (n + more) seen frontier = reach step n seen frontier := by
  induction n generalizing seen frontier with
  | zero =>
    have fits := (List.Nodup.subperm distinct known).length_le
    omega
  | succ n ih =>
    have distinct' := nodup_append_unseen distinct (frontier.flatMap step)
    have known' := append_unseen_subset inside known frontier
    rw [Nat.succ_add, reach, reach]
    generalize unseen seen (frontier.flatMap step) = next at distinct' known' ⊢
    cases next with
    | nil => rw [reach_nil, reach_nil]
    | cons k next =>
      rw [ih distinct' known']
      simp only [List.length_append, List.length_cons]
      omega

theorem reach_closed {keys : List String} (inside : ∀ a, ∀ b ∈ step a, b ∈ keys) {n : Nat}
    {seen frontier : List String} (distinct : seen.Nodup) (known : seen ⊆ keys) (spare : keys.length < n + seen.length)
    (expanded : ∀ a ∈ seen, a ∉ frontier → step a ⊆ seen) {a : String}
    (member : a ∈ frontier ∨ a ∈ seen ++ reach step n seen frontier) :
    step a ⊆ seen ++ reach step n seen frontier := by
  induction n generalizing seen frontier with
  | zero =>
    have fits := (List.Nodup.subperm distinct known).length_le
    omega
  | succ n ih =>
    have fresh {k : String} : k ∈ unseen seen (frontier.flatMap step) ↔ (∃ b ∈ frontier, k ∈ step b) ∧ k ∉ seen := by
      rw [mem_unseen, List.mem_flatMap]
    have distinct' := nodup_append_unseen distinct (frontier.flatMap step)
    have known' := append_unseen_subset inside known frontier
    rw [reach]
    rw [reach] at member
    generalize unseen seen (frontier.flatMap step) = next at fresh distinct' known' member ⊢
    have around {b : String} (old : b ∈ seen ∨ b ∈ frontier) : step b ⊆ seen ++ next := by
      intro k edge
      by_cases isSeen : k ∈ seen
      · exact List.mem_append_left _ isSeen
      · by_cases isFrontier : b ∈ frontier
        · exact List.mem_append_right _ (fresh.mpr ⟨⟨b, isFrontier, edge⟩, isSeen⟩)
        · exact absurd (expanded b (old.resolve_right isFrontier) isFrontier edge) isSeen
    rw [← List.append_assoc] at member ⊢
    cases next with
    | nil =>
      simp only [List.append_nil, reach_nil] at member around ⊢
      exact around member.symm
    | cons k next =>
      have before : a ∈ frontier ∨ a ∈ seen ∨ a ∈ (k :: next) ∨ a ∈ reach step n (seen ++ k :: next) (k :: next) := by
        simpa [or_assoc] using member
      by_cases old : a ∈ seen ∨ a ∈ frontier
      · exact fun b edge => List.mem_append_left _ (around old edge)
      · refine ih distinct' known' ?_ ?_ ?_
        · simp only [List.length_append, List.length_cons]
          omega
        · intro b isSeen notNext
          exact around (.inl ((List.mem_append.mp isSeen).resolve_right notNext))
        · simp only [List.mem_append]
          tauto

theorem mem_reach_iff {keys : List String} (inside : ∀ a, ∀ b ∈ step a, b ∈ keys) {n : Nat} (spare : keys.length < n)
    {key other : String} : other ∈ reach step n [] [key] ↔ TransGen (fun a b => b ∈ step a) key other := by
  constructor
  · intro reached
    obtain ⟨start, isStart, way⟩ := transGen_of_mem_reach reached
    rwa [List.mem_singleton.mp isStart] at way
  · intro way
    have onward {a : String} (member : a ∈ [key] ∨ a ∈ [] ++ reach step n [] [key]) :
        step a ⊆ [] ++ reach step n [] [key] :=
      reach_closed inside .nil (List.nil_subset _) spare (fun _ nothing => by cases nothing) member
    induction way with
    | single edge => exact onward (.inl (.head _)) edge
    | tail _ edge ih => exact onward (.inr ih) edge

end Reach

/-- `parent` is the key of a parent of the type with key `child`. -/
def HasParent (h : TypeHierarchy) (child parent : String) : Prop := parent ∈ h.parentKeys child

/-- All parents are types of the hierarchy. -/
def IsClosed (h : TypeHierarchy) : Prop := ∀ child parent, h.HasParent child parent → (h.find? parent).isSome

theorem mem_keys_of_find? {h : TypeHierarchy} {key : String} (isType : (h.find? key).isSome) :
    key ∈ h.vertices.map TypeVertex.key := by
  obtain ⟨v, member, same⟩ := List.find?_isSome.mp isType
  exact List.mem_map.mpr ⟨v, member, by simpa using same⟩

theorem IsClosed.mem_keys {h : TypeHierarchy} (closed : h.IsClosed) (child parent : String)
    (edge : parent ∈ h.parentKeys child) : parent ∈ h.vertices.map TypeVertex.key :=
  mem_keys_of_find? (closed child parent edge)

theorem mem_ancestorKeys_iff {h : TypeHierarchy} (closed : h.IsClosed) {key other : String} :
    other ∈ h.ancestorKeys key ↔ TransGen h.HasParent key other :=
  mem_reach_iff closed.mem_keys (by simp)

theorem closesCycle_iff {h : TypeHierarchy} (closed : h.IsClosed) {child parent : String} :
    h.closesCycle child parent = true ↔
      sameName child parent = true ∨ TransGen h.HasParent (lower parent) (lower child) := by
  rw [closesCycle, Bool.or_eq_true, List.contains_iff_mem, mem_ancestorKeys_iff closed, sameName]

end PddlAssist.TypeHierarchy
