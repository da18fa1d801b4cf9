import Mathlib.Data.Nat.Find
import PddlAssist.Proofs.TypeHierarchy.Queries

namespace PddlAssist.TypeHierarchy

open Text Relation

inductive Chain (edge : String → String → Prop) (start : String) : Nat → String → Prop where
  | nil : Chain edge start 0 start
  | snoc {n : Nat} {key parent : String} (chain : Chain edge start n key) (last : edge key parent) :
    Chain edge start (n + 1) parent

/-- The shortest chain of edges from `start` to a type has so many of them. -/
structure IsDistance (edge : String → String → Prop) (start : String) (n : Nat) (key : String) : Prop where
  chain : Chain edge start n key
  shortest : ∀ m, Chain edge start m key → n ≤ m

section

variable {edge : String → String → Prop} {start key : String}

theorem Chain.transGen {n : Nat} (chain : Chain edge start n key) (some : 0 < n) : TransGen edge start key := by
  induction chain with
  | nil => exact absurd some (Nat.lt_irrefl 0)
  | @snoc n key parent chain last ih =>
    cases chain with
    | nil => exact .single last
    | snoc => exact .tail (ih (Nat.succ_pos _)) last

theorem transGen_iff_chain : TransGen edge start key ↔ ∃ n, 0 < n ∧ Chain edge start n key := by
  constructor
  · intro way
    induction way with
    | single last => exact ⟨1, Nat.one_pos, .snoc .nil last⟩
    | tail _ last ih =>
      obtain ⟨n, _, chain⟩ := ih
      exact ⟨n + 1, Nat.succ_pos n, .snoc chain last⟩
  · rintro ⟨n, some, chain⟩
    exact chain.transGen some

theorem Chain.exists_distance {n : Nat} (chain : Chain edge start n key) : ∃ m ≤ n, IsDistance edge start m key := by
  classical
  have reached : ∃ m, Chain edge start m key := ⟨n, chain⟩
  exact ⟨Nat.find reached, Nat.find_min' reached chain, Nat.find_spec reached, fun m => Nat.find_min' reached⟩

end

section

variable {step : String → List String} {start : String} {n : Nat} {seen frontier : List String}

/-- What a walk has seen, and what it goes on from, after so many rounds. -/
structure Level (step : String → List String) (start : String) (n : Nat) (seen frontier : List String) : Prop where
  seen : ∀ key, key ∈ seen ↔ ∃ m, 0 < m ∧ m ≤ n ∧ IsDistance (fun a b => b ∈ step a) start m key
  frontier : ∀ key, key ∈ frontier ↔ IsDistance (fun a b => b ∈ step a) start n key

theorem Level.zero (step : String → List String) (start : String) : Level step start 0 [] [start] where
  seen key := by
    refine iff_of_false List.not_mem_nil ?_
    rintro ⟨m, some, none, _⟩
    omega
  frontier key := by
    rw [List.mem_singleton]
    constructor
    · rintro rfl
      exact ⟨.nil, fun m _ => Nat.zero_le m⟩
    · rintro ⟨chain, _⟩
      cases chain
      rfl

theorem Level.mem_unseen_iff (acyclic : ¬ TransGen (fun a b => b ∈ step a) start start)
    (level : Level step start n seen frontier) {key : String} :
    key ∈ unseen seen (frontier.flatMap step) ↔ IsDistance (fun a b => b ∈ step a) start (n + 1) key := by
  rw [mem_unseen, List.mem_flatMap, level.seen]
  constructor
  · rintro ⟨⟨before, isFrontier, last⟩, new⟩
    have chain := ((level.frontier before).mp isFrontier).chain.snoc last
    refine ⟨chain, fun m shorter => Nat.lt_of_not_le fun within => ?_⟩
    obtain ⟨least, least_le, distance⟩ := shorter.exists_distance
    -- a shorter chain would lead back to the start or to a type that has been seen
    cases least with
    | zero =>
      cases distance.chain
      exact acyclic (chain.transGen (Nat.succ_pos n))
    | succ least => exact new ⟨least + 1, Nat.succ_pos least, by omega, distance⟩
  · rintro ⟨chain, shortest⟩
    constructor
    · cases chain with
      | @snoc _ before _ chain last =>
        refine ⟨before, (level.frontier before).mpr ⟨chain, fun m shorter => ?_⟩, last⟩
        have := shortest (m + 1) (shorter.snoc last)
        omega
    · rintro ⟨m, _, within, distance⟩
      have := shortest m distance.chain
      omega

theorem Level.next (acyclic : ¬ TransGen (fun a b => b ∈ step a) start start)
    (level : Level step start n seen frontier) :
    Level step start (n + 1) (seen ++ unseen seen (frontier.flatMap step)) (unseen seen (frontier.flatMap step)) where
  seen key := by
    rw [List.mem_append, level.mem_unseen_iff acyclic, level.seen]
    constructor
    · rintro (⟨m, some, within, distance⟩ | distance)
      · exact ⟨m, some, by omega, distance⟩
      · exact ⟨n + 1, Nat.succ_pos n, Nat.le_refl _, distance⟩
    · rintro ⟨m, some, within, distance⟩
      rcases Nat.le_succ_iff.mp within with earlier | rfl
      · exact .inl ⟨m, some, earlier, distance⟩
      · exact .inr distance
  frontier _ := level.mem_unseen_iff acyclic

def IsNearer (edge : String → String → Prop) (start near far : String) : Prop :=
  ∃ i j, i ≤ j ∧ IsDistance edge start i near ∧ IsDistance edge start j far

theorem Level.reach_sorted (acyclic : ¬ TransGen (fun a b => b ∈ step a) start start)
    (level : Level step start n seen frontier) (rounds : Nat) :
    (∀ key ∈ reach step rounds seen frontier, ∃ m, n < m ∧ IsDistance (fun a b => b ∈ step a) start m key) ∧
      (reach step rounds seen frontier).Pairwise (IsNearer (fun a b => b ∈ step a) start) := by
  -- what a round finds is at one distance, and all that later rounds find is further away
  induction rounds generalizing n seen frontier with
  | zero => exact ⟨fun _ nothing => (List.not_mem_nil nothing).elim, .nil⟩
  | succ rounds ih =>
    obtain ⟨further, sorted⟩ := ih (level.next acyclic)
    have here (key : String) : key ∈ unseen seen (frontier.flatMap step) ↔
        IsDistance (fun a b => b ∈ step a) start (n + 1) key := level.mem_unseen_iff acyclic
    rw [reach]
    constructor
    · intro key reached
      rcases List.mem_append.mp reached with next | later
      · exact ⟨n + 1, Nat.lt_succ_self n, (here key).mp next⟩
      · obtain ⟨m, beyond, distance⟩ := further key later
        exact ⟨m, by omega, distance⟩
    · refine List.pairwise_append.mpr ⟨?_, sorted, ?_⟩
      · exact List.pairwise_of_forall_mem_list fun near isNear far isFar =>
          ⟨n + 1, n + 1, Nat.le_refl _, (here near).mp isNear, (here far).mp isFar⟩
      · intro near isNear far isFar
        obtain ⟨m, beyond, distance⟩ := further far isFar
        exact ⟨n + 1, m, Nat.le_of_lt beyond, (here near).mp isNear, distance⟩

end

section Queue

variable {step : String → List String}

def queueWalk (step : String → List String) : Nat → List String → List String → List String
  | 0, _, _ => []
  | _ + 1, _, [] => []
  | n + 1, seen, key :: queue =>
    let next := unseen seen (step key)
    next ++ queueWalk step n (seen ++ next) (queue ++ next)

theorem queueWalk_nil (n : Nat) (seen : List String) : queueWalk step n seen [] = [] := by
  cases n <;> rfl

theorem unseen_congr {seen seen' : List String} (same : ∀ key, key ∈ seen ↔ key ∈ seen') (found : List String) :
    unseen seen found = unseen seen' found := by
  induction found generalizing seen seen' with
  | nil => rfl
  | cons k found ih =>
    have sameTest : seen.contains k = seen'.contains k := by simp [same]
    have sameMore : ∀ key, key ∈ k :: seen ↔ key ∈ k :: seen' := by simp [same]
    rw [unseen, unseen, sameTest, ih same, ih sameMore]

theorem unseen_append (seen left right : List String) :
    unseen seen (left ++ right) = unseen seen left ++ unseen (seen ++ unseen seen left) right := by
  induction left generalizing seen with
  | nil => simp [unseen]
  | cons k left ih =>
    rw [List.cons_append, unseen, unseen]
    split
    · exact ih seen
    · rw [ih, List.cons_append]
      congr 2
      refine unseen_congr (fun key => ?_) right
      simp only [List.mem_append, List.mem_cons]
      tauto

theorem queueWalk_round (n : Nat) (seen frontier queue : List String) :
    queueWalk step (frontier.length + n) seen (frontier ++ queue) =
      unseen seen (frontier.flatMap step) ++ queueWalk step n (seen ++ unseen seen (frontier.flatMap step))
        (queue ++ unseen seen (frontier.flatMap step)) := by
  induction frontier generalizing seen queue with
  | nil => simp [unseen]
  | cons key frontier ih =>
    have rounds : (key :: frontier).length + n = frontier.length + n + 1 := by
      rw [List.length_cons]
      omega
    rw [rounds, List.cons_append, queueWalk, List.append_assoc, ih, List.flatMap_cons, unseen_append]
    simp only [List.append_assoc]

theorem queueWalk_eq_reach {keys : List String} (inside : ∀ a, ∀ b ∈ step a, b ∈ keys) {n : Nat}
    {seen frontier : List String} (distinct : seen.Nodup) (known : seen ⊆ keys) (spare : keys.length < n + seen.length)
    {rounds : Nat} (enough : frontier.length + (reach step n seen frontier).length ≤ rounds) :
    queueWalk step rounds seen frontier = reach step n seen frontier := by
  induction n generalizing seen frontier rounds with
  | zero =>
    have fits := (List.Nodup.subperm distinct known).length_le
    omega
  | succ n ih =>
    have distinct' := nodup_append_unseen distinct (frontier.flatMap step)
    have known' := append_unseen_subset inside known frontier
    obtain ⟨more, rfl⟩ := Nat.exists_eq_add_of_le (Nat.le_trans (Nat.le_add_right _ _) enough)
    have round := @queueWalk_round step more seen frontier []
    rw [List.append_nil, List.nil_append] at round
    rw [reach] at enough ⊢
    rw [round]
    generalize unseen seen (frontier.flatMap step) = next at distinct' known' enough ⊢
    cases next with
    | nil => rw [queueWalk_nil, reach_nil]
    | cons key next =>
      rw [List.length_append] at enough
      rw [ih distinct' known' _ (by omega)]
      simp only [List.length_append, List.length_cons]
      omega

end Queue

theorem IsClosed.length_ancestorKeys {h : TypeHierarchy} (closed : h.IsClosed) (key : String) :
    (h.ancestorKeys key).length ≤ h.vertices.length := by
  have known : h.ancestorKeys key ⊆ h.vertices.map TypeVertex.key := by
    intro ancestor member
    obtain ⟨child, _, edge⟩ := TransGen.tail'_iff.mp ((mem_ancestorKeys_iff closed).mp member)
    exact closed.mem_keys child ancestor edge
  have fits := (List.Nodup.subperm (nodup_reach _ _ _) known).length_le
  rwa [List.length_map] at fits

theorem IsClosed.queueWalk_eq {h : TypeHierarchy} (closed : h.IsClosed) (key : String) {rounds : Nat}
    (enough : h.vertices.length < rounds) : queueWalk h.parentKeys rounds [] [key] = h.ancestorKeys key := by
  refine queueWalk_eq_reach closed.mem_keys .nil (List.nil_subset _) (by simp) ?_
  have fits := closed.length_ancestorKeys key
  rw [ancestorKeys] at fits
  rw [List.length_singleton]
  omega

theorem IsSound.ancestorKeys_sorted {h : TypeHierarchy} (sound : h.IsSound) (key : String) :
    (h.ancestorKeys key).Pairwise (IsNearer h.HasParent key) :=
  ((Level.zero h.parentKeys key).reach_sorted (sound.acyclic key) _).2

/-- After any requests to an empty hierarchy, the ancestors of a name are the types to which chains of parent edges lead
from it, each once, and a type is listed behind another only if its shortest chain is not shorter. A queue from which
types are taken one by one leads to the same list. -/
theorem ancestors_stand_nearest_first (calls : List Call) (name : String) :
    let h := ofCalls calls
    (∀ key, key ∈ (h.ancestors name).map lower ↔ ∃ n, 0 < n ∧ Chain h.HasParent (lower name) n key) ∧
      ((h.ancestors name).map lower).Nodup ∧
      ((h.ancestors name).map lower).Pairwise (IsNearer h.HasParent (lower name)) ∧
      ∀ more, (queueWalk h.parentKeys (h.vertices.length + 1 + more) [] [lower name]).map h.displayName =
        h.ancestors name := by
  intro h
  have sound : h.IsSound := IsSound.empty.calls calls
  refine ⟨fun key => ?_, sound.nodup_ancestors name, ?_, fun more => ?_⟩
  · rw [sound.map_lower_ancestors, mem_ancestorKeys_iff sound.closed, transGen_iff_chain]
  · rw [sound.map_lower_ancestors]
    exact sound.ancestorKeys_sorted (lower name)
  · rw [sound.closed.queueWalk_eq (lower name) (by omega)]
    rfl

example : (ofCalls [.edge "a" "b", .edge "b" "c", .edge "c" "z", .edge "A" "z"]).ancestors "a" =
    ["b", "z", "c"] := by decide

end PddlAssist.TypeHierarchy
