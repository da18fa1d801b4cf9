import PddlAssist.Domain.Reader
import PddlAssist.Proofs.TypeHierarchy.Queries

namespace PddlAssist

open Text Relation

namespace Domain

open TypeHierarchy

theorem hangUnderRoot_all {types : List String} (inner : ∀ t ∈ types, lower t ≠ lower rootType) {h : TypeHierarchy}
    (sound : h.IsSound) (top : ∀ parent, ¬ h.HasParent (lower rootType) parent) :
    (types.foldl hangUnderRoot h).IsSound ∧ ∀ a b, (types.foldl hangUnderRoot h).HasParent a b ↔
      h.HasParent a b ∨ b = lower rootType ∧ a ∈ types.map lower ∧ ∀ c, ¬ h.HasParent a c := by
  induction types generalizing h with
  | nil => exact ⟨sound, fun a b => by simp⟩
  | cons t rest ih =>
    rw [List.forall_mem_cons] at inner
    rw [List.foldl_cons]
    by_cases bare : ∀ parent, ¬ h.HasParent (lower t) parent
    · have allowed : h.addEdge? t rootType ≠ none := by
        rw [Ne, addEdge?_eq_none_iff sound.closed, sameName_iff, not_or]
        refine ⟨inner.1, fun way => ?_⟩
        obtain ⟨_, edge, _⟩ := TransGen.head'_iff.mp way
        exact top _ edge
      obtain ⟨after, added⟩ := Option.ne_none_iff_exists'.mp allowed
      have isAfter : hangUnderRoot h t = after := by
        have differs : sameName t rootType = false := by
          rw [← Bool.not_eq_true, sameName_iff]
          exact inner.1
        simp only [hangUnderRoot, parents_isEmpty.mpr bare, differs, Bool.not_false, Bool.and_self, if_true, added,
          Option.getD_some]
      have gains := sound.gains_of_addEdge? added
      have top' : ∀ parent, ¬ after.HasParent (lower rootType) parent := by
        intro parent edge
        rcases (gains.edges _ _).mp edge with old | ⟨same, _⟩
        · exact top parent old
        · exact inner.1 same.symm
      obtain ⟨sound', edges⟩ := ih inner.2 (sound.addEdge? added) top'
      rw [isAfter]
      refine ⟨sound', fun a b => ?_⟩
      rw [edges, gains.edges]
      by_cases here : a = lower t
      · subst here
        simp [gains.edges, bare]
      · simp [gains.edges, here]
    · have isSame : hangUnderRoot h t = h := by
        have notEmpty : (h.parents t).isEmpty = false := by
          rw [← Bool.not_eq_true, parents_isEmpty]
          exact bare
        simp [hangUnderRoot, notEmpty]
      obtain ⟨sound', edges⟩ := ih inner.2 sound top
      rw [isSame]
      refine ⟨sound', fun a b => ?_⟩
      rw [edges]
      by_cases here : a = lower t
      · subst here
        simp [bare]
      · simp [here]

def untyped (d : Domain) : Domain := { d with types := [], hierarchy := {} }

theorem readTypes_untyped (document : Document) (r : Reading) (part : Node) :
    (readTypes document r part).domain.untyped = r.domain.untyped := by
  have parents (entry : TypedEntry) (types : List String) (r : Reading) :
      (types.foldl (declareParent document entry) r).domain.untyped = r.domain.untyped := by
    induction types generalizing r with
    | nil => rfl
    | cons parent rest ih =>
      rw [List.foldl_cons, ih, declareParent]
      split <;> rfl
  have entries (entries : List TypedEntry) (r : Reading) :
      (entries.foldl (declareType document) r).domain.untyped = r.domain.untyped := by
    induction entries generalizing r with
    | nil => rfl
    | cons entry rest ih =>
      rw [List.foldl_cons, ih, declareType, parents]
      rfl
  exact entries _ r

theorem mem_addName {names : List String} {name key : String} :
    key ∈ (addName names name).map lower ↔ key ∈ names.map lower ∨ key = lower name := by
  rw [addName]
  split
  case isTrue known =>
    obtain ⟨other, member, same⟩ := List.any_eq_true.mp known
    refine ⟨.inl, ?_⟩
    rintro (old | rfl)
    · exact old
    · exact List.mem_map.mpr ⟨other, member, sameName_iff.mp same⟩
  case isFalse => simp

def IsBelow (entries : List TypedEntry) (child parent : String) : Prop :=
  ∃ e ∈ entries, lower e.name = child ∧ ∃ p ∈ e.types, lower p = parent

def Mentions (entries : List TypedEntry) (name : String) : Prop :=
  ∃ e ∈ entries, lower e.name = name ∨ name ≠ lower rootType ∧ ∃ p ∈ e.types, lower p = name

/-- A reading has the edges `below` and knows the types `known`. -/
structure Shows (r : Reading) (below : String → String → Prop) (known : String → Prop) : Prop where
  sound : r.domain.hierarchy.IsSound
  edges : ∀ a b, r.domain.hierarchy.HasParent a b ↔ below a b
  names : ∀ a, a ∈ r.domain.types.map lower ↔ known a

section

variable (document : Document) {all below : String → String → Prop} {known : String → Prop} {r : Reading}

theorem Shows.congr (shows : Shows r below known) {below' : String → String → Prop} {known' : String → Prop}
    (edges : ∀ a b, below a b ↔ below' a b) (names : ∀ a, known a ↔ known' a) : Shows r below' known' :=
  ⟨shows.sound, fun a b => (shows.edges a b).trans (edges a b), fun a => (shows.names a).trans (names a)⟩

theorem Shows.declareParent (shows : Shows r below known) (acyclic : ∀ a, ¬ TransGen all a a)
    (inside : ∀ a b, below a b → all a b) {entry : TypedEntry} {parent : String}
    (declared : all (lower entry.name) (lower parent)) :
    Shows (declareParent document entry r parent)
        (fun a b => below a b ∨ lower entry.name = a ∧ lower parent = b)
        (fun a => known a ∨ a ≠ lower rootType ∧ lower parent = a) ∧
      (Domain.declareParent document entry r parent).issues = r.issues := by
  have allowed : r.domain.hierarchy.addEdge? entry.name parent ≠ none := by
    rw [Ne, addEdge?_eq_none_iff shows.sound.closed, sameName_iff, not_or]
    constructor
    · intro same
      exact acyclic _ (.single (same ▸ declared))
    · intro way
      have back := TransGen.mono (fun a b edge => inside a b ((shows.edges a b).mp edge)) _ _ way
      exact acyclic _ (back.head declared)
  obtain ⟨after, added⟩ := Option.ne_none_iff_exists'.mp allowed
  have gains := shows.sound.gains_of_addEdge? added
  simp only [Domain.declareParent, added, and_true]
  refine ⟨shows.sound.addEdge? added, fun a b => ?_, fun a => ?_⟩
  · rw [gains.edges, shows.edges, eq_comm (a := a), eq_comm (a := b)]
  dsimp only
  split
  case isTrue isRoot =>
    rw [shows.names, ← sameName_iff.mp isRoot, iff_self_or]
    exact fun ⟨differs, same⟩ => absurd same.symm differs
  case isFalse notRoot =>
    rw [mem_addName, shows.names, eq_comm (a := a)]
    refine or_congr_right ⟨fun same => ⟨fun isRoot => notRoot ?_, same⟩, And.right⟩
    rw [sameName_iff, same, isRoot]

theorem Shows.declareParents (shows : Shows r below known) (acyclic : ∀ a, ¬ TransGen all a a)
    (inside : ∀ a b, below a b → all a b) {entry : TypedEntry} {parents : List String}
    (declared : ∀ p ∈ parents, all (lower entry.name) (lower p)) :
    Shows (parents.foldl (Domain.declareParent document entry) r)
        (fun a b => below a b ∨ lower entry.name = a ∧ ∃ p ∈ parents, lower p = b)
        (fun a => known a ∨ a ≠ lower rootType ∧ ∃ p ∈ parents, lower p = a) ∧
      (parents.foldl (Domain.declareParent document entry) r).issues = r.issues := by
  induction parents generalizing r below known with
  | nil => exact ⟨shows.congr (by simp) (by simp), rfl⟩
  | cons parent rest ih =>
    rw [List.forall_mem_cons] at declared
    obtain ⟨first, quiet⟩ := shows.declareParent document acyclic inside declared.1
    have inside' : ∀ a b, (below a b ∨ lower entry.name = a ∧ lower parent = b) → all a b := by
      rintro a b (old | ⟨rfl, rfl⟩)
      · exact inside a b old
      · exact declared.1
    obtain ⟨later, quiet'⟩ := ih first inside' declared.2
    refine ⟨later.congr (fun a b => ?_) (fun a => ?_), quiet'.trans quiet⟩
    · simp only [List.mem_cons, exists_eq_or_imp, or_assoc, ← and_or_left]
    · simp only [List.mem_cons, exists_eq_or_imp, or_assoc, ← and_or_left]

theorem Shows.declareType (shows : Shows r below known) (acyclic : ∀ a, ¬ TransGen all a a)
    (inside : ∀ a b, below a b → all a b) {entry : TypedEntry}
    (declared : ∀ p ∈ entry.types, all (lower entry.name) (lower p)) :
    Shows (Domain.declareType document r entry)
        (fun a b => below a b ∨ lower entry.name = a ∧ ∃ p ∈ entry.types, lower p = b)
        (fun a => known a ∨ lower entry.name = a ∨ a ≠ lower rootType ∧ ∃ p ∈ entry.types, lower p = a) ∧
      (Domain.declareType document r entry).issues = r.issues := by
  have named : Shows
      { r with domain := { r.domain with
        types := addName r.domain.types entry.name
        hierarchy := r.domain.hierarchy.addType entry.name } } below (fun a => known a ∨ lower entry.name = a) := by
    refine ⟨shows.sound.addType entry.name, fun a b => ?_, fun a => ?_⟩
    · rw [hasParent_addType shows.sound.sorted, shows.edges]
    · rw [mem_addName, shows.names, eq_comm (a := a)]
  obtain ⟨later, quiet⟩ := named.declareParents document acyclic inside declared
  exact ⟨later.congr (fun _ _ => .rfl) (fun _ => or_assoc), quiet⟩

theorem Shows.declareTypes (shows : Shows r below known) (acyclic : ∀ a, ¬ TransGen all a a)
    (inside : ∀ a b, below a b → all a b) {entries : List TypedEntry}
    (declared : ∀ a b, IsBelow entries a b → all a b) :
    Shows (entries.foldl (Domain.declareType document) r) (fun a b => below a b ∨ IsBelow entries a b)
        (fun a => known a ∨ Mentions entries a) ∧
      (entries.foldl (Domain.declareType document) r).issues = r.issues := by
  induction entries generalizing r below known with
  | nil => exact ⟨shows.congr (by simp [IsBelow]) (by simp [Mentions]), rfl⟩
  | cons entry rest ih =>
    have here : ∀ p ∈ entry.types, all (lower entry.name) (lower p) := fun p member =>
      declared _ _ ⟨entry, .head _, rfl, p, member, rfl⟩
    obtain ⟨first, quiet⟩ := shows.declareType document acyclic inside here
    have inside' : ∀ a b, (below a b ∨ lower entry.name = a ∧ ∃ p ∈ entry.types, lower p = b) → all a b := by
      rintro a b (old | ⟨rfl, p, member, rfl⟩)
      · exact inside a b old
      · exact here p member
    have declared' : ∀ a b, IsBelow rest a b → all a b := fun a b ⟨e, member, edge⟩ =>
      declared a b ⟨e, .tail _ member, edge⟩
    obtain ⟨later, quiet'⟩ := ih first inside' declared'
    refine ⟨later.congr (fun a b => ?_) (fun a => ?_), quiet'.trans quiet⟩
    · simp only [IsBelow, List.mem_cons, exists_eq_or_imp, or_assoc]
    · simp only [Mentions, List.mem_cons, exists_eq_or_imp, or_assoc]

end

theorem readTypes_shows (document : Document) {r : Reading} {part : Node} {entries : List TypedEntry}
    (read : TypedEntry.readList part.arguments = entries)
    (fresh : r.domain.hierarchy = TypeHierarchy.addType {} rootType) (none : r.domain.types = [])
    (acyclic : ∀ a, ¬ TransGen (IsBelow entries) a a) (inner : ∀ e ∈ entries, sameName e.name rootType = false) :
    Shows (readTypes document r part)
        (fun a b => IsBelow entries a b ∨ b = lower rootType ∧ Mentions entries a ∧ ∀ c, ¬ IsBelow entries a c)
        (Mentions entries) ∧
      (readTypes document r part).issues = r.issues := by
  subst read
  have start : Shows r (fun _ _ => False) (fun _ => False) := by
    refine ⟨fresh ▸ IsSound.empty.addType rootType, fun a b => ?_, fun a => by simp [none]⟩
    rw [fresh, hasParent_addType IsSound.empty.sorted]
    exact iff_of_false List.not_mem_nil id
  obtain ⟨declared, quiet⟩ := start.declareTypes document acyclic (fun _ _ => False.elim)
    (fun _ _ edge => edge)
  simp only [false_or] at declared
  have notRoot : ∀ a, Mentions (TypedEntry.readList part.arguments) a → a ≠ lower rootType := by
    rintro a ⟨e, member, rfl | ⟨differs, _⟩⟩
    · exact fun same => by simpa [sameName_iff.mpr same] using inner e member
    · exact differs
  have inside := fun t member => notRoot _ ((declared.names (lower t)).mp (List.mem_map_of_mem member))
  obtain ⟨sound, edges⟩ := hangUnderRoot_all inside declared.sound fun parent edge => by
    obtain ⟨e, member, isRoot, _⟩ := (declared.edges _ _).mp edge
    simpa [sameName_iff.mpr isRoot] using inner e member
  refine ⟨⟨sound, fun a b => ?_, fun a => ?_⟩, quiet⟩
  · simp only [readTypes, edges, declared.edges, declared.names]
  · rw [← declared.names, readTypes]
    dsimp only
    rw [List.filter_eq_self.mpr]
    intro t member
    rw [Bool.not_eq_true', ← Bool.not_eq_true, sameName_iff]
    exact inside t member

end Domain
end PddlAssist
