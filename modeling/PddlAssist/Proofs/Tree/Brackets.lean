import Mathlib.Data.List.Pairwise
import PddlAssist.Proofs.Tree.Placement

namespace PddlAssist

namespace Node

mutual

theorem names_listing (parent : Option Nat) : ∀ n : Node,
    ((n.listing parent).map Prod.fst).filterMap nameToken? = n.names
  | document stop children => by
    simp only [listing, List.map_cons, names]
    rw [List.filterMap_cons_none rfl, namesAll_listingOf (some 0) children]
  | bracket id span closed children => by
    have inside := namesAll_listingOf (some id) children
    have named : (bracket id span closed children).nameToken? = headWord? children := rfl
    simp only [listing, List.map_cons, names, List.filterMap_cons, named, inside]
    cases headWord? children <;> rfl
  | leaf id t => by
    simp only [listing, List.map_cons, List.map_nil, names]
    rw [List.filterMap_cons_none rfl, List.filterMap_nil]

theorem namesAll_listingOf (parent : Option Nat) : ∀ nodes : List Node,
    ((listingOf parent nodes).map Prod.fst).filterMap nameToken? = namesAll nodes
  | [] => rfl
  | n :: rest => by
    simp only [listingOf, List.map_append, List.filterMap_append, namesAll]
    rw [names_listing parent n, namesAll_listingOf parent rest]

end

mutual

theorem mem_listing_of_mem_path {offset : Nat} {b : Node} (parent : Option Nat) : ∀ n : Node,
    b ∈ n.path offset → b ∈ (n.listing parent).map Prod.fst
  | document stop children, onWay => by
    simp only [listing, List.map_cons]
    exact .tail _ (mem_listingOf_of_mem_pathOf (some 0) children onWay)
  | bracket id span closed children, onWay => by
    simp only [listing, List.map_cons]
    exact .tail _ (mem_listingOf_of_mem_pathOf (some id) children onWay)
  | leaf id t, onWay => by cases onWay

theorem mem_listingOf_of_mem_pathOf {offset : Nat} {b : Node} (parent : Option Nat) : ∀ nodes : List Node,
    b ∈ pathOf offset nodes → b ∈ (listingOf parent nodes).map Prod.fst
  | [], onWay => by cases onWay
  | n :: rest, onWay => by
    simp only [listingOf, List.map_append, List.mem_append]
    simp only [pathOf] at onWay
    split at onWay
    · rcases List.mem_cons.mp onWay with rfl | deeper
      · left
        cases b <;> simp [listing]
      · exact .inl (mem_listing_of_mem_path parent n deeper)
    · exact .inr (mem_listingOf_of_mem_pathOf parent rest onWay)

end

end Node

namespace Tree

/-- All brackets in the order in which they begin. -/
def brackets (t : Tree) : List Node := (t.nodes.map Prod.fst).filter Node.isBracket

theorem filterMap_brackets (t : Tree) : t.brackets.filterMap Node.nameToken? = t.root.names := by
  rw [← Node.names_listing none, brackets, nodes, List.filterMap_filter]
  congr 1
  funext n
  split
  · rfl
  · rename_i other
    rw [Node.nameToken?, if_neg other]

theorem nameTokens_build (cs : List Char) :
    (build cs).brackets.filterMap Node.nameToken? = Token.namesFrom false (Token.scan cs) := by
  rw [filterMap_brackets, names_build]

theorem nameTokens_sorted (cs : List Char) :
    ((build cs).brackets.filterMap Node.nameToken?).Pairwise fun left right => left.start < right.start := by
  have scanned := (Token.scan_eq_iff.mp (rfl : Token.scan cs = _)).1
  rw [nameTokens_build]
  exact scanned.sorted.2.sublist (Token.namesFrom_sublist false _)

theorem bracket_unique {cs : List Char} {b b' : Node} {t : Token} (member : b ∈ (build cs).brackets)
    (member' : b' ∈ (build cs).brackets) (named : b.nameToken? = some t) (named' : b'.nameToken? = some t) :
    b = b' := by
  have apart := (List.pairwise_filterMap.mp (nameTokens_sorted cs)).imp
    (S := fun left right => left.nameToken? = some t → right.nameToken? ≠ some t) fun less isLeft isRight =>
      absurd (less t isLeft t isRight) (Nat.lt_irrefl _)
  by_contra differ
  have symmetric : Std.Symm fun left right : Node => left.nameToken? = some t → right.nameToken? ≠ some t :=
    ⟨fun _ _ apart isRight isLeft => apart isLeft isRight⟩
  exact apart.forall member member' differ named named'

theorem bracketNamedAt?_eq_some {cs : List Char} {offset : Nat} {b : Node} :
    (build cs).bracketNamedAt? offset = some b ↔
      b ∈ (build cs).brackets ∧ ∃ t, b.nameToken? = some t ∧ t.start = offset := by
  have onWay {b : Node} (found : (build cs).bracketNamedAt? offset = some b) : b ∈ (build cs).brackets := by
    have isFirst := (bracketNamedAt?_eq_some_iff.mp found).1
    refine List.mem_filter.mpr ⟨?_, List.find?_some isFirst⟩
    exact Node.mem_listing_of_mem_path none (build cs).root (List.mem_reverse.mp (List.mem_of_find?_eq_some isFirst))
  constructor
  · intro found
    exact ⟨onWay found, (bracketNamedAt?_eq_some_iff.mp found).2⟩
  · rintro ⟨member, t, named, here⟩
    have isName : t ∈ Token.namesFrom false (Token.scan cs) := by
      rw [← nameTokens_build]
      exact List.mem_filterMap.mpr ⟨b, member, named⟩
    obtain ⟨b', found, named'⟩ := (bracketNamedAt?_iff cs offset t).mpr ⟨isName, here⟩
    rw [found, bracket_unique (onWay found) member named' named]

end Tree
end PddlAssist
