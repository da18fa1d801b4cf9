import PddlAssist.Proofs.Tree.Brackets
import PddlAssist.Proofs.Tree.Reflection

namespace PddlAssist

open Text

namespace Node

theorem holds_iff {b : Node} (isBracket : b.isBracket = true) {offset : Nat} : b.holds offset = true ↔
    b.span.start < offset ∧ offset ≤ b.span.stop ∧ (b.isClosed = true → offset < b.span.stop) := by
  cases b with
  | document | leaf => cases isBracket
  | bracket id span closed children =>
    simp only [holds, Node.span, isClosed, Bool.and_eq_true, Bool.or_eq_true, decide_eq_true_eq, Bool.not_eq_true']
    cases closed <;> simp <;> omega

mutual

theorem holds_of_mem_path {offset : Nat} {b : Node} : ∀ n : Node, b ∈ n.path offset → b.holds offset = true
  | document _ children, onWay => holds_of_mem_pathOf children onWay
  | bracket _ _ _ children, onWay => holds_of_mem_pathOf children onWay
  | leaf .., onWay => by cases onWay

theorem holds_of_mem_pathOf {offset : Nat} {b : Node} : ∀ nodes : List Node,
    b ∈ pathOf offset nodes → b.holds offset = true
  | [], onWay => by cases onWay
  | n :: rest, onWay => by
    rw [pathOf] at onWay
    split at onWay
    · rcases List.mem_cons.mp onWay with rfl | deeper
      · assumption
      · exact holds_of_mem_path n deeper
    · exact holds_of_mem_pathOf rest onWay

end

namespace Placed

variable {low high : Nat} {nodes : List Node} {parent q r : Option Nat} {b : Node}

theorem mem_pathOf (placed : Placed low high nodes) (listed : (b, q) ∈ listingOf parent nodes)
    (isBracket : b.isBracket = true) {offset : Nat} (holds : b.holds offset = true) : b ∈ pathOf offset nodes := by
  have held := (holds_iff isBracket).mp holds
  induction placed generalizing parent with
  | nil => cases listed
  | @leaf low high id t rest after later ih =>
    rw [listingOf, listing] at listed
    rcases List.mem_append.mp listed with here | listed
    · cases List.mem_singleton.mp here
      cases isBracket
    · have bounds := later.bounds_of_mem_listingOf listed
      have passed : (Node.leaf id t).holds offset = false := by
        simp only [Node.holds, Bool.and_eq_false_iff, decide_eq_false_iff_not]
        omega
      rw [pathOf, if_neg (by simp [passed])]
      exact ih listed
  | @closed low high id last span children rest after inside ends later ihInside ihLater =>
    have whole : (Node.bracket id span true children).holds offset = true ↔
        span.start < offset ∧ offset < span.stop := by simp [Node.holds]
    rw [listingOf, listing] at listed
    rcases List.mem_append.mp listed with here | listed
    · rcases List.mem_cons.mp here with same | deeper
      · cases same
        rw [pathOf, if_pos holds]
        exact .head _
      · have bounds := inside.bounds_of_mem_listingOf deeper
        rw [pathOf, if_pos (whole.mpr (by omega))]
        exact .tail _ (ihInside deeper)
    · have bounds := later.bounds_of_mem_listingOf listed
      rw [pathOf, if_neg (by rw [whole]; omega)]
      exact ihLater listed
  | @unclosed low high id span children after inside ends ih =>
    have whole : (Node.bracket id span false children).holds offset = true ↔
        span.start < offset ∧ (offset < span.stop ∨ offset ≤ span.stop) := by simp [Node.holds]
    rw [listingOf, listing] at listed
    rcases List.mem_append.mp listed with here | listed
    · rcases List.mem_cons.mp here with same | deeper
      · cases same
        rw [pathOf, if_pos holds]
        exact .head _
      · have bounds := inside.bounds_of_mem_listingOf deeper
        rw [pathOf, if_pos (whole.mpr (by omega))]
        exact .tail _ (ih deeper)
    · cases listed

theorem mem_listingOf_children (placed : Placed low high nodes) (listed : (b, q) ∈ listingOf parent nodes)
    (isBracket : b.isBracket = true) {id : Nat} {t : Token} (isLeaf : (.leaf id t, r) ∈ listingOf parent nodes)
    (nonempty : t.start < t.stop) (after : b.span.start ≤ t.start) (before : t.start ≤ b.span.stop)
    (inside : b.isClosed = true → t.start < b.span.stop) : (.leaf id t, r) ∈ listingOf (some b.id) b.children := by
  induction placed generalizing parent with
  | nil => cases listed
  | @leaf low high number u rest _ later ih =>
    rw [listingOf, listing] at listed isLeaf
    rcases List.mem_append.mp listed with here | further
    · cases List.mem_singleton.mp here
      cases isBracket
    · rcases List.mem_append.mp isLeaf with here | furtherLeaf
      · cases List.mem_singleton.mp here
        have bounds := later.bounds_of_mem_listingOf further
        omega
      · exact ih further furtherLeaf
  | @closed low high number last span children rest _ within ends later ihInside ihLater =>
    rw [listingOf, listing, List.cons_append, List.mem_cons, List.mem_append] at listed isLeaf
    -- a leaf that is on another side of the end than the bracket does not begin in it
    rcases isLeaf with same | deepLeaf | furtherLeaf
    · cases same
    · have leafBounds : _ ∧ t.stop ≤ last := within.bounds_of_mem_listingOf deepLeaf
      rcases listed with same | deeper | further
      · cases same
        exact deepLeaf
      · exact ihInside deeper deepLeaf
      · have bounds := later.bounds_of_mem_listingOf further
        omega
    · have leafBounds : span.stop ≤ t.start ∧ _ := later.bounds_of_mem_listingOf furtherLeaf
      rcases listed with same | deeper | further
      · cases same
        have less : t.start < span.stop := inside rfl
        omega
      · have bounds := within.bounds_of_mem_listingOf deeper
        omega
      · exact ihLater further furtherLeaf
  | @unclosed low high number span children _ within ends ih =>
    rw [listingOf, listing, listingOf, List.append_nil, List.mem_cons] at listed isLeaf
    rcases isLeaf with same | deepLeaf
    · cases same
    · rcases listed with same | deeper
      · cases same
        exact deepLeaf
      · exact ih deeper deepLeaf

end Placed
end Node

namespace Tree

variable {cs : List Char} {b : Node}

theorem mem_brackets_iff : b ∈ (build cs).brackets ↔
    b.isBracket = true ∧ ∃ q, (b, q) ∈ Node.listingOf (some 0) (build cs).root.children := by
  have notRoot (isBracket : b.isBracket = true) : b ≠ (build cs).root := by
    rintro rfl
    cases isBracket
  simp only [brackets, List.mem_filter, List.mem_map, Prod.exists, exists_and_right, exists_eq_right, mem_nodes_build]
  constructor
  · rintro ⟨⟨q, ⟨same, _⟩ | listed⟩, isBracket⟩
    · exact absurd same (notRoot isBracket)
    · exact ⟨isBracket, q, listed⟩
  · rintro ⟨isBracket, q, listed⟩
    exact ⟨⟨q, .inr listed⟩, isBracket⟩

theorem mem_breadcrumbs_iff (isBracket : b.isBracket = true) {offset : Nat} :
    b ∈ (build cs).breadcrumbs offset ↔ b ∈ (build cs).brackets ∧ b.holds offset = true := by
  have path : (build cs).breadcrumbs offset = (build cs).root :: Node.pathOf offset (build cs).root.children := rfl
  rw [path, List.mem_cons, mem_brackets_iff]
  constructor
  · rintro (rfl | onWay)
    · cases isBracket
    · obtain ⟨⟨_, q⟩, listed, rfl⟩ := List.mem_map.mp (Node.mem_listingOf_of_mem_pathOf (some 0) _ onWay)
      exact ⟨⟨isBracket, q, listed⟩, Node.holds_of_mem_pathOf _ onWay⟩
  · rintro ⟨⟨_, q, listed⟩, holds⟩
    exact .inr ((build_placed cs).mem_pathOf listed isBracket holds)

theorem placed_of_mem_brackets (member : b ∈ (build cs).brackets) : ∃ last,
    Node.Placed (b.span.start + 1) last b.children ∧ last ≤ b.span.stop ∧ (b.isClosed = true → last < b.span.stop) := by
  obtain ⟨isBracket, q, listed⟩ := mem_brackets_iff.mp member
  obtain ⟨_, _, rfl⟩ | ⟨id, span, closed, children, last, rfl, inside, within, ends⟩ :=
    (build_placed cs).cases_of_mem_listingOf listed
  · cases isBracket
  · exact ⟨last, inside, within, ends⟩

theorem bounds_of_mem_children (member : b ∈ (build cs).brackets) {child : Node} (isChild : child ∈ b.children) :
    b.span.start < child.span.start ∧ child.span.start ≤ child.span.stop ∧ child.span.stop ≤ b.span.stop ∧
      (b.isClosed = true → child.span.stop < b.span.stop) := by
  obtain ⟨last, inside, within, ends⟩ := placed_of_mem_brackets member
  have bounds := inside.bounds.1 child isChild
  exact ⟨bounds.1, bounds.2.1, Nat.le_trans bounds.2.2 within, fun closed =>
    Nat.lt_of_le_of_lt bounds.2.2 (ends closed)⟩

theorem holds_of_mem_children (member : b ∈ (build cs).brackets) {child : Node} (isChild : child ∈ b.children) :
    b.holds child.span.start = true := by
  have bounds := bounds_of_mem_children member isChild
  refine (Node.holds_iff (mem_brackets_iff.mp member).1).mpr ⟨bounds.1, by omega, fun closed => ?_⟩
  have less := bounds.2.2.2 closed
  omega

theorem leaf_of_plain {t : Token} (member : t ∈ Token.scan cs) (visible : t.kind ≠ .blank)
    (notOpen : t.kind ≠ .openBracket) (notClose : t.kind ≠ .closeBracket) :
    ∃ id q, (Node.leaf id t, q) ∈ Node.listingOf (some 0) (build cs).root.children := by
  have isToken : t ∈ Node.tokensAll (build cs).root.children := by
    have same := tokens_build cs
    rw [show (build cs).root.tokens = Node.tokensAll (build cs).root.children from rfl] at same
    rw [same, List.mem_filter, bne_iff_ne]
    exact ⟨member, visible⟩
  obtain ⟨m, q, listed, ⟨id, rfl⟩ | ⟨_, _, _, _, _, rfl | ⟨_, rfl⟩⟩⟩ := Node.token_cases_of (some 0) _ isToken
  · exact ⟨id, q, listed⟩
  · exact absurd rfl notOpen
  · exact absurd rfl notClose

theorem leaf_of_mem_scan {t : Token} (member : t ∈ Token.scan cs) (isWord : t.kind.isWord = true) :
    ∃ id q, (Node.leaf id t, q) ∈ Node.listingOf (some 0) (build cs).root.children := by
  have other {kind : TokenKind} (noWord : kind.isWord = false) : t.kind ≠ kind := by
    intro same
    rw [same, noWord] at isWord
    cases isWord
  exact leaf_of_plain member (other rfl) (other rfl) (other rfl)

theorem mem_scan_of_leaf {id : Nat} {t : Token} {q : Option Nat}
    (listed : (Node.leaf id t, q) ∈ Node.listingOf (some 0) (build cs).root.children) : t ∈ Token.scan cs := by
  have isToken := (Node.infix_tokensAll listed).subset (List.mem_singleton.mpr rfl : t ∈ (Node.leaf id t).tokens)
  have same := tokens_build cs
  rw [show (build cs).root.tokens = Node.tokensAll (build cs).root.children from rfl] at same
  rw [same] at isToken
  exact List.mem_of_mem_filter isToken

theorem parent_of_leaf (member : b ∈ (build cs).brackets) {id : Nat} {t : Token} {q : Option Nat}
    (isLeaf : (Node.leaf id t, q) ∈ Node.listingOf (some 0) (build cs).root.children) (after : b.span.start ≤ t.start)
    (before : t.start ≤ b.span.stop) (inside : b.isClosed = true → t.start < b.span.stop) :
    ∃ p ∈ (build cs).brackets, Node.leaf id t ∈ p.children ∧
      (p = b ∨ b.span.start < p.span.start ∧ p.span.stop ≤ b.span.stop) := by
  obtain ⟨isBracket, r, listed⟩ := mem_brackets_iff.mp member
  have nonempty := (Token.bounds_of_mem_scan (mem_scan_of_leaf isLeaf)).1
  have deep := (build_placed cs).mem_listingOf_children listed isBracket isLeaf nonempty after before inside
  have isInside : (Node.leaf id t, q) ∈ b.listing r := by
    rw [Node.listing_eq]
    exact .tail _ deep
  obtain ⟨rfl, _⟩ | ⟨p, s, isParent, isChild, _⟩ := Node.listing_cases isInside
  · cases isBracket
  · have isNode : (b, r) ∈ (build cs).nodes := mem_nodes_build.mpr (.inr listed)
    have isListed : (p, s) ∈ (build cs).nodes := (Node.infix_listing isNode).subset isParent
    rw [Node.listing_eq] at isParent
    rcases List.mem_cons.mp isParent with same | deeper
    · cases same
      exact ⟨b, member, isChild, .inl rfl⟩
    · obtain ⟨last, within, ends, _⟩ := placed_of_mem_brackets member
      have bounds := within.bounds_of_mem_listingOf deeper
      have isBracketInside : p.isBracket = true := by
        obtain ⟨_, _, rfl⟩ | ⟨_, _, _, _, _, rfl, _⟩ := within.cases_of_mem_listingOf deeper
        · cases isChild
        · rfl
      refine ⟨p, List.mem_filter.mpr ⟨List.mem_map_of_mem (f := Prod.fst) isListed, isBracketInside⟩, isChild, .inr ?_⟩
      omega

end Tree
end PddlAssist
