import Mathlib.Logic.Relation
import PddlAssist.Proofs.Tree.Lookup

namespace PddlAssist

open Relation Text

theorem find?_eq_some_iff_least {α : Type} {test : α → Bool} {key : α → Nat} {xs : List α}
    (rising : xs.Pairwise (key · < key ·)) {x : α} : xs.find? test = some x ↔
      (x ∈ xs ∧ test x = true) ∧ ∀ other, other ∈ xs ∧ test other = true → key x ≤ key other := by
  induction xs with
  | nil => simp
  | cons first rest ih =>
    obtain ⟨least, rising⟩ := List.pairwise_cons.mp rising
    rw [List.find?_cons]
    cases passes : test first with
    | true =>
      constructor
      · rintro ⟨⟩
        refine ⟨⟨.head _, passes⟩, ?_⟩
        rintro other ⟨_ | ⟨_, later⟩, _⟩
        · exact Nat.le_refl _
        · exact Nat.le_of_lt (least other later)
      · rintro ⟨⟨_ | ⟨_, later⟩, _⟩, below⟩
        · rfl
        · exact absurd (below first ⟨.head _, passes⟩) (Nat.not_le.mpr (least x later))
    | false =>
      have further {other : α} : other ∈ first :: rest ∧ test other = true ↔ other ∈ rest ∧ test other = true := by
        refine and_congr_left fun passesOther => List.mem_cons.trans (or_iff_right ?_)
        rintro rfl
        exact Bool.false_ne_true (passes.symm.trans passesOther)
      simp only [further]
      exact ih rising

namespace Node

/-- A child of a node, or a child of something inside it. -/
def IsInside (inner outer : Node) : Prop := TransGen (fun parent child => child ∈ parent.children) outer inner

def IsCalled (n : Node) (name : String) : Prop :=
  n.isBracket = true ∧ ∃ comments child rest t, n.children = comments ++ child :: rest ∧
    (∀ c ∈ comments, c.isComment = true) ∧ child.terminal? = some t ∧ sameName t.text name = true

/-- A bracket inside a node that has the name that is looked for, in whatever case it is written. -/
structure IsCandidate (n : Node) (name : String) (b : Node) : Prop where
  inside : b.IsInside n
  called : b.IsCalled name

def descendants (n : Node) : List Node := (listingOf (some n.id) n.children).map Prod.fst

theorem isCalled_iff {n : Node} {name : String} :
    n.IsCalled name ↔ (n.isBracket && n.hasName name) = true := by
  rw [Bool.and_eq_true]
  refine and_congr_right fun isBracket => ?_
  have hasName : n.hasName name = true ↔ ∃ t, n.nameToken? = some t ∧ sameName t.text name = true := by
    rw [Node.hasName, name?, Option.any_map, Option.any_eq_true]
  simp only [hasName, nameToken?_eq_some_iff, isBracket, true_and]
  constructor
  · rintro ⟨comments, child, rest, t, whole, areComments, isTerminal, same⟩
    exact ⟨t, ⟨comments, child, rest, whole, areComments, isTerminal⟩, same⟩
  · rintro ⟨t, ⟨comments, child, rest, whole, areComments, isTerminal⟩, same⟩
    exact ⟨comments, child, rest, t, whole, areComments, isTerminal, same⟩

theorem mem_descendants_iff {n m : Node} : m ∈ n.descendants ↔ m.IsInside n := by
  constructor
  · intro member
    obtain ⟨⟨_, q⟩, listed, rfl⟩ := List.mem_map.mp member
    exact of_mem_listingOf (motive := fun m _ => m.IsInside n) (fun _ _ inside _ isChild => inside.tail isChild)
      n.children (fun _ isChild => .single isChild) listed
  · intro inside
    -- the node itself is listed without a parent, so that it is not among them
    suffices listed : ∃ q, (m, some q) ∈ n.listing none by
      obtain ⟨q, listed⟩ := listed
      rw [listing_eq, List.mem_cons] at listed
      exact List.mem_map_of_mem (f := Prod.fst) (listed.resolve_left (by simp))
    induction inside with
    | single isChild =>
      have here : (n, none) ∈ n.listing none := by rw [listing_eq]; exact .head _
      exact ⟨n.id, mem_listing_child here isChild⟩
    | tail _ isChild ih =>
      obtain ⟨q, listed⟩ := ih
      exact ⟨_, mem_listing_child listed isChild⟩

theorem isCandidate_iff {n b : Node} {name : String} :
    n.IsCandidate name b ↔ b ∈ n.descendants ∧ (b.isBracket && b.hasName name) = true := by
  rw [mem_descendants_iff, ← isCalled_iff]
  exact ⟨fun candidate => ⟨candidate.inside, candidate.called⟩, fun both => ⟨both.1, both.2⟩⟩

mutual

theorem first?_eq_find? (name : String) (parent : Option Nat) : ∀ n : Node, n.first? name =
    ((listingOf parent n.children).map Prod.fst).find? fun b => b.isBracket && b.hasName name
  | document _ children => firstOf?_eq_find? name parent children
  | bracket _ _ _ children => firstOf?_eq_find? name parent children
  | leaf .. => rfl

theorem firstOf?_eq_find? (name : String) (parent : Option Nat) : ∀ nodes : List Node, firstOf? name nodes =
    ((listingOf parent nodes).map Prod.fst).find? fun b => b.isBracket && b.hasName name
  | [] => rfl
  | n :: rest => by
    rw [firstOf?, first?_eq_find? name (some n.id) n, firstOf?_eq_find? name parent rest, listingOf, listing_eq,
      List.cons_append, List.map_cons, List.map_append, List.find?_cons, List.find?_append]
    cases n.isBracket && n.hasName name <;> rfl

end

theorem Placed.starts_listingOf {low high : Nat} {nodes : List Node} (placed : Placed low high nodes)
    (parent : Option Nat) : (listingOf parent nodes).map (·.1.span.start) =
      ((marksAll nodes).filter (·.id?.isSome)).map (·.token.start) := by
  induction placed generalizing parent with
  | nil => rfl
  | leaf _ _ ih => exact congrArg (_ :: ·) (ih parent)
  | @closed low high id last span children rest _ _ _ _ ihInside ihLater =>
    have ending : [Mark.closing span.stop].filter (·.id?.isSome) = [] := rfl
    have inside : (listingOf (some id) children ++ listingOf parent rest).map (·.1.span.start) =
        ((marksAll children ++ [Mark.closing span.stop] ++ marksAll rest).filter (·.id?.isSome)).map
          (·.token.start) := by
      rw [List.map_append, ihInside, ihLater, List.filter_append, List.filter_append, ending, List.append_nil,
        List.map_append]
    exact congrArg (span.start :: ·) inside
  | @unclosed low high id span children _ _ _ ih =>
    rw [listingOf, listing, listingOf, List.append_nil, marksAll, marks, marksAll, List.append_nil,
      if_neg Bool.false_ne_true, List.append_nil]
    exact congrArg (span.start :: ·) (ih (some id))

end Node

namespace Tree

open Node

theorem starts_sorted (cs : List Char) :
    ((listingOf (some 0) (build cs).root.children).map (·.1.span.start)).Pairwise (· < ·) := by
  have scanned := (Token.scan_eq_iff.mp (rfl : Token.scan cs = _)).1
  have tokens : tokensAll (build cs).root.children = (Token.scan cs).filter (·.kind != .blank) := tokens_build cs
  have sorted : (tokensAll (build cs).root.children).Pairwise fun left right => left.start < right.start :=
    tokens ▸ scanned.sorted.2.sublist List.filter_sublist
  rw [(build_placed cs).starts_listingOf]
  exact List.pairwise_map.mpr ((List.pairwise_map.mp sorted).sublist List.filter_sublist)

theorem descendants_sorted {cs : List Char} {n : Node} {q : Option Nat} (listed : (n, q) ∈ (build cs).nodes) :
    n.descendants.Pairwise fun left right => left.span.start < right.span.start ∧ left.id < right.id := by
  have inside : (n.listing q).Sublist (build cs).nodes := (infix_listing listed).sublist
  rw [listing_eq, nodes_build] at inside
  have ids := ids_sorted cs
  rw [nodes_build, List.map_cons] at ids
  have starts := List.pairwise_map.mp (starts_sorted cs)
  have both := starts.and (List.pairwise_map.mp ids.of_cons)
  exact List.pairwise_map.mpr (both.sublist inside.tail)

theorem node?_of_mem_descendants {cs : List Char} {n b : Node} {q : Option Nat} (listed : (n, q) ∈ (build cs).nodes)
    (member : b ∈ n.descendants) : (build cs).node? b.id = some b := by
  obtain ⟨⟨_, parent⟩, inside, rfl⟩ := List.mem_map.mp member
  refine node?_build_iff.mpr ⟨⟨parent, (infix_listing listed).subset ?_⟩, rfl⟩
  rw [listing_eq]
  exact .tail _ inside

/-- A bracket with a name is found inside a node exactly if there is one. Among all of them it is the one that begins
first, which is also the one with the smallest number. -/
theorem search_finds_first_bracket {cs : List Char} {id : Nat} {n : Node} (isNode : (build cs).node? id = some n)
    (name : String) :
    (∀ b, n.first? name = some b ↔
        n.IsCandidate name b ∧ ∀ other, n.IsCandidate name other → b.span.start ≤ other.span.start) ∧
      (∀ b, n.first? name = some b ↔
        n.IsCandidate name b ∧ ∀ other, n.IsCandidate name other → b.id ≤ other.id) ∧
      (n.first? name = none ↔ ¬ ∃ b, n.IsCandidate name b) ∧
      ∀ b, n.IsCandidate name b → (build cs).node? b.id = some b := by
  obtain ⟨⟨q, listed⟩, -⟩ := node?_build_iff.mp isNode
  have rising := descendants_sorted listed
  have search : n.first? name = n.descendants.find? fun b => b.isBracket && b.hasName name :=
    n.first?_eq_find? name (some n.id)
  simp only [isCandidate_iff, search]
  refine ⟨fun b => ?_, fun b => ?_, by simp, fun b candidate => node?_of_mem_descendants listed candidate.1⟩
  · exact find?_eq_some_iff_least (rising.imp And.left)
  · exact find?_eq_some_iff_least (rising.imp And.right)

theorem search_finds_first_bracket_nested :
    let cs := "(define (x ; (new)\n (y (NEW a) (new)) (new".toList
    ∃ n b, (build cs).node? 1 = some n ∧ n.first? "new" = some b ∧ b.id = 8 ∧ b.span.start = 23 ∧
      n.IsCandidate "new" b ∧ ∀ other, n.IsCandidate "new" other → 23 ≤ other.span.start ∧ 8 ≤ other.id := by
  intro cs
  have known : ((build cs).node? 1).any (fun n => (n.first? "new").any fun b => b.id == 8 && b.span.start == 23) =
      true := by
    simp only [cs, String.reduceToList]
    decide +kernel
  clear_value cs
  obtain ⟨n, isNode, shown⟩ := (Option.any_eq_true _ _).mp known
  obtain ⟨b, found, shown⟩ := (Option.any_eq_true _ _).mp shown
  simp only [Bool.and_eq_true, beq_iff_eq] at shown
  obtain ⟨number, start⟩ := shown
  obtain ⟨byStart, byNumber, -⟩ := search_finds_first_bracket isNode "new"
  obtain ⟨candidate, begins⟩ := (byStart b).mp found
  refine ⟨n, b, isNode, found, number, start, candidate, fun other isOther => ?_⟩
  exact ⟨start ▸ begins other isOther, number ▸ ((byNumber b).mp found).2 other isOther⟩

end Tree
end PddlAssist
