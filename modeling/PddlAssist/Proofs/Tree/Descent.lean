import Mathlib.Data.List.Chain
import PddlAssist.Proofs.Tree.Paths

namespace PddlAssist

open Text

namespace Node

/-- A leaf, be it a terminal or a comment, that an offset touches. -/
def isTouched (n : Node) (offset : Nat) : Bool :=
  (n.isTerminal || n.isComment) && n.span.start ≤ offset && offset ≤ n.span.stop

theorem isTouched_eq (n : Node) (offset : Nat) : n.isTouched offset = (!n.isBracket && n.holds offset) := by
  cases n with
  | document | bracket => rfl
  | leaf id t =>
    have isLeaf : ((leaf id t).isTerminal || (leaf id t).isComment) = true := by
      by_cases isComment : t.kind = .comment <;> simp [isTerminal, terminal?, Node.isComment, isComment]
    rw [isTouched, isLeaf]
    rfl

/-- The way to an offset among siblings: the brackets that it enters, and the leaf at which it ends. -/
inductive Descends (offset : Nat) : List Node → List Node → Option Node → Prop where
  | ends {nodes : List Node} : Descends offset nodes [] (nodes.find? (·.isTouched offset))
  | enters {nodes brackets : List Node} {b : Node} {leaf : Option Node} (member : b ∈ nodes)
      (isBracket : b.isBracket = true) (deeper : Descends offset b.children brackets leaf) :
      Descends offset nodes (b :: brackets) leaf

namespace Descends

variable {offset : Nat} {nodes brackets : List Node} {leaf : Option Node}

theorem cons (descends : Descends offset nodes brackets leaf) {n : Node} (untouched : n.isTouched offset = false) :
    Descends offset (n :: nodes) brackets leaf := by
  cases descends with
  | ends =>
    have same : (n :: nodes).find? (·.isTouched offset) = nodes.find? (·.isTouched offset) := by simp [untouched]
    exact same ▸ .ends
  | enters member isBracket deeper => exact .enters (.tail _ member) isBracket deeper

theorem isBracket (descends : Descends offset nodes brackets leaf) : ∀ b ∈ brackets, b.isBracket = true := by
  induction descends with
  | ends => simp
  | enters _ isBracket _ ih => exact List.forall_mem_cons.mpr ⟨isBracket, ih⟩

theorem isTouched (descends : Descends offset nodes brackets leaf) : ∀ n ∈ leaf, n.isTouched offset = true := by
  induction descends with
  | ends => exact fun n found => by simpa using List.find?_some found
  | enters _ _ _ ih => exact ih

theorem isChain (descends : Descends offset nodes brackets leaf) (parent : Node) (inside : parent.children = nodes) :
    (parent :: (brackets ++ leaf.toList)).IsChain fun n child => child ∈ n.children := by
  induction descends generalizing parent with
  | @ends nodes =>
    cases found : nodes.find? (·.isTouched offset) with
    | none => simp
    | some n => simpa [inside] using List.mem_of_find?_eq_some found
  | enters member _ _ ih => exact List.isChain_cons_cons.mpr ⟨inside ▸ member, ih _ rfl⟩

theorem leaf_eq (descends : Descends offset nodes brackets leaf) (parent : Node) (inside : parent.children = nodes) :
    ∃ last, (parent :: brackets).getLast? = some last ∧ leaf = last.children.find? (·.isTouched offset) := by
  induction descends generalizing parent with
  | ends => exact ⟨parent, rfl, by rw [inside]⟩
  | @enters _ brackets b _ _ _ _ ih =>
    obtain ⟨last, isLast, isLeaf⟩ := ih b rfl
    exact ⟨last, by rw [List.getLast?_cons_cons, isLast], isLeaf⟩

end Descends

mutual

theorem exists_descends (offset : Nat) : ∀ n : Node, ∃ brackets leaf,
    Descends offset n.children brackets leaf ∧ n.path offset = brackets ++ leaf.toList
  | document _ children | bracket _ _ _ children => exists_descendsOf offset children
  | leaf .. => ⟨[], none, .ends, rfl⟩

theorem exists_descendsOf (offset : Nat) : ∀ nodes : List Node, ∃ brackets leaf,
    Descends offset nodes brackets leaf ∧ pathOf offset nodes = brackets ++ leaf.toList
  | [] => ⟨[], none, .ends, rfl⟩
  | n :: rest => by
    rw [pathOf]
    split
    case isTrue held =>
      obtain ⟨brackets, last, deeper, path⟩ := exists_descends offset n
      cases n with
      | document => cases held
      | bracket => exact ⟨_ :: brackets, last, .enters (.head _) rfl deeper, by rw [path, List.cons_append]⟩
      | leaf id t =>
        have touched : (leaf id t).isTouched offset = true := by rw [isTouched_eq, held]; rfl
        have first : (leaf id t :: rest).find? (·.isTouched offset) = some (leaf id t) := by simp [touched]
        exact ⟨[], some (leaf id t), first ▸ .ends, rfl⟩
    case isFalse passed =>
      obtain ⟨brackets, last, descends, path⟩ := exists_descendsOf offset rest
      exact ⟨brackets, last, descends.cons (by simp [isTouched_eq, passed]), path⟩

end

/-- The span of a node lies in that of another and begins behind it. -/
def Encloses (outer inner : Node) : Prop :=
  outer.span.start < inner.span.start ∧ inner.span.stop ≤ outer.span.stop

instance : Trans Encloses Encloses Encloses :=
  ⟨fun left right => ⟨left.1.trans right.1, right.2.trans left.2⟩⟩

end Node

namespace Tree

theorem pairwise_encloses {cs : List Char} {brackets : List Node} (listed : ∀ b ∈ brackets, b ∈ (build cs).brackets)
    (chain : brackets.IsChain fun n child => child ∈ n.children) : brackets.Pairwise Node.Encloses := by
  refine List.isChain_iff_pairwise.mp (chain.imp_of_mem_imp fun outer inner isOuter _ isChild => ?_)
  have bounds := bounds_of_mem_children (listed outer isOuter) isChild
  exact ⟨bounds.1, bounds.2.2.1⟩

/-- The way to an offset begins at the document and goes from each node to a child of it. Its brackets are all that hold
the offset, the outermost first, and it ends with the leftmost terminal or comment in the innermost of them that the
offset touches, if there is one. A bracket that ends at the offset does not keep it from the leaf behind. -/
theorem breadcrumbs_descend (cs : List Char) (offset : Nat) :
    ∃ brackets leaf, (build cs).breadcrumbs offset = (build cs).root :: (brackets ++ leaf.toList) ∧
      ((build cs).breadcrumbs offset).IsChain (fun n child => child ∈ n.children) ∧
      (∀ b, b ∈ brackets ↔ b ∈ (build cs).brackets ∧ b.span.start < offset ∧
        (offset < b.span.stop ∨ b.isClosed = false ∧ offset ≤ b.span.stop)) ∧
      brackets.Pairwise Node.Encloses ∧
      ∃ last, ((build cs).root :: brackets).getLast? = some last ∧
        leaf = last.children.find? (·.isTouched offset) := by
  obtain ⟨brackets, leaf, descends, path⟩ := (build cs).root.exists_descends offset
  have way : (build cs).breadcrumbs offset = (build cs).root :: (brackets ++ leaf.toList) := congrArg _ path
  have chain := descends.isChain (build cs).root rfl
  have mem_iff (b : Node) : b ∈ brackets ↔ b ∈ (build cs).brackets ∧ b.span.start < offset ∧
      (offset < b.span.stop ∨ b.isClosed = false ∧ offset ≤ b.span.stop) := by
    by_cases isBracket : b.isBracket = true
    · have notLeaf : b ∉ leaf.toList := by
        intro member
        have touched := descends.isTouched b (Option.mem_toList.mp member)
        rw [Node.isTouched_eq, isBracket] at touched
        cases touched
      have notRoot : b ≠ (build cs).root := by
        rintro rfl
        cases isBracket
      have onWay : b ∈ (build cs).breadcrumbs offset ↔ b ∈ (build cs).brackets ∧ b.holds offset = true :=
        mem_breadcrumbs_iff isBracket
      rw [way, List.mem_cons, List.mem_append] at onWay
      have member : b ∈ brackets ↔ b ∈ (build cs).brackets ∧ b.holds offset = true := by
        rw [← onWay]
        simp [notRoot, notLeaf]
      rw [member, Node.holds_iff isBracket]
      refine and_congr_right fun _ => and_congr_right fun _ => ?_
      cases b.isClosed <;> simp <;> omega
    · constructor
      · exact fun member => absurd (descends.isBracket b member) isBracket
      · exact fun listed => absurd (mem_brackets_iff.mp listed.1).1 isBracket
  refine ⟨brackets, leaf, way, way ▸ chain, mem_iff, ?_, descends.leaf_eq _ rfl⟩
  refine pairwise_encloses (fun b member => ((mem_iff b).mp member).1) ?_
  exact (List.isChain_append.mp chain.tail).1

end Tree
end PddlAssist
