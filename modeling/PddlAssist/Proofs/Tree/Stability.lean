import PddlAssist.Proofs.Token.Extension
import PddlAssist.Proofs.Tree.Listing

namespace PddlAssist

open Text

namespace Tree.Growth

open Node

def Holds (g : Growth) (n : Node) (q : Option Nat) : Prop :=
  (n, q) ∈ listingOf (some 0) g.top ∨ ∃ frame ∈ g.frames, (n, q) ∈ listingOf (some frame.id) frame.children

def around (frames : List Frame) : Option Nat := some (frames.head?.elim 0 Frame.id)

theorem mem_listingOf_reverse {parent : Option Nat} {nodes : List Node} {entry : Node × Option Nat} :
    entry ∈ listingOf parent nodes.reverse ↔ entry ∈ listingOf parent nodes := by
  simp only [mem_listingOf, List.mem_reverse]

theorem holds_cons {next : Nat} {frame : Frame} {outer : List Frame} {top : List Node} {n : Node} {q : Option Nat} :
    Holds ⟨next, frame :: outer, top⟩ n q ↔
      (n, q) ∈ listingOf (some frame.id) frame.children ∨ Holds ⟨next, outer, top⟩ n q := by
  simp only [Holds, List.mem_cons, exists_eq_or_imp]
  exact or_left_comm

theorem holds_attach {g : Growth} {m n : Node} {q : Option Nat} :
    (g.attach m).Holds n q ↔ (n, q) ∈ m.listing (around g.frames) ∨ g.Holds n q := by
  obtain ⟨next, frames, top⟩ := g
  cases frames with
  | nil => simp [Holds, Growth.attach, listingOf, around]
  | cons frame outer =>
    simp only [Growth.attach, holds_cons, listingOf, List.mem_append, or_assoc]
    rfl

theorem holds_addLeaf {g : Growth} {t : Token} {n : Node} {q : Option Nat} :
    (g.addLeaf t).Holds n q ↔ n = .leaf g.next t ∧ q = around g.frames ∨ g.Holds n q := by
  have attached := holds_attach (g := g) (m := .leaf g.next t) (n := n) (q := q)
  rwa [listing, List.mem_singleton, Prod.mk.injEq] at attached

theorem Holds.step {g : Growth} {n : Node} {q : Option Nat} (holds : g.Holds n q) (t : Token) :
    (g.step t).Holds n q := by
  have leaf : (g.addLeaf t).Holds n q := holds_addLeaf.mpr (.inr holds)
  cases kind : t.kind with
  | blank => simpa [Growth.step, kind] using holds
  | openBracket =>
    simp only [Growth.step, kind]
    rcases holds with top | ⟨frame, member, inside⟩
    · exact .inl top
    · exact .inr ⟨frame, .tail _ member, inside⟩
  | closeBracket =>
    simp only [Growth.step, kind]
    cases isFrames : g.frames with
    | nil => exact leaf
    | cons frame outer =>
      rw [holds_attach]
      rcases holds with top | ⟨other, member, inside⟩
      · exact .inr (.inl top)
      · rcases List.mem_cons.mp (isFrames ▸ member) with rfl | isOuter
        · left
          rw [listing]
          exact .tail _ (mem_listingOf_reverse.mpr inside)
        · exact .inr (.inr ⟨other, isOuter, inside⟩)
  | comment | keyword | parameter | dash | word => simpa [Growth.step, kind] using leaf

theorem Holds.foldl {g : Growth} {n : Node} {q : Option Nat} (holds : g.Holds n q) (tokens : List Token) :
    (tokens.foldl Growth.step g).Holds n q := by
  induction tokens generalizing g with
  | nil => exact holds
  | cons t rest ih => exact ih (holds.step t)

theorem holds_of_step {g : Growth} {t : Token} {n : Node} {q : Option Nat} (plain : ¬ t.IsBracket)
    (holds : (g.step t).Holds n q) (isBracket : n.isBracket = true) : g.Holds n q := by
  have leaf (holds : (g.addLeaf t).Holds n q) : g.Holds n q :=
    (holds_addLeaf.mp holds).resolve_left fun isLeaf => by
      rw [isLeaf.1] at isBracket
      cases isBracket
  cases kind : t.kind with
  | blank => simpa [Growth.step, kind] using holds
  | openBracket => exact absurd (.inl kind) plain
  | closeBracket => exact absurd (.inr kind) plain
  | comment | keyword | parameter | dash | word => exact leaf (by simpa [Growth.step, kind] using holds)

theorem holds_of_foldl {tokens : List Token} {g : Growth} {n : Node} {q : Option Nat}
    (plain : ∀ t ∈ tokens, ¬ t.IsBracket) (holds : (tokens.foldl Growth.step g).Holds n q)
    (isBracket : n.isBracket = true) : g.Holds n q := by
  induction tokens generalizing g with
  | nil => exact holds
  | cons t rest ih =>
    rw [List.forall_mem_cons] at plain
    exact holds_of_step plain.1 (ih plain.2 holds) isBracket

theorem mem_listingOf_finish {stop next : Nat} {top : List Node} {n : Node} {q : Option Nat} (closed : n.isClosed = true)
    (frames : List Frame) (inner : List Node) :
    (n, q) ∈ listingOf (some 0) (finish stop top frames inner) ↔
      (n, q) ∈ listingOf (around frames) inner ∨ Holds ⟨next, frames, top⟩ n q := by
  induction frames generalizing inner with
  | nil => simp [finish, around, Holds, mem_listingOf_reverse, or_comm]
  | cons frame outer ih =>
    have notUnclosed {span : Span} {children : List Node} : n ≠ .bracket frame.id span false children := by
      rintro rfl
      cases closed
    rw [finish, ih, holds_cons, ← or_assoc]
    simp only [listingOf, listing, List.append_nil, List.mem_cons, Prod.mk.injEq, notUnclosed, false_and, false_or,
      mem_listingOf_reverse, listingOf_append, List.mem_append]
    rfl

end Tree.Growth

namespace Tree

theorem mem_nodes_build_iff {cs : List Char} {n : Node} {q : Option Nat} (isBracket : n.isBracket = true)
    (closed : n.isClosed = true) :
    (n, q) ∈ (build cs).nodes ↔ ((Token.scan cs).foldl Growth.step .empty).Holds n q := by
  have notRoot : n ≠ (build cs).root := by
    rintro rfl
    cases isBracket
  rw [mem_nodes_build]
  simp only [notRoot, false_and, false_or]
  exact (Growth.mem_listingOf_finish closed _ []).trans (or_iff_right List.not_mem_nil)

theorem mem_nodes_append (before after : List Char) {n : Node} {q : Option Nat} (isBracket : n.isBracket = true)
    (closed : n.isClosed = true) (listed : (n, q) ∈ (build before).nodes) :
    (n, q) ∈ (build (before ++ after)).nodes := by
  obtain ⟨kept, ended, more, scan, scan', plain, _⟩ := Token.scan_extend before after
  rw [mem_nodes_build_iff isBracket closed, scan, List.foldl_append] at listed
  rw [mem_nodes_build_iff isBracket closed, scan', List.foldl_append]
  exact (Growth.holds_of_foldl plain listed isBracket).foldl more

/-- Text behind a text, wherever the one ends and the other begins, leaves each closed bracket and all nodes in it under
their numbers and parents. -/
theorem closed_brackets_stay (before after : List Char) {i : Nat} {n : Node} {parent : Option Nat}
    (listed : (build before).nodes[i]? = some (n, parent)) (isBracket : n.isBracket = true)
    (closed : n.isClosed = true) :
    (build (before ++ after)).nodes[i]? = some (n, parent) ∧
      ∀ m q, (m, q) ∈ n.listing parent → (build (before ++ after)).nodes[m.id]? = some (m, q) := by
  obtain ⟨member, rfl⟩ := nodes_getElem?_iff.mp listed
  have stays := mem_nodes_append before after isBracket closed member
  refine ⟨nodes_getElem?_iff.mpr ⟨stays, rfl⟩, fun m q inside => ?_⟩
  exact nodes_getElem?_iff.mpr ⟨(Node.infix_listing stays).subset inside, rfl⟩

theorem closed_brackets_stay_commented :
    let before := "(a ((b c) - d) ; e\r".toList
    let after := "f)\n) (g".toList
    ∃ n, (build before).nodes[3]? = some (n, some 1) ∧ n.isBracket = true ∧ n.isClosed = true ∧
      (build (before ++ after)).nodes[3]? = some (n, some 1) := by
  intro before after
  have known : (build before).nodes[3]?.any (fun (n, q) => n.isBracket && n.isClosed && q == some 1) = true := by
    simp only [before, String.reduceToList]
    decide +kernel
  clear_value before after
  obtain ⟨⟨n, q⟩, listed, shown⟩ := (Option.any_eq_true _ _).mp known
  simp only [Bool.and_eq_true, beq_iff_eq] at shown
  obtain ⟨⟨isBracket, closed⟩, rfl⟩ := shown
  exact ⟨n, listed, isBracket, closed, (closed_brackets_stay before after listed isBracket closed).1⟩

end Tree
end PddlAssist
