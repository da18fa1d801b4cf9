import Mathlib.Data.List.Nodup
import PddlAssist.Proofs.Tree.Matching

namespace PddlAssist

open Text

namespace Tree.Growth

open Node

/-- What stands in the document so far is settled, and what stands in an open bracket is whole. -/
structure IsSettled (g : Growth) : Prop where
  top : ∀ n ∈ g.top, n.IsSettled
  frames : ∀ frame ∈ g.frames, ∀ n ∈ frame.children, n.IsWhole

theorem IsSettled.attach {g : Growth} (settled : g.IsSettled) {n : Node} (whole : n.IsWhole) :
    (g.attach n).IsSettled := by
  obtain ⟨next, frames, top⟩ := g
  cases frames with
  | nil => exact ⟨List.forall_mem_cons.mpr ⟨.inl whole, settled.top⟩, settled.frames⟩
  | cons frame outer =>
    obtain ⟨inner, outside⟩ := List.forall_mem_cons.mp settled.frames
    exact ⟨settled.top, List.forall_mem_cons.mpr ⟨List.forall_mem_cons.mpr ⟨whole, inner⟩, outside⟩⟩

theorem IsSettled.step {g : Growth} (settled : g.IsSettled) (t : Token) : (g.step t).IsSettled := by
  have word (notOpen : t.kind ≠ .openBracket) (notClose : t.kind ≠ .closeBracket) : (g.addLeaf t).IsSettled := by
    obtain ⟨top, frames⟩ := settled.attach (n := .leaf g.next t) (.leaf notOpen notClose)
    exact ⟨top, frames⟩
  cases kind : t.kind with
  | blank => simpa [Growth.step, kind] using settled
  | openBracket =>
    simp only [Growth.step, kind]
    exact ⟨settled.top, List.forall_mem_cons.mpr ⟨by simp, settled.frames⟩⟩
  | closeBracket =>
    simp only [Growth.step, kind]
    cases isFrames : g.frames with
    | nil =>
      simp only [addLeaf, Growth.attach, isFrames]
      exact ⟨List.forall_mem_cons.mpr ⟨.inr ⟨_, _, rfl, kind⟩, settled.top⟩, by simp⟩
    | cons frame outer =>
      obtain ⟨inner, outside⟩ := List.forall_mem_cons.mp (isFrames ▸ settled.frames)
      exact IsSettled.attach (g := { g with frames := outer }) ⟨settled.top, outside⟩ (.bracket (by simpa using inner))
  | comment | keyword | parameter | dash | word =>
    simpa [Growth.step, kind] using word (by simp [kind]) (by simp [kind])

theorem IsSettled.foldl (tokens : List Token) {g : Growth} (settled : g.IsSettled) :
    (tokens.foldl Growth.step g).IsSettled := by
  induction tokens generalizing g with
  | nil => exact settled
  | cons t rest ih => exact ih (settled.step t)

theorem trailing_finish {stop : Nat} {top : List Node} {frames : List Frame} (settled : ∀ n ∈ top, n.IsSettled)
    (whole : ∀ frame ∈ frames, ∀ n ∈ frame.children, n.IsWhole) {inner : List Node}
    (last : Trailing stop IsWhole inner.reverse) : Trailing stop Node.IsSettled (finish stop top frames inner) := by
  induction frames generalizing inner with
  | nil =>
    rw [finish, List.reverse_append]
    exact last.append (fun _ => .inl) (by simpa using settled)
  | cons frame outer ih =>
    obtain ⟨here, outside⟩ := List.forall_mem_cons.mp whole
    refine ih outside ?_
    rw [List.reverse_append]
    have inside := last.append (fun _ => id) (by simpa using here : ∀ n ∈ frame.children.reverse, n.IsWhole)
    exact Trailing.last (List.forall_mem_nil _) inside

end Tree.Growth

theorem Tree.build_trailing (cs : List Char) :
    Node.Trailing (width cs) Node.IsSettled (build cs).root.children := by
  have empty : Growth.empty.IsSettled := ⟨by simp [Growth.empty], by simp [Growth.empty]⟩
  have grown := empty.foldl (Token.scan cs)
  exact Growth.trailing_finish grown.top grown.frames (.all (by simp))

namespace Node

open Token

theorem infix_tokensAll_of_mem {n : Node} {nodes : List Node} (member : n ∈ nodes) : n.tokens <:+: tokensAll nodes := by
  obtain ⟨before, after, rfl⟩ := List.append_of_mem member
  exact ⟨tokensAll before, tokensAll after, by simp⟩

theorem infix_tokensAll {nodes : List Node} {parent q : Option Nat} {m : Node}
    (listed : (m, q) ∈ listingOf parent nodes) : m.tokens <:+: tokensAll nodes := by
  refine of_mem_listingOf (motive := fun m _ => m.tokens <:+: tokensAll nodes) ?_ nodes
    (fun n member => infix_tokensAll_of_mem member) listed
  intro m _ here c isChild
  refine ((infix_tokensAll_of_mem isChild).trans ?_).trans here
  cases m with
  | document => exact List.infix_refl _
  | bracket id span closed children =>
    rw [tokens_bracket]
    exact (List.prefix_append _ _).isInfix.trans (List.suffix_cons _ _).isInfix
  | leaf => cases isChild

mutual

theorem token_cases {t : Token} (parent : Option Nat) : ∀ n : Node,
    t ∈ n.tokens → ∃ m q, (m, q) ∈ n.listing parent ∧ ((∃ id, m = leaf id t) ∨
      ∃ id span closed children, m = bracket id span closed children ∧
        (t = (Mark.opening id span.start).token ∨ closed = true ∧ t = (Mark.closing span.stop).token))
  | document stop children, member => by
    obtain ⟨m, q, listed, found⟩ := token_cases_of (some 0) children member
    exact ⟨m, q, .tail _ listed, found⟩
  | bracket id span closed children, member => by
    rw [tokens_bracket] at member
    rcases List.mem_cons.mp member with isStart | member
    · exact ⟨_, _, .head _, .inr ⟨id, span, closed, children, rfl, .inl isStart⟩⟩
    · rcases List.mem_append.mp member with inside | isEnd
      · obtain ⟨m, q, listed, found⟩ := token_cases_of (some id) children inside
        exact ⟨m, q, .tail _ listed, found⟩
      · cases closed with
        | false => cases isEnd
        | true =>
          have isEnd := List.mem_singleton.mp isEnd
          exact ⟨_, _, .head _, .inr ⟨id, span, true, children, rfl, .inr ⟨rfl, isEnd⟩⟩⟩
  | leaf id u, member => by
    cases List.mem_singleton.mp member
    exact ⟨_, _, .head _, .inl ⟨id, rfl⟩⟩

theorem token_cases_of {t : Token} (parent : Option Nat) : ∀ nodes : List Node,
    t ∈ tokensAll nodes → ∃ m q, (m, q) ∈ listingOf parent nodes ∧ ((∃ id, m = leaf id t) ∨
      ∃ id span closed children, m = bracket id span closed children ∧
        (t = (Mark.opening id span.start).token ∨ closed = true ∧ t = (Mark.closing span.stop).token))
  | [], member => by cases member
  | n :: rest, member => by
    rw [tokensAll_cons] at member
    rcases List.mem_append.mp member with here | later
    · obtain ⟨m, q, listed, found⟩ := token_cases parent n here
      exact ⟨m, q, List.mem_append_left _ listed, found⟩
    · obtain ⟨m, q, listed, found⟩ := token_cases_of parent rest later
      exact ⟨m, q, List.mem_append_right _ listed, found⟩

end

theorem IsWhole.matches_of_mem {nodes children : List Node} {parent q : Option Nat} {id : Nat} {span : Span}
    {closed : Bool} (whole : (Node.bracket id span closed children).IsWhole)
    (listed : (Node.bracket id span closed children, q) ∈ listingOf parent nodes) :
    Matches (tokensAll nodes) (Mark.opening id span.start).token (Mark.closing span.stop).token := by
  obtain ⟨before, after, around⟩ := infix_tokensAll listed
  cases whole with
  | bracket inside =>
    refine ⟨before, tokensAll children, after, ?_, rfl, rfl,
      balanced_tokensAll fun n member => (inside n member).balanced⟩
    rw [← around, tokens_bracket]
    simp

namespace Trailing

variable {stop : Nat} {P : Node → Prop} {nodes : List Node}

theorem isWhole_of_closed (trailing : Trailing stop P nodes) (settled : ∀ n, P n → n.IsSettled) {parent q : Option Nat}
    {id : Nat} {span : Span} {children : List Node}
    (listed : (Node.bracket id span true children, q) ∈ listingOf parent nodes) :
    (Node.bracket id span true children).IsWhole := by
  rcases trailing.cases_of_mem settled listed with whole | ⟨_, here, _⟩ | ⟨_, _, _, _, isBracket, _⟩
  · exact whole
  · rcases settled _ here with whole | ⟨_, _, isLeaf, _⟩
    · exact whole
    · cases isLeaf
  · cases isBracket

/-- A bracket is closed exactly if the tokens hold a partner for it. -/
theorem closed_iff (trailing : Trailing stop P nodes) (settled : ∀ n, P n → n.IsSettled)
    (distinct : (tokensAll nodes).Nodup) {parent q : Option Nat} {id : Nat} {span : Span} {closed : Bool}
    {children : List Node} (listed : (Node.bracket id span closed children, q) ∈ listingOf parent nodes) :
    closed = true ↔ ∃ c, Matches (tokensAll nodes) (Mark.opening id span.start).token c := by
  cases closed with
  | true => exact iff_of_true rfl ⟨_, (trailing.isWhole_of_closed settled listed).matches_of_mem listed⟩
  | false =>
    refine iff_of_false Bool.false_ne_true ?_
    rintro ⟨c, partner⟩
    rcases trailing.cases_of_mem settled listed with
      whole | ⟨_, here, _⟩ | ⟨_, start, _, before, isBracket, inside, ends⟩
    · cases whole
    · cases (settled _ here).isClosed
    · cases isBracket
      rw [tokens_bracket, if_neg Bool.false_ne_true, List.append_nil] at ends
      exact not_matches_of_closesOwn distinct ends inside.closesOwn partner

theorem leaf_unmatched (trailing : Trailing stop P nodes) (settled : ∀ n, P n → n.IsSettled)
    (distinct : (tokensAll nodes).Nodup) {parent q : Option Nat} {id : Nat} {c : Token}
    (closes : c.kind = .closeBracket) (listed : (Node.leaf id c, q) ∈ listingOf parent nodes) :
    Node.leaf id c ∈ nodes ∧ ¬ ∃ o, Matches (tokensAll nodes) o c := by
  rcases trailing.cases_of_mem settled listed with whole | ⟨_, _, before, after, rfl, each⟩ | ⟨_, _, _, _, isBracket, _⟩
  · cases whole with
    | leaf notOpen notClose => exact absurd closes notClose
  · refine ⟨List.mem_append_right _ (.head _), ?_⟩
    rintro ⟨o, partner⟩
    rw [tokensAll_append, tokensAll_cons, tokens_leaf, List.singleton_append] at distinct partner
    exact not_matches_of_closesAll distinct rfl (IsSettled.closesAll fun n member => settled n (each n member)) partner
  · cases isBracket

theorem leaf_of_unmatched (trailing : Trailing stop P nodes) (settled : ∀ n, P n → n.IsSettled) {parent : Option Nat}
    {c : Token} (closes : c.kind = .closeBracket) (member : c ∈ tokensAll nodes)
    (unmatched : ¬ ∃ o, Matches (tokensAll nodes) o c) : ∃ id q, (Node.leaf id c, q) ∈ listingOf parent nodes := by
  obtain ⟨m, q, listed, ⟨id, rfl⟩ | ⟨id, span, closed, children, rfl, rfl | ⟨rfl, rfl⟩⟩⟩ :=
    token_cases_of parent nodes member
  · exact ⟨id, q, listed⟩
  · cases closes
  · exact absurd ⟨_, (trailing.isWhole_of_closed settled listed).matches_of_mem listed⟩ unmatched

def unclosedOf (listing : List (Node × Option Nat)) : List Node :=
  (listing.map Prod.fst).filter fun n => n.isBracket && !n.isClosed

theorem unclosedOf_settled (each : ∀ n ∈ nodes, n.IsSettled) (parent : Option Nat) :
    unclosedOf (listingOf parent nodes) = [] := by
  rw [unclosedOf, List.filter_eq_nil_iff]
  intro m member
  obtain ⟨⟨m, q⟩, listed, rfl⟩ := List.mem_map.mp member
  obtain ⟨n, isNode, listed⟩ := mem_listingOf.mp listed
  rcases (each n isNode).of_mem_listing listed with whole | ⟨rfl, _⟩
  · simp [whole.isClosed]
  · simp [(each m isNode).isClosed]

theorem unclosed_chain (trailing : Trailing stop P nodes) (settled : ∀ n, P n → n.IsSettled) (parent : Option Nat)
    {around : Node} (isAround : around.children = nodes) :
    (around :: unclosedOf (listingOf parent nodes)).IsChain (fun m n => n ∈ m.children) ∧
      ∀ n ∈ unclosedOf (listingOf parent nodes), n.span.stop = stop := by
  induction trailing generalizing parent around with
  | all each =>
    rw [unclosedOf_settled (fun n member => settled n (each n member))]
    exact ⟨.singleton _, by simp⟩
  | @last P nodes children id start each inside ih =>
    obtain ⟨chain, ends⟩ :=
      ih (fun _ => .inl) (some id) (show (bracket id ⟨start, stop⟩ false children).children = _ from rfl)
    have isUnclosed : unclosedOf (listingOf parent (nodes ++ [.bracket id ⟨start, stop⟩ false children])) =
        .bracket id ⟨start, stop⟩ false children :: unclosedOf (listingOf (some id) children) := by
      have earlier := unclosedOf_settled (fun n member => settled n (each n member)) parent
      simp only [unclosedOf, listingOf_append, listingOf, listing, List.append_nil, List.map_append, List.filter_append]
        at earlier ⊢
      rw [earlier]
      rfl
    rw [isUnclosed]
    exact ⟨.cons_cons (by simp [isAround]) chain, List.forall_mem_cons.mpr ⟨rfl, ends⟩⟩

end Trailing
end Node

namespace Tree

open Node Token

/-- The nodes stand at their numbers, each is listed by its parent once, and the children of a node are numbered and
placed one after the other inside it. -/
structure IsOrderly (t : Tree) : Prop where
  number {i : Nat} {n : Node} {parent : Option Nat} (listed : t.nodes[i]? = some (n, parent)) : n.id = i
  root : t.nodes[0]? = some (t.root, none)
  parent {i : Nat} {n : Node} {parent : Option Nat} (listed : t.nodes[i]? = some (n, parent)) (inner : i ≠ 0) :
    ∃ p, parent = some p.id ∧ t.node? p.id = some p ∧ (p.children.map Node.id).count i = 1
  child {i : Nat} {p c : Node} (listed : t.node? i = some p) (isChild : c ∈ p.children) :
    t.nodes[c.id]? = some (c, some i)
  sorted {i : Nat} {p : Node} (listed : t.node? i = some p) : (p.children.map Node.id).Pairwise (· < ·)
  apart {i : Nat} {p : Node} (listed : t.node? i = some p) :
    p.children.Pairwise fun left right => left.span.stop ≤ right.span.start
  inside {i : Nat} {p c : Node} (listed : t.node? i = some p) (isChild : c ∈ p.children) :
    p.span.start ≤ c.span.start ∧ c.span.start ≤ c.span.stop ∧ c.span.stop ≤ p.span.stop

/-- A tree gives back `tokens`, and its brackets are those of `tokens`; brackets without partner run to `stop`. -/
structure Reflects (t : Tree) (tokens : List Token) (stop : Nat) : Prop where
  reads : t.root.tokens = tokens
  distinct : tokens.Nodup
  closed_iff {i id : Nat} {span : Span} {closed : Bool} {children : List Node}
    (listed : t.node? i = some (.bracket id span closed children)) :
    closed = true ↔ ∃ c, Matches tokens ⟨.openBracket, "(", span.start⟩ c
  partner {i id : Nat} {span : Span} {children : List Node}
    (listed : t.node? i = some (.bracket id span true children)) :
    Matches tokens ⟨.openBracket, "(", span.start⟩ ⟨.closeBracket, ")", span.stop - 1⟩
  stray_iff {c : Token} (member : c ∈ tokens) (closes : c.kind = .closeBracket) :
    (∃ n ∈ t.stray, n.terminal? = some c) ↔ ¬ ∃ o, Matches tokens o c
  stray {n : Node} (isStray : n ∈ t.stray) : n ∈ t.root.children
  unclosed_chain : (t.root :: t.unclosed).IsChain fun m n => n ∈ m.children
  unclosed_stop {n : Node} (isUnclosed : n ∈ t.unclosed) : n.span.stop = stop

theorem isOrderly_build (cs : List Char) : (build cs).IsOrderly where
  number listed := (nodes_getElem?_iff.mp listed).2
  root := by rw [nodes_build, List.getElem?_cons_zero]
  parent {i n parent} listed inner := by
    obtain ⟨member, rfl⟩ := nodes_getElem?_iff.mp listed
    rcases listing_cases member with ⟨rfl, _⟩ | ⟨p, q, isListed, isChild, isParent⟩
    · exact absurd rfl inner
    · refine ⟨p, isParent, node?_build_iff.mpr ⟨⟨q, isListed⟩, rfl⟩, ?_⟩
      have distinct := (children_sorted isListed).imp Nat.ne_of_lt
      exact List.count_eq_one_of_mem distinct (List.mem_map_of_mem isChild)
  child listed isChild := by
    obtain ⟨⟨parent, member⟩, rfl⟩ := node?_build_iff.mp listed
    exact nodes_getElem?_iff.mpr ⟨mem_listing_child member isChild, rfl⟩
  sorted listed := by
    obtain ⟨⟨parent, member⟩, _⟩ := node?_build_iff.mp listed
    exact children_sorted member
  apart listed := by
    obtain ⟨⟨parent, member⟩, _⟩ := node?_build_iff.mp listed
    obtain ⟨first, last, placed, _⟩ := placed_children member
    exact placed.bounds.2
  inside listed isChild := by
    obtain ⟨⟨parent, member⟩, _⟩ := node?_build_iff.mp listed
    obtain ⟨first, last, placed, after, before⟩ := placed_children member
    have bounds := placed.bounds.1 _ isChild
    omega

theorem mem_stray {t : Tree} {n : Node} :
    n ∈ t.stray ↔ (∃ parent, (n, parent) ∈ t.nodes) ∧ ∃ id c, n = leaf id c ∧ c.kind = .closeBracket := by
  simp only [Tree.stray, List.mem_filter, List.mem_map, Prod.exists, exists_and_right, exists_eq_right]
  refine and_congr_right fun _ => ?_
  cases n with
  | document | bracket => simp [terminal?]
  | leaf id c =>
    by_cases isComment : c.kind = .comment
    · simp [terminal?, isComment]
    · simp [terminal?, isComment]

theorem reflects_build (cs : List Char) :
    (build cs).Reflects ((Token.scan cs).filter (·.kind != .blank)) (width cs) := by
  have trailing := build_trailing cs
  have reads : tokensAll (build cs).root.children = (Token.scan cs).filter (·.kind != .blank) := tokens_build cs
  have distinct : (tokensAll (build cs).root.children).Nodup := by
    have sorted := (Token.scan_eq_iff.mp (rfl : Token.scan cs = _)).1.sorted.2
    rw [reads]
    exact (sorted.sublist List.filter_sublist).imp fun before same => by simp [same] at before
  rw [← reads]
  have below {n : Node} {parent : Option Nat} (listed : (n, parent) ∈ (build cs).nodes) (other : n ≠ (build cs).root) :
      (n, parent) ∈ listingOf (some 0) (build cs).root.children :=
    (mem_nodes_build.mp listed).resolve_left fun isRoot => other isRoot.1
  have bracket {i id : Nat} {span : Span} {closed : Bool} {children : List Node}
      (listed : (build cs).node? i = some (.bracket id span closed children)) :
      ∃ parent, (Node.bracket id span closed children, parent) ∈ listingOf (some 0) (build cs).root.children := by
    obtain ⟨⟨parent, member⟩, _⟩ := node?_build_iff.mp listed
    exact ⟨parent, below member (by simp [build])⟩
  have unclosed : (build cs).unclosed = Trailing.unclosedOf (listingOf (some 0) (build cs).root.children) := by
    rw [Tree.unclosed, nodes_build]
    rfl
  have chain := trailing.unclosed_chain (fun _ => id) (some 0) (show (build cs).root.children = _ from rfl)
  exact {
    reads := rfl
    distinct := distinct
    closed_iff := fun listed => by
      obtain ⟨parent, member⟩ := bracket listed
      exact trailing.closed_iff (fun _ => id) distinct member
    partner := fun listed => by
      obtain ⟨parent, member⟩ := bracket listed
      exact (trailing.isWhole_of_closed (fun _ => id) member).matches_of_mem member
    stray_iff := fun {t} member closes => by
      constructor
      · rintro ⟨n, isStray, isToken⟩
        obtain ⟨⟨parent, listed⟩, _, c, rfl, closes'⟩ := mem_stray.mp isStray
        have same : c = t := by simpa [terminal?, closes'] using isToken
        rw [← same]
        exact (trailing.leaf_unmatched (fun _ => id) distinct closes' (below listed (by simp [build]))).2
      · intro unmatched
        obtain ⟨id, parent, listed⟩ := trailing.leaf_of_unmatched (fun _ => id) closes member unmatched
        refine ⟨_, mem_stray.mpr ⟨⟨parent, mem_nodes_build.mpr (.inr listed)⟩, id, t, rfl, closes⟩, ?_⟩
        simp [terminal?, closes]
    stray := fun isStray => by
      obtain ⟨⟨parent, listed⟩, _, c, rfl, closes⟩ := mem_stray.mp isStray
      exact (trailing.leaf_unmatched (fun _ => id) distinct closes (below listed (by simp [build]))).1
    unclosed_chain := unclosed ▸ chain.1
    unclosed_stop := fun isUnclosed => chain.2 _ (unclosed ▸ isUnclosed) }

/-- A tree of a text has its nodes in order, and it reflects the tokens of the text that are no blanks. -/
theorem build_reflects (cs : List Char) :
    (build cs).IsOrderly ∧ (build cs).Reflects ((Token.scan cs).filter (·.kind != .blank)) (width cs) :=
  ⟨isOrderly_build cs, reflects_build cs⟩

end Tree
end PddlAssist
