import Mathlib.Algebra.BigOperators.Group.List.Basic
import Mathlib.Algebra.Ring.Int.Defs
import PddlAssist.Layout
import PddlAssist.Proofs.Tree.Listing

namespace PddlAssist

open Text

namespace Token

def depth (tokens : List Token) : Int := (tokens.map Layout.opens).sum

@[simp] theorem depth_nil : depth [] = 0 := rfl

@[simp] theorem depth_cons (t : Token) (tokens : List Token) : depth (t :: tokens) = Layout.opens t + depth tokens := by
  simp [depth]

@[simp] theorem depth_append (left right : List Token) : depth (left ++ right) = depth left + depth right := by
  simp [depth]

theorem opens_of_openBracket {t : Token} (kind : t.kind = .openBracket) : Layout.opens t = 1 := by
  simp [Layout.opens, kind]

theorem opens_of_closeBracket {t : Token} (kind : t.kind = .closeBracket) : Layout.opens t = -1 := by
  simp [Layout.opens, kind]

theorem opens_of_other {t : Token} (notOpen : t.kind ≠ .openBracket) (notClose : t.kind ≠ .closeBracket) :
    Layout.opens t = 0 := by
  cases kind : t.kind <;> simp_all [Layout.opens]

/-- Tokens among which every bracket has its partner. -/
inductive Balanced : List Token → Prop where
  | nil : Balanced []
  | other {t : Token} {rest : List Token} (notOpen : t.kind ≠ .openBracket) (notClose : t.kind ≠ .closeBracket)
      (later : Balanced rest) : Balanced (t :: rest)
  | pair {o c : Token} {inner rest : List Token} (opens : o.kind = .openBracket) (closes : c.kind = .closeBracket)
      (inside : Balanced inner) (later : Balanced rest) : Balanced (o :: (inner ++ c :: rest))

/-- The brackets `o` and `c` are partners: what stands between them is balanced. -/
def Matches (tokens : List Token) (o c : Token) : Prop :=
  ∃ before inner after, tokens = before ++ o :: (inner ++ c :: after) ∧ o.kind = .openBracket ∧
    c.kind = .closeBracket ∧ Balanced inner

theorem Balanced.append {left right : List Token} (first : Balanced left) (second : Balanced right) :
    Balanced (left ++ right) := by
  induction first with
  | nil => exact second
  | other notOpen notClose _ ih => exact .other notOpen notClose ih
  | pair opens closes inside _ _ ih =>
    rw [List.cons_append, List.append_assoc, List.cons_append]
    exact .pair opens closes inside ih

theorem Balanced.depth_eq {tokens : List Token} (balanced : Balanced tokens) : depth tokens = 0 := by
  induction balanced with
  | nil => rfl
  | other notOpen notClose _ ih => rw [depth_cons, opens_of_other notOpen notClose, ih]; rfl
  | pair opens closes _ _ ihInside ihLater =>
    rw [depth_cons, depth_append, depth_cons, opens_of_openBracket opens, opens_of_closeBracket closes, ihInside,
      ihLater]
    rfl

def ClosesOwn (tokens : List Token) : Prop := ∀ before after, tokens = before ++ after → 0 ≤ depth before

def ClosesAll (tokens : List Token) : Prop := ∀ before after, tokens = before ++ after → depth after ≤ 0

theorem ClosesOwn.append {left right : List Token} (first : ClosesOwn left) (second : ClosesOwn right) :
    ClosesOwn (left ++ right) := by
  intro before after split
  rcases List.append_eq_append_iff.mp split with ⟨more, rfl, isRight⟩ | ⟨more, isLeft, _⟩
  · rw [depth_append]
    have := first left [] (by simp)
    have := second more after isRight
    omega
  · exact first before more isLeft

theorem ClosesAll.append {left right : List Token} (first : ClosesAll left) (second : ClosesAll right) :
    ClosesAll (left ++ right) := by
  intro before after split
  rcases List.append_eq_append_iff.mp split with ⟨more, _, isRight⟩ | ⟨more, isLeft, rfl⟩
  · exact second more after isRight
  · rw [depth_append]
    have := first before more isLeft
    have := second [] right rfl
    omega

theorem ClosesOwn.cons_open {o : Token} {rest : List Token} (opens : o.kind = .openBracket) (own : ClosesOwn rest) :
    ClosesOwn (o :: rest) := by
  intro before after split
  cases before with
  | nil => exact Int.le_refl 0
  | cons t before =>
    obtain ⟨rfl, isRest⟩ := List.cons.inj split
    have := own before after isRest
    rw [depth_cons, opens_of_openBracket opens]
    omega

theorem Balanced.closesOwn {tokens : List Token} (balanced : Balanced tokens) : ClosesOwn tokens := by
  induction balanced with
  | nil =>
    intro before after split
    rw [(List.append_eq_nil_iff.mp split.symm).1]
    exact Int.le_refl 0
  | @other t rest notOpen notClose _ ih =>
    intro before after split
    cases before with
    | nil => exact Int.le_refl 0
    | cons u before =>
      obtain ⟨rfl, isRest⟩ := List.cons.inj split
      have := ih before after isRest
      rw [depth_cons, opens_of_other notOpen notClose]
      omega
  | @pair o c inner rest opens closes inside _ ihInside ihLater =>
    intro before after split
    cases before with
    | nil => exact Int.le_refl 0
    | cons u before =>
      obtain ⟨rfl, isRest⟩ := List.cons.inj split
      rw [depth_cons, opens_of_openBracket opens]
      rcases List.append_eq_append_iff.mp isRest with ⟨more, rfl, isMore⟩ | ⟨more, isInner, _⟩
      · rw [depth_append, inside.depth_eq]
        cases more with
        | nil => simp
        | cons v more =>
          obtain ⟨rfl, isLater⟩ := List.cons.inj isMore
          have := ihLater more after isLater
          rw [depth_cons, opens_of_closeBracket closes]
          omega
      · have := ihInside before more isInner
        omega

theorem Balanced.closesAll {tokens : List Token} (balanced : Balanced tokens) : ClosesAll tokens := by
  intro before after split
  have whole := balanced.depth_eq
  have own := balanced.closesOwn before after split
  rw [split, depth_append] at whole
  omega

theorem split_unique {α : Type} {before before' after after' : List α} {a : α}
    (distinct : (before ++ a :: after).Nodup) (same : before ++ a :: after = before' ++ a :: after') :
    before = before' ∧ after = after' := by
  obtain ⟨_, later, apart⟩ := List.nodup_append.mp distinct
  have notAfter : a ∉ after := (List.nodup_cons.mp later).1
  have notBefore : a ∉ before := fun member => apart a member a (.head _) rfl
  exact ((List.append_cons_inj_of_notMem notBefore notAfter).mp same).imp id And.right

theorem not_matches_of_closesOwn {tokens before after : List Token} {o c : Token} (distinct : tokens.Nodup)
    (here : tokens = before ++ o :: after) (own : ClosesOwn after) : ¬ Matches tokens o c := by
  rintro ⟨before', inner, after', there, _, closes, balanced⟩
  rw [here] at distinct there
  have isAfter := (split_unique distinct there).2
  have low := own (inner ++ [c]) after' (by simp [isAfter])
  rw [depth_append, balanced.depth_eq, depth_cons, opens_of_closeBracket closes, depth_nil] at low
  omega

/-- Nothing opens a bracket if all brackets that are opened before it are closed before it too. -/
theorem not_matches_of_closesAll {tokens before after : List Token} {o c : Token} (distinct : tokens.Nodup)
    (here : tokens = before ++ c :: after) (all : ClosesAll before) : ¬ Matches tokens o c := by
  rintro ⟨before', inner, after', there, opens, _, balanced⟩
  rw [here] at distinct there
  have there' : before ++ c :: after = (before' ++ o :: inner) ++ c :: after' := by simpa using there
  have isBefore := (split_unique distinct there').1
  have high := all before' (o :: inner) isBefore
  rw [depth_cons, balanced.depth_eq, opens_of_openBracket opens] at high
  omega

end Token

namespace Node

open Token

inductive IsWhole : Node → Prop where
  | leaf {id : Nat} {t : Token} (notOpen : t.kind ≠ .openBracket) (notClose : t.kind ≠ .closeBracket) :
      IsWhole (.leaf id t)
  | bracket {id : Nat} {span : Span} {children : List Node} (inside : ∀ n ∈ children, IsWhole n) :
      IsWhole (.bracket id span true children)

def IsStray (n : Node) : Prop := ∃ id t, n = leaf id t ∧ t.kind = .closeBracket

def IsSettled (n : Node) : Prop := n.IsWhole ∨ n.IsStray

/-- Siblings with the property `P`; a bracket that is never closed may be the last of them. -/
inductive Trailing (stop : Nat) : (Node → Prop) → List Node → Prop where
  | all {P : Node → Prop} {nodes : List Node} (each : ∀ n ∈ nodes, P n) : Trailing stop P nodes
  | last {P : Node → Prop} {nodes children : List Node} {id start : Nat} (each : ∀ n ∈ nodes, P n)
      (inside : Trailing stop IsWhole children) :
      Trailing stop P (nodes ++ [.bracket id ⟨start, stop⟩ false children])

theorem balanced_tokensAll {nodes : List Node} (each : ∀ n ∈ nodes, Balanced n.tokens) :
    Balanced (tokensAll nodes) := by
  induction nodes with
  | nil => exact .nil
  | cons n nodes ih =>
    rw [List.forall_mem_cons] at each
    rw [tokensAll_cons]
    exact each.1.append (ih each.2)

theorem IsWhole.balanced {n : Node} (whole : n.IsWhole) : Balanced n.tokens := by
  induction whole with
  | leaf notOpen notClose => exact .other notOpen notClose .nil
  | bracket _ ih =>
    rw [tokens_bracket]
    exact .pair rfl rfl (balanced_tokensAll ih) .nil

theorem IsWhole.of_mem_listing {n m : Node} {parent q : Option Nat} (whole : n.IsWhole)
    (listed : (m, q) ∈ n.listing parent) : m.IsWhole := by
  refine Node.of_mem_listing (motive := fun m _ => m.IsWhole) ?_ n whole listed
  intro m _ here c isChild
  cases here with
  | leaf => cases isChild
  | bracket inside => exact inside c isChild

theorem IsWhole.isClosed {n : Node} (whole : n.IsWhole) : n.isClosed = true := by
  cases whole <;> rfl

theorem IsSettled.isClosed {n : Node} (settled : n.IsSettled) : n.isClosed = true := by
  rcases settled with whole | ⟨_, _, rfl, _⟩
  · exact whole.isClosed
  · rfl

theorem IsSettled.closesAll {nodes : List Node} (settled : ∀ n ∈ nodes, n.IsSettled) : ClosesAll (tokensAll nodes) := by
  induction nodes with
  | nil => exact Balanced.nil.closesAll
  | cons n nodes ih =>
    rw [List.forall_mem_cons] at settled
    rw [tokensAll_cons]
    refine ClosesAll.append ?_ (ih settled.2)
    rcases settled.1 with whole | ⟨id, t, rfl, closes⟩
    · exact whole.balanced.closesAll
    · rw [tokens_leaf]
      intro before after split
      rcases List.cons_eq_append_iff.mp split with ⟨_, rfl⟩ | ⟨before, _, nothing⟩
      · rw [depth_cons, opens_of_closeBracket closes, depth_nil]
        decide
      · simp [(List.append_eq_nil_iff.mp nothing.symm).2]

theorem IsSettled.of_mem_listing {n m : Node} {parent q : Option Nat} (settled : n.IsSettled)
    (listed : (m, q) ∈ n.listing parent) : m.IsWhole ∨ m = n ∧ q = parent := by
  rcases settled with whole | ⟨_, _, rfl, _⟩
  · exact .inl (whole.of_mem_listing listed)
  · cases List.mem_singleton.mp listed
    exact .inr ⟨rfl, rfl⟩

namespace Trailing

variable {stop : Nat} {P : Node → Prop} {nodes : List Node}

theorem append {Q : Node → Prop} (trailing : Trailing stop Q nodes) (weaker : ∀ n, Q n → P n) {earlier : List Node}
    (each : ∀ n ∈ earlier, P n) : Trailing stop P (earlier ++ nodes) := by
  have both {more : List Node} (later : ∀ n ∈ more, Q n) : ∀ n ∈ earlier ++ more, P n :=
    List.forall_mem_append.mpr ⟨each, fun n member => weaker n (later n member)⟩
  cases trailing with
  | all later => exact .all (both later)
  | last later inside =>
    rw [← List.append_assoc]
    exact .last (both later) inside

theorem closesOwn (trailing : Trailing stop IsWhole nodes) : ClosesOwn (tokensAll nodes) := by
  generalize same : IsWhole = Q at trailing
  induction trailing with
  | all each =>
    subst same
    exact (balanced_tokensAll fun n member => (each n member).balanced).closesOwn
  | last each _ ih =>
    subst same
    rw [tokensAll_append, tokensAll_cons, tokens_bracket]
    refine ClosesOwn.append (balanced_tokensAll fun n member => (each n member).balanced).closesOwn ?_
    simpa using ClosesOwn.cons_open (o := (Mark.opening _ _).token) rfl (ih rfl)

theorem cases_of_mem (trailing : Trailing stop P nodes) (settled : ∀ n, P n → n.IsSettled)
    {parent q : Option Nat} {m : Node} (listed : (m, q) ∈ listingOf parent nodes) :
    m.IsWhole ∨ (q = parent ∧ P m ∧ ∃ before after, nodes = before ++ m :: after ∧ ∀ n ∈ before, P n) ∨
      ∃ id start children before, m = .bracket id ⟨start, stop⟩ false children ∧ Trailing stop IsWhole children ∧
        tokensAll nodes = before ++ m.tokens := by
  have among {nodes : List Node} (each : ∀ n ∈ nodes, P n) (after : List Node) {n : Node} (member : n ∈ nodes)
      (listed : (m, q) ∈ n.listing parent) : m.IsWhole ∨ q = parent ∧ P m ∧
        ∃ before after', nodes ++ after = before ++ m :: after' ∧ ∀ n ∈ before, P n := by
    rcases (settled n (each n member)).of_mem_listing listed with whole | ⟨rfl, isParent⟩
    · exact .inl whole
    · obtain ⟨before, rest, rfl⟩ := List.append_of_mem member
      exact .inr ⟨isParent, each m member, before, rest ++ after, by simp, fun n earlier =>
        each n (List.mem_append_left _ earlier)⟩
  induction trailing generalizing parent with
  | all each =>
    obtain ⟨n, member, listed⟩ := mem_listingOf.mp listed
    have found := among each [] member listed
    rw [List.append_nil] at found
    exact found.imp_right .inl
  | @last P nodes children id start each inside ih =>
    obtain ⟨n, member, listed⟩ := mem_listingOf.mp listed
    rcases List.mem_append.mp member with isNode | isLast
    · exact (among each _ isNode listed).imp_right .inl
    · cases List.mem_singleton.mp isLast
      rw [listing_eq] at listed
      rcases List.mem_cons.mp listed with same | deeper
      · cases same
        exact .inr (.inr ⟨id, start, children, tokensAll nodes, rfl, inside, by simp⟩)
      · rcases ih (fun n whole => .inl whole) deeper
            (fun each _ _ member listed => .inl ((each _ member).of_mem_listing listed)) with
          whole | ⟨_, whole, _⟩ | ⟨id', start', children', before, isBracket, inside', ends⟩
        · exact .inl whole
        · exact .inl whole
        · refine .inr (.inr ⟨id', start', children', tokensAll nodes ++ (Mark.opening id start).token :: before,
            isBracket, inside', ?_⟩)
          rw [tokensAll_append, tokensAll_cons, tokens_bracket]
          change tokensAll children = before ++ m.tokens at ends
          simp [ends]

end Trailing
end Node
end PddlAssist
