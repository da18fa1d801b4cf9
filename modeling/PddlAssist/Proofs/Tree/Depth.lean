import PddlAssist.Proofs.Token.Extension
import PddlAssist.Proofs.Tree.Brackets
import PddlAssist.Proofs.Tree.Reflection

namespace PddlAssist

open Text

namespace Token

theorem opens_of_plain {t : Token} (plain : ¬ t.IsBracket) : Layout.opens t = 0 :=
  opens_of_other (fun isOpen => plain (.inl isOpen)) (fun isClose => plain (.inr isClose))

theorem depth_of_plain {tokens : List Token} (plain : ∀ t ∈ tokens, Layout.opens t = 0) : depth tokens = 0 := by
  induction tokens with
  | nil => rfl
  | cons t rest ih =>
    rw [List.forall_mem_cons] at plain
    rw [depth_cons, plain.1, ih plain.2]
    rfl

theorem depth_filter {keeps : Token → Bool} {tokens : List Token}
    (plain : ∀ t ∈ tokens, keeps t = false → Layout.opens t = 0) : depth (tokens.filter keeps) = depth tokens := by
  induction tokens with
  | nil => rfl
  | cons t rest ih =>
    rw [List.forall_mem_cons] at plain
    cases keep : keeps t with
    | true => rw [List.filter_cons_of_pos keep, depth_cons, depth_cons, ih plain.2]
    | false => rw [List.filter_cons_of_neg (by simp [keep]), depth_cons, plain.1 keep, ih plain.2, Int.zero_add]

theorem depth_upTo (before after : List Char) :
    depth ((scan (before ++ after)).filter (·.stop ≤ width before)) = depth (scan before) := by
  obtain ⟨kept, ended, more, scan, scan', plain, later⟩ := scan_extend before after
  have inside : kept.filter (·.stop ≤ width before) = kept := by
    refine List.filter_eq_self.mpr fun t member => ?_
    simpa using (bounds_of_mem_scan (scan ▸ List.mem_append_left _ member)).2
  have outside : depth (more.filter (·.stop ≤ width before)) = 0 := by
    refine depth_of_plain fun t member => opens_of_plain fun isBracket => ?_
    obtain ⟨isMore, ends⟩ := List.mem_filter.mp member
    have begins := later t isMore isBracket
    have longer := (bounds_of_mem_scan (scan' ▸ List.mem_append_right _ isMore)).1
    simp only [decide_eq_true_eq] at ends
    omega
  have nothing : depth ended = 0 := depth_of_plain fun t member => opens_of_plain (plain t member)
  rw [scan', List.filter_append, depth_append, inside, outside, scan, depth_append, nothing]

end Token

namespace Node

open Token

def opened (place : Nat) (listing : List (Node × Option Nat)) : Nat :=
  listing.countP fun entry => entry.1.isBracket && entry.1.holds place

theorem stop_opening (id start : Nat) : (Mark.opening id start).token.stop = start + 1 := by
  have narrow : '('.utf8Size = 1 := rfl
  simp [Mark.token, Token.stop, narrow]

theorem stop_closing {stop : Nat} (positive : 0 < stop) : (Mark.closing stop).token.stop = stop := by
  have narrow : ')'.utf8Size = 1 := rfl
  simp only [Mark.token, Token.stop, String.reduceToList, width_cons, width_nil, narrow]
  omega

theorem opened_append (place : Nat) (left right : List (Node × Option Nat)) :
    opened place (left ++ right) = opened place left + opened place right := List.countP_append

theorem depth_single (t : Token) (place : Nat) :
    depth ([t].filter (·.stop ≤ place)) = if t.stop ≤ place then Layout.opens t else 0 := by
  by_cases ends : t.stop ≤ place <;> simp [ends]

theorem depth_leaf {t : Token} (plain : Layout.opens t = 0) (id place : Nat) (parent : Option Nat) :
    depth ((leaf id t).tokens.filter (·.stop ≤ place)) = opened place ((leaf id t).listing parent) := by
  rw [tokens_leaf, depth_filter fun u member _ => by rwa [List.mem_singleton.mp member], depth_cons, plain]
  rfl

theorem depth_bracket {id place : Nat} {span : Span} {closed : Bool} {children : List Node} (parent : Option Nat)
    (order : span.start < span.stop) (unclosed : closed = false → place ≤ span.stop)
    (inside : depth ((tokensAll children).filter (·.stop ≤ place)) = opened place (listingOf (some id) children)) :
    depth ((bracket id span closed children).tokens.filter (·.stop ≤ place)) =
      opened place ((bracket id span closed children).listing parent) := by
  have opening : depth ([(Mark.opening id span.start).token].filter (·.stop ≤ place)) =
      if span.start < place then 1 else 0 := by
    rw [depth_single, stop_opening]
    rfl
  have closing : depth ((if closed then [(Mark.closing span.stop).token] else []).filter (·.stop ≤ place)) =
      if closed = true ∧ span.stop ≤ place then -1 else 0 := by
    cases closed with
    | false => rfl
    | true =>
      rw [if_pos rfl, depth_single, stop_closing (by omega)]
      simp only [true_and]
      rfl
  have listed : opened place ((bracket id span closed children).listing parent) =
      opened place (listingOf (some id) children) + if (bracket id span closed children).holds place then 1 else 0 := by
    rw [listing, opened, List.countP_cons]
    rfl
  rw [tokens_bracket, ← List.singleton_append, List.filter_append, List.filter_append, depth_append, depth_append,
    opening, inside, closing, listed]
  cases closed with
  | true =>
    simp only [holds, Bool.not_true, Bool.false_and, Bool.or_false, Bool.and_eq_true, decide_eq_true_eq, true_and]
    split <;> split <;> split <;> omega
  | false =>
    have upTo := unclosed rfl
    simp only [holds, Bool.not_false, Bool.true_and, Bool.and_eq_true, Bool.or_eq_true, decide_eq_true_eq,
      Bool.false_eq_true, false_and, if_false]
    split <;> split <;> omega

theorem depth_cons_node {n : Node} {rest : List Node} {place : Nat} {parent : Option Nat}
    (first : depth (n.tokens.filter (·.stop ≤ place)) = opened place (n.listing parent))
    (later : depth ((tokensAll rest).filter (·.stop ≤ place)) = opened place (listingOf parent rest)) :
    depth ((tokensAll (n :: rest)).filter (·.stop ≤ place)) = opened place (listingOf parent (n :: rest)) := by
  rw [tokensAll_cons, List.filter_append, depth_append, first, later, listingOf, opened_append]
  rfl

structure Counts (place : Nat) (n : Node) : Prop where
  plain : ∀ id t, n = leaf id t → Layout.opens t = 0
  unclosed : n.isClosed = false → place ≤ n.span.stop

theorem Placed.depth_eq {low high place : Nat} {nodes : List Node} (placed : Placed low high nodes)
    {parent : Option Nat} (counts : ∀ entry ∈ listingOf parent nodes, Counts place entry.1) :
    depth ((tokensAll nodes).filter (·.stop ≤ place)) = opened place (listingOf parent nodes) := by
  induction placed generalizing parent with
  | nil => rfl
  | leaf _ _ ih =>
    rw [listingOf, listing, List.forall_mem_append, List.forall_mem_singleton] at counts
    exact depth_cons_node (depth_leaf (counts.1.plain _ _ rfl) _ _ _) (ih counts.2)
  | closed after inside ends _ ihInside ihLater =>
    have order := inside.le
    rw [listingOf, listing, List.forall_mem_append, List.forall_mem_cons] at counts
    exact depth_cons_node (depth_bracket parent (by omega) (by simp) (ihInside counts.1.2)) (ihLater counts.2)
  | unclosed after inside ends ih =>
    have order := inside.le
    rw [listingOf, listing, List.forall_mem_append, List.forall_mem_cons] at counts
    exact depth_cons_node (depth_bracket parent order counts.1.1.unclosed (ih counts.1.2)) rfl

end Node

namespace Tree

open Node Token

def openAt (t : Tree) (place : Nat) : Nat := t.brackets.countP (·.holds place)

theorem counts_of_mem_build {cs : List Char} (balanced : (build cs).stray = []) {place : Nat} (inside : place ≤ width cs)
    {n : Node} {q : Option Nat} (listed : (n, q) ∈ listingOf (some 0) (build cs).root.children) : Counts place n := by
  have whole {n : Node} (isWhole : n.IsWhole) : Counts place n := by
    constructor
    · rintro id t rfl
      cases isWhole with
      | leaf notOpen notClose => exact opens_of_other notOpen notClose
    · intro unclosed
      rw [isWhole.isClosed] at unclosed
      cases unclosed
  rcases (build_trailing cs).cases_of_mem (fun _ settled => settled) listed with
    isWhole | ⟨_, isWhole | ⟨id, t, rfl, isClose⟩, _⟩ | ⟨_, _, _, _, rfl, _⟩
  · exact whole isWhole
  · exact whole isWhole
  · have isStray : leaf id t ∈ (build cs).stray :=
      mem_stray.mpr ⟨⟨q, mem_nodes_build.mpr (.inr listed)⟩, id, t, rfl, isClose⟩
    rw [balanced] at isStray
    cases isStray
  · exact ⟨by simp, fun _ => inside⟩

theorem openAt_build (before after : List Char) (balanced : (build (before ++ after)).stray = []) :
    ((build (before ++ after)).openAt (width before) : Int) = depth (scan before) := by
  have tokens : tokensAll (build (before ++ after)).root.children = _ := tokens_build (before ++ after)
  have counted : (build (before ++ after)).openAt (width before) =
      opened (width before) (listingOf (some 0) (build (before ++ after)).root.children) := by
    rw [openAt, brackets, nodes_build, List.countP_filter, List.countP_map, List.countP_cons]
    simp [build, isBracket, opened, Function.comp_def, Bool.and_comm]
  have inside : width before ≤ width (before ++ after) := by simp
  rw [counted, ← (build_placed (before ++ after)).depth_eq fun entry member => counts_of_mem_build balanced inside member,
    tokens, List.filter_filter, ← depth_upTo before after]
  simp only [Bool.and_comm]
  rw [← List.filter_filter, depth_filter]
  intro t _ isBlank
  simp only [bne_eq_false_iff_eq] at isBlank
  exact opens_of_plain (by simp [IsBracket, isBlank])

end Tree
end PddlAssist
