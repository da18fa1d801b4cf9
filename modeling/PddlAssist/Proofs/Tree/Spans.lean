import PddlAssist.Proofs.Document.Order
import PddlAssist.Proofs.Reading.Facts
import PddlAssist.Proofs.Reading.Sections
import PddlAssist.Proofs.Tree.Paths

namespace PddlAssist

open Text

namespace Text

structure Shows (cs : List Char) (span : Span) (part : List Char) : Prop extends Fits cs span where
  ordered : span.start ≤ span.stop
  shown : slice cs span = part

theorem shows_iff {cs part : List Char} {span : Span} : Shows cs span part ↔ ∃ before after,
    cs = before ++ (part ++ after) ∧ span.start = width before ∧ span.stop = width (before ++ part) := by
  constructor
  · rintro ⟨⟨⟨before, rest, rfl, isStart⟩, upTo, after, whole, isStop⟩, ordered, shown⟩
    obtain ⟨between, rfl, isRest⟩ :=
      Document.append_of_width_le whole (by rw [isStart, isStop]; exact ordered)
    rw [slice, ← isStart, ← isStop, dropBytes_width, isRest, width_append, Nat.add_sub_cancel_left,
      takeBytes_width] at shown
    subst shown
    exact ⟨before, after, by rw [isRest], isStart.symm, isStop.symm⟩
  · rintro ⟨before, after, rfl, isStart, isStop⟩
    refine ⟨⟨⟨before, part ++ after, rfl, isStart.symm⟩, before ++ part, after, by simp, isStop.symm⟩, ?_, ?_⟩
    · rw [isStart, isStop, width_append]
      exact Nat.le_add_right _ _
    · rw [slice, isStart, isStop, dropBytes_width, width_append, Nat.add_sub_cancel_left, takeBytes_width]

theorem Fits.shows {cs : List Char} {span : Span} (fits : Fits cs span) (ordered : span.start ≤ span.stop) :
    Shows cs span (slice cs span) := ⟨fits, ordered, rfl⟩

section

variable {cs part before after : List Char} {span : Span} {c : Char}

theorem Shows.nonempty (shows : Shows cs span part) (wide : span.start < span.stop) : part ≠ [] := by
  obtain ⟨lead, rest, _, start, stop⟩ := shows_iff.mp shows
  rintro rfl
  rw [List.append_nil] at stop
  omega

theorem Shows.first (shows : Shows cs span part) (wide : span.start < span.stop) (whole : cs = before ++ c :: after)
    (start : span.start = width before) : ∃ inner, part = c :: inner := by
  obtain ⟨d, inner, rfl⟩ := List.exists_cons_of_ne_nil (shows.nonempty wide)
  obtain ⟨lead, rest, rfl, isStart, _⟩ := shows_iff.mp shows
  obtain rfl : lead = before := Document.prefix_of_width whole (isStart.symm.trans start)
  rw [List.append_cancel_left_eq] at whole
  exact ⟨inner, by rw [(List.cons.inj whole).1]⟩

theorem Shows.last (shows : Shows cs span part) (wide : span.start < span.stop) (whole : cs = before ++ c :: after)
    (stop : span.stop = width (before ++ [c])) : ∃ inner, part = inner ++ [c] := by
  obtain ⟨inner, d, rfl⟩ := (List.eq_nil_or_concat' part).resolve_left (shows.nonempty wide)
  obtain ⟨lead, rest, rfl, _, isStop⟩ := shows_iff.mp shows
  have same : lead ++ (inner ++ [d]) = before ++ [c] := by
    have whole' : (lead ++ (inner ++ [d])) ++ rest = (before ++ [c]) ++ after := by simpa using whole
    exact Document.prefix_of_width whole' (isStop.symm.trans stop)
  rw [← List.append_assoc] at same
  exact ⟨inner, by rw [(List.append_inj' same rfl).2]⟩

end

end Text

theorem Token.shows_of_mem_scan {cs : List Char} {t : Token} (member : t ∈ scan cs) :
    Shows cs t.span t.text.toList := by
  obtain ⟨earlier, later, whole, start, _⟩ := mem_scan member
  exact shows_iff.mpr ⟨texts earlier, texts later, whole, start, by rw [span, stop, start, width_append]⟩

def Token.visible (cs : List Char) : List Token := (scan cs).filter (·.kind != .blank)

namespace Tree

open Node Token

/-- A stretch from an opening bracket to its partner, or to the end of the text if it has none. -/
inductive IsBracketed (cs : List Char) (span : Span) : Prop where
  | closed {inner : List Char} (shows : Shows cs span ('(' :: (inner ++ [')'])))
      (partner : Matches (visible cs) ⟨.openBracket, "(", span.start⟩ ⟨.closeBracket, ")", span.stop - 1⟩) :
      IsBracketed cs span
  | unclosed {inner : List Char} (shows : Shows cs span ('(' :: inner)) (ends : span.stop = width cs)
      (alone : ¬ ∃ c, Matches (visible cs) ⟨.openBracket, "(", span.start⟩ c) : IsBracketed cs span

theorem IsBracketed.shows {cs : List Char} {span : Span} (bracketed : IsBracketed cs span) :
    ∃ inner, Shows cs span ('(' :: inner) := by
  cases bracketed with
  | closed shows => exact ⟨_, shows⟩
  | unclosed shows => exact ⟨_, shows⟩

section

variable {cs : List Char}

theorem tokens_visible {n : Node} {parent : Option Nat}
    (listed : (n, parent) ∈ listingOf (some 0) (build cs).root.children) {t : Token} (member : t ∈ n.tokens) :
    t ∈ visible cs := by
  have read := (infix_tokensAll listed).subset member
  rw [← tokens_document (width cs)] at read
  rw [visible, ← tokens_build cs]
  exact read

theorem cut_of_visible {t : Token} (member : t ∈ visible cs) {c : Char} (single : t.text = String.ofList [c]) :
    ∃ before after, cs = before ++ c :: after ∧ t.start = width before := by
  obtain ⟨before, after, whole, start, _⟩ := shows_iff.mp (shows_of_mem_scan (List.mem_of_mem_filter member))
  rw [single, String.toList_ofList] at whole
  exact ⟨before, after, whole, start⟩

theorem isBracketed_of_listed {id : Nat} {span : Span} {closed : Bool} {children : List Node} {parent : Option Nat}
    (listed : (bracket id span closed children, parent) ∈ (build cs).nodes) : IsBracketed cs span := by
  have isInner : (bracket id span closed children, parent) ∈ listingOf (some 0) (build cs).root.children :=
    (mem_nodes_build.mp listed).resolve_left fun isRoot => by simp [build] at isRoot
  have isNode : (build cs).node? id = some (bracket id span closed children) :=
    node?_build_iff.mpr ⟨⟨parent, listed⟩, rfl⟩
  have wide : span.start < span.stop := by
    obtain ⟨last, inside, upper, _⟩ :=
      placed_of_mem_brackets (List.mem_filter.mpr ⟨List.mem_map_of_mem (f := Prod.fst) listed, rfl⟩)
    exact Nat.lt_of_lt_of_le inside.le upper
  have shows := (fits_bracket listed).shows (Nat.le_of_lt wide)
  have opening : (Mark.opening id span.start).token ∈ visible cs := by
    refine tokens_visible isInner ?_
    rw [tokens_bracket]
    exact .head _
  obtain ⟨before, after, whole, start⟩ := cut_of_visible opening (c := '(') rfl
  obtain ⟨inner, isInside⟩ := shows.first wide whole start
  rw [isInside] at shows
  cases closed with
  | false =>
    have isUnclosed : bracket id span false children ∈ (build cs).unclosed :=
      List.mem_filter.mpr ⟨List.mem_map_of_mem (f := Prod.fst) listed, rfl⟩
    refine .unclosed shows ((reflects_build cs).unclosed_stop isUnclosed) fun partner => ?_
    exact Bool.false_ne_true (((reflects_build cs).closed_iff isNode).mpr partner)
  | true =>
    have closing : (Mark.closing span.stop).token ∈ visible cs := by
      refine tokens_visible isInner ?_
      rw [tokens_bracket]
      simp
    obtain ⟨upTo, rest, cut, stop⟩ := cut_of_visible closing (c := ')') rfl
    have narrow : ')'.utf8Size = 1 := rfl
    change span.stop - 1 = width upTo at stop
    obtain ⟨middle, isMiddle⟩ := shows.last wide cut (by simp [narrow]; omega)
    cases middle with
    | nil => cases isMiddle
    | cons c middle =>
      obtain ⟨rfl, rfl⟩ := List.cons.inj isMiddle
      exact .closed shows ((reflects_build cs).partner isNode)

end

end Tree

/-- The span of a node is that of what the node stands for. -/
def Node.IsPlaced (cs : List Char) : Node → Prop
  | document stop _ => stop = width cs
  | bracket _ span _ _ => Tree.IsBracketed cs span
  | leaf _ t => Shows cs t.span t.text.toList

namespace Tree

section

variable {cs : List Char} {n : Node} (listed : n ∈ (build cs).nodes.map Prod.fst)

include listed

theorem isPlaced_of_mem_nodes : n.IsPlaced cs := by
  obtain ⟨parent, isEntry⟩ : ∃ parent, (n, parent) ∈ (build cs).nodes := by simpa using listed
  cases n with
  | document stop children =>
    rcases mem_nodes_build.mp isEntry with ⟨isRoot, _⟩ | inner
    · cases isRoot
      rfl
    · rcases (build_placed cs).cases_of_mem_listingOf inner with ⟨_, _, same⟩ | ⟨_, _, _, _, _, same, _⟩ <;> cases same
  | bracket => exact isBracketed_of_listed isEntry
  | leaf id t =>
    rcases mem_nodes_build.mp isEntry with ⟨isRoot, _⟩ | inner
    · cases isRoot
    · exact Token.shows_of_mem_scan (mem_scan_of_leaf inner)

theorem isBracketed_of_mem_nodes (isBracket : n.isBracket = true) : IsBracketed cs n.span := by
  have placed := isPlaced_of_mem_nodes listed
  cases n with
  | document | leaf => cases isBracket
  | bracket => exact placed

theorem shows_of_terminal? {t : Token} (isWord : n.terminal? = some t) : Shows cs t.span t.text.toList := by
  have placed := isPlaced_of_mem_nodes listed
  cases n with
  | document | bracket => cases isWord
  | leaf id u =>
    rw [Node.terminal?] at isWord
    split at isWord
    · cases isWord
    · cases isWord
      exact placed

theorem shows_of_mem_nodes : ∃ part, Shows cs n.span part := by
  have placed := isPlaced_of_mem_nodes listed
  cases n with
  | document stop =>
    cases placed
    exact ⟨cs, shows_iff.mpr ⟨[], [], by simp, rfl, rfl⟩⟩
  | bracket =>
    obtain ⟨inner, shows⟩ := placed.shows
    exact ⟨_, shows⟩
  | leaf => exact ⟨_, placed⟩

end

end Tree
end PddlAssist
