import PddlAssist.Proofs.Document.Identifiers
import PddlAssist.Proofs.Document.Order
import PddlAssist.Proofs.Token.Precedence
import PddlAssist.Proofs.Tree.Paths

namespace PddlAssist

open Text

namespace Node

/-- A bracket whose first child, comments apart, is a terminal that begins at an offset. -/
def IsNamedAt (n : Node) (offset : Nat) : Prop :=
  n.isBracket = true ∧ ∃ comments child rest, n.children = comments ++ child :: rest ∧
    (∀ c ∈ comments, c.isComment = true) ∧ child.isTerminal = true ∧ child.span.start = offset

theorem terminal?_eq_some {n : Node} {t : Token} (isTerminal : n.terminal? = some t) :
    n.isComment = false ∧ n.span = t.span := by
  cases n with
  | document | bracket => cases isTerminal
  | leaf id u =>
    rw [terminal?] at isTerminal
    split at isTerminal
    · cases isTerminal
    case isFalse significant =>
      cases isTerminal
      exact ⟨by simpa [isComment] using significant, rfl⟩

theorem nameToken?_eq_some_iff {n : Node} {t : Token} : n.nameToken? = some t ↔
    n.isBracket = true ∧ ∃ comments child rest, n.children = comments ++ child :: rest ∧
      (∀ c ∈ comments, c.isComment = true) ∧ child.terminal? = some t := by
  have first : n.significant.head? = n.children.find? (!·.isComment) := by rw [significant, List.head?_filter]
  rw [nameToken?, first]
  split
  case isFalse other => simp [other]
  case isTrue isBracket =>
    rw [and_iff_right isBracket, Option.bind_eq_some_iff]
    constructor
    · rintro ⟨child, found, isTerminal⟩
      obtain ⟨-, comments, rest, whole, areComments⟩ := List.find?_eq_some_iff_append.mp found
      exact ⟨comments, child, rest, whole, by simpa using areComments, isTerminal⟩
    · rintro ⟨comments, child, rest, whole, areComments, isTerminal⟩
      have significant := (terminal?_eq_some isTerminal).1
      refine ⟨child, List.find?_eq_some_iff_append.mpr ⟨by simp [significant], comments, rest, whole, ?_⟩, isTerminal⟩
      simpa using areComments

theorem isNamedAt_iff {n : Node} {offset : Nat} :
    n.IsNamedAt offset ↔ n.isBracket = true ∧ ∃ t, n.nameToken? = some t ∧ t.start = offset := by
  refine and_congr_right fun isBracket => ?_
  simp only [nameToken?_eq_some_iff, isBracket, true_and]
  constructor
  · rintro ⟨comments, child, rest, whole, areComments, isTerminal, here⟩
    obtain ⟨t, isName⟩ := Option.isSome_iff_exists.mp isTerminal
    have sameSpan := (terminal?_eq_some isName).2
    exact ⟨t, ⟨comments, child, rest, whole, areComments, isName⟩, by rw [← here, sameSpan]; rfl⟩
  · rintro ⟨t, ⟨comments, child, rest, whole, areComments, isName⟩, here⟩
    have sameSpan := (terminal?_eq_some isName).2
    refine ⟨comments, child, rest, whole, areComments, ?_, by rw [sameSpan]; exact here⟩
    rw [Node.isTerminal, isName]
    rfl

theorem Placed.getLast?_pathOf {low high : Nat} {nodes : List Node} (placed : Placed low high nodes)
    {parent q : Option Nat} {id : Nat} {t : Token} (listed : (.leaf id t, q) ∈ listingOf parent nodes) {offset : Nat}
    (after : t.start < offset) (within : offset ≤ t.stop) : (pathOf offset nodes).getLast? = some (.leaf id t) := by
  induction placed generalizing parent with
  | nil => cases listed
  | @leaf low high number u rest _ later ih =>
    rw [listingOf, listing] at listed
    rcases List.mem_append.mp listed with here | further
    · cases List.mem_singleton.mp here
      have held : (Node.leaf id t).holds offset = true := by simp [holds, within, Nat.le_of_lt after]
      rw [pathOf, if_pos held]
      rfl
    · have bounds : u.stop ≤ t.start ∧ _ := later.bounds_of_mem_listingOf further
      have passed : ¬ (Node.leaf number u).holds offset = true := by
        simp only [holds, Bool.and_eq_true, decide_eq_true_eq]
        omega
      rw [pathOf, if_neg passed]
      exact ih further
  | @closed low high number last span children rest _ inside ends later ihInside ihLater =>
    have whole : (Node.bracket number span true children).holds offset = true ↔
        span.start < offset ∧ offset < span.stop := by simp [holds]
    rw [listingOf, listing, List.cons_append, List.mem_cons, List.mem_append] at listed
    rcases listed with same | deeper | further
    · cases same
    · have bounds : span.start + 1 ≤ t.start ∧ t.stop ≤ last := inside.bounds_of_mem_listingOf deeper
      rw [pathOf, if_pos (whole.mpr (by omega)), path, List.getLast?_cons, ihInside deeper]
      rfl
    · have bounds : span.stop ≤ t.start ∧ _ := later.bounds_of_mem_listingOf further
      rw [pathOf, if_neg (by rw [whole]; omega)]
      exact ihLater further
  | @unclosed low high number span children _ inside ends ih =>
    have whole : (Node.bracket number span false children).holds offset = true ↔
        span.start < offset ∧ (offset < span.stop ∨ offset ≤ span.stop) := by simp [holds]
    rw [listingOf, listing, listingOf, List.append_nil, List.mem_cons] at listed
    rcases listed with same | deeper
    · cases same
    · have bounds : span.start + 1 ≤ t.start ∧ t.stop ≤ span.stop := inside.bounds_of_mem_listingOf deeper
      rw [pathOf, if_pos (whole.mpr (by omega)), path, List.getLast?_cons, ih deeper]
      rfl

end Node

namespace Tree

section

variable {cs : List Char}

theorem mem_brackets_iff_node? {b : Node} :
    b ∈ (build cs).brackets ↔ b.isBracket = true ∧ (build cs).node? b.id = some b := by
  rw [brackets, List.mem_filter, and_comm, node?_build_iff]
  simp

theorem mem_brackets_of_node? {b : Node} {id : Nat} (isNode : (build cs).node? id = some b)
    (isBracket : b.isBracket = true) : b ∈ (build cs).brackets ∧ b.id = id := by
  have number := (node?_build_iff.mp isNode).2
  exact ⟨mem_brackets_iff_node?.mpr ⟨isBracket, number ▸ isNode⟩, number⟩

theorem bracketNamedAt?_eq_some_iff_isNamedAt {offset : Nat} {b : Node} :
    (build cs).bracketNamedAt? offset = some b ↔ b ∈ (build cs).brackets ∧ b.IsNamedAt offset := by
  rw [bracketNamedAt?_eq_some, Node.isNamedAt_iff]
  exact and_congr_right fun member => (and_iff_right (mem_brackets_iff_node?.mp member).1).symm

end

/-- A bracket is found at an offset exactly if the name of one begins there. It is then that bracket, and no other node
has its name there. -/
theorem bracket_is_found_by_its_name (cs : List Char) (offset : Nat) :
    ((∃ b, (build cs).bracketNamedAt? offset = some b) ↔
        ∃ id b, (build cs).node? id = some b ∧ b.IsNamedAt offset) ∧
      (∀ b, (build cs).bracketNamedAt? offset = some b → (build cs).node? b.id = some b ∧ b.IsNamedAt offset) ∧
      ∀ id b, (build cs).node? id = some b → b.IsNamedAt offset → (build cs).bracketNamedAt? offset = some b ∧
        ∀ id' b', (build cs).node? id' = some b' → b'.IsNamedAt offset → id' = id ∧ b' = b := by
  have isNode {b : Node} (found : (build cs).bracketNamedAt? offset = some b) :
      (build cs).node? b.id = some b ∧ b.IsNamedAt offset := by
    obtain ⟨member, named⟩ := bracketNamedAt?_eq_some_iff_isNamedAt.mp found
    exact ⟨(mem_brackets_iff_node?.mp member).2, named⟩
  have found {id : Nat} {b : Node} (isNode : (build cs).node? id = some b) (named : b.IsNamedAt offset) :
      (build cs).bracketNamedAt? offset = some b ∧ b.id = id := by
    obtain ⟨member, number⟩ := mem_brackets_of_node? isNode named.1
    exact ⟨bracketNamedAt?_eq_some_iff_isNamedAt.mpr ⟨member, named⟩, number⟩
  refine ⟨⟨?_, ?_⟩, fun b => isNode, fun id b here named => ⟨(found here named).1, fun id' b' here' named' => ?_⟩⟩
  · rintro ⟨b, isFound⟩
    exact ⟨b.id, b, isNode isFound⟩
  · rintro ⟨id, b, here, named⟩
    exact ⟨b, (found here named).1⟩
  · obtain ⟨first, number⟩ := found here named
    obtain ⟨second, number'⟩ := found here' named'
    rw [first] at second
    cases second
    exact ⟨number'.symm.trans number, rfl⟩

section

variable {cs : List Char} {offset : Nat}

theorem isInComment_iff : (build cs).isInComment offset = true ↔
    ∃ t ∈ Token.scan cs, t.kind = .comment ∧ t.start < offset ∧ offset ≤ t.stop := by
  have way : (build cs).breadcrumbs offset =
      (build cs).root :: Node.pathOf offset (build cs).root.children := rfl
  constructor
  · intro inComment
    obtain ⟨n, isLast, isComment⟩ := (Option.any_eq_true _ _).mp inComment
    rw [Bool.and_eq_true, decide_eq_true_eq] at isComment
    rw [way] at isLast
    rcases List.mem_cons.mp (List.mem_of_getLast? isLast) with rfl | onWay
    · cases isComment.1
    · cases n with
      | document | bracket => cases isComment.1
      | leaf id t =>
        obtain ⟨⟨_, q⟩, listed, rfl⟩ := List.mem_map.mp (Node.mem_listingOf_of_mem_pathOf (some 0) _ onWay)
        have held := Node.holds_of_mem_pathOf _ onWay
        simp only [Node.holds, Bool.and_eq_true, decide_eq_true_eq] at held
        exact ⟨t, mem_scan_of_leaf listed, by simpa [Node.isComment] using isComment.1, isComment.2, held.2⟩
  · rintro ⟨t, member, isComment, after, within⟩
    have other {kind : TokenKind} (differs : kind ≠ .comment) : t.kind ≠ kind := fun same => differs (same ▸ isComment)
    obtain ⟨id, q, listed⟩ := leaf_of_plain member (other (by simp)) (other (by simp)) (other (by simp))
    rw [isInComment, way, List.getLast?_cons, (build_placed cs).getLast?_pathOf listed after within]
    simp [Node.isComment, isComment, Node.span, Token.span, after]

theorem comment_of_semicolon {earlier later after : List Char} (whole : cs = earlier ++ ';' :: (later ++ after))
    (inLine : '\n' ∉ later) : ∃ t ∈ Token.scan cs, t.kind = .comment ∧ t.start ≤ width earlier ∧
      (width (earlier ++ ';' :: later) ≤ t.stop ∨
        ∃ before, earlier ++ ';' :: later = before ++ ['\r'] ∧ width before = t.stop) := by
  have spelled := (Token.scan_eq_iff.mp (rfl : Token.scan cs = _)).2
  rw [whole] at spelled
  obtain ⟨tokens, t, rest, front, back, isScan, rfl, text, isRest⟩ := Token.token_of_char spelled
  rw [← whole] at isScan
  obtain ⟨-, start, leads, -⟩ := Token.scan_split isScan
  have stop : t.stop = width (Token.texts tokens) + width (front ++ ';' :: back) := by rw [Token.stop, start, text]
  have before : t.start ≤ width (Token.texts tokens ++ front) := by
    rw [start, width_append]
    exact Nat.le_add_right _ _
  rcases leads.comment_or_bracket text (by decide) (by decide) with isComment | ⟨-, -, none⟩
  case inr => cases none
  obtain ⟨line, isText, ends⟩ := leads.text_of_comment isComment
  refine ⟨t, by simp [isScan], isComment, before, ?_⟩
  rcases List.append_eq_append_iff.mp isRest with ⟨more, isBack, -⟩ | ⟨more, isLater, isFollowing⟩
  · left
    rw [stop, isBack]
    simp only [width_append, width_cons]
    omega
  · cases more with
    | nil =>
      left
      rw [stop, isLater]
      simp only [width_append, width_cons, width_nil]
      omega
    | cons c more =>
      -- what follows the comment on its line is a carriage return alone
      have rest := (Token.comment_ends ends).2
      have kept : ∀ d ∈ c :: more, (d != '\n') = true := by
        intro d member
        refine bne_iff_ne.mpr fun isBreak => inLine ?_
        rw [isLater, ← isBreak]
        exact List.mem_append_right _ member
      rw [isFollowing, List.takeWhile_append_of_pos kept] at rest
      obtain ⟨rfl, nothing⟩ : c = '\r' ∧ more ++ after.takeWhile (· != '\n') = [] := by simpa using rest
      rw [List.append_eq_nil_iff] at nothing
      right
      refine ⟨Token.texts tokens ++ (front ++ ';' :: back), ?_, by rw [stop, width_append]⟩
      rw [isLater, nothing.1]
      simp

theorem commented_of_comment {before after : List Char} {t : Token} (member : t ∈ Token.scan (before ++ after))
    (isComment : t.kind = .comment) (started : t.start < width before) (within : width before ≤ t.stop) :
    before.foldl commentedAfter false = true := by
  obtain ⟨earlier, later, whole, start, leads, -⟩ := Token.mem_scan member
  have stop : t.stop = width (Token.texts earlier) + width t.text.toList := by rw [Token.stop, start]
  obtain ⟨part, rfl, isRest⟩ := Document.append_of_width_le whole.symm (by omega)
  obtain ⟨missing, text, -⟩ := Document.append_of_width_le isRest.symm (by rw [width_append] at within; omega)
  obtain ⟨line, isText, ends⟩ := leads.text_of_comment isComment
  rw [isText] at text
  cases part with
  | nil =>
    rw [List.append_nil, start] at started
    exact absurd started (Nat.lt_irrefl _)
  | cons c part =>
    obtain ⟨rfl, rfl⟩ := List.cons.inj text
    refine (commented_iff _).mpr ⟨_, part, rfl, fun isBreak => ?_⟩
    exact absurd ((Token.comment_ends ends).1 '\n' (List.mem_append_left _ isBreak)) (by decide)

/-- A semicolon stands before a place on its line exactly if the place is in a comment of the tree, or right behind the
carriage return that comes after one. -/
theorem comments_begin_with_semicolons (boundary : IsBoundary cs offset) : isCommented cs offset = true ↔
    (build cs).isInComment offset = true ∨ ∃ t ∈ Token.scan cs, t.kind = .comment ∧ t.stop + 1 = offset ∧
      (encode cs)[t.stop]? = some '\r'.toUInt8 := by
  obtain ⟨before, after, rfl, rfl⟩ := boundary
  have narrow : '\r'.utf8Size = 1 := rfl
  rw [isCommented, takeBytes_width, isInComment_iff]
  constructor
  · intro commented
    obtain ⟨earlier, later, rfl, inLine⟩ := (commented_iff before).mp commented
    obtain ⟨t, member, isComment, start, within | ⟨upTo, isBefore, stop⟩⟩ :=
      comment_of_semicolon (List.append_assoc earlier (';' :: later) after) inLine
    · refine .inl ⟨t, member, isComment, ?_, within⟩
      have := ';'.utf8Size_pos
      simp only [width_append, width_cons]
      omega
    · rw [isBefore] at member ⊢
      refine .inr ⟨t, member, isComment, by simp [stop, narrow], ?_⟩
      exact (getElem?_encode_iff (c := '\r') (by decide)).mpr ⟨upTo, after, by simp, stop⟩
  · rintro (⟨t, member, isComment, started, within⟩ | ⟨t, member, isComment, next, isReturn⟩)
    · exact commented_of_comment member isComment started within
    · obtain ⟨upTo, rest, whole, stop⟩ := (getElem?_encode_iff (c := '\r') (by decide)).mp isReturn
      obtain rfl : before = upTo ++ ['\r'] := by
        have split : before ++ after = upTo ++ ['\r'] ++ rest := by simpa using whole
        exact Document.prefix_of_width split (by simp [← next, stop, narrow])
      have nonempty := (Token.bounds_of_mem_scan member).1
      rw [whole] at member
      rw [List.foldl_append, commented_of_comment member isComment (stop ▸ nonempty) (Nat.le_of_eq stop)]
      rfl

theorem comments_begin_with_semicolons_carriage_return :
    let cs := "a ; é\r\n)".toList
    IsBoundary cs 7 ∧ isCommented cs 7 = true ∧ (build cs).isInComment 7 = false ∧
      ∃ t ∈ Token.scan cs, t.kind = .comment ∧ t.stop + 1 = 7 ∧ (encode cs)[t.stop]? = some '\r'.toUInt8 := by
  intro cs
  have boundary : IsBoundary cs 7 := by decide
  have commented : isCommented cs 7 = true := by decide
  have outside : (build cs).isInComment 7 = false := by decide +kernel
  have told := (comments_begin_with_semicolons boundary).mp commented
  rw [outside] at told
  exact ⟨boundary, commented, outside, told.resolve_left Bool.false_ne_true⟩

end

end Tree
end PddlAssist
