import PddlAssist.Proofs.Token.Names
import PddlAssist.Tree

namespace PddlAssist

open Text

namespace Node

/-- Siblings between two places. Only the last of them may be a bracket without end. -/
inductive Placed : Nat → Nat → List Node → Prop where
  | nil {low high : Nat} (ordered : low ≤ high) : Placed low high []
  | leaf {low high id : Nat} {t : Token} {rest : List Node} (after : low ≤ t.start)
      (later : Placed t.stop high rest) : Placed low high (.leaf id t :: rest)
  | closed {low high id inner : Nat} {span : Span} {children rest : List Node} (after : low ≤ span.start)
      (inside : Placed (span.start + 1) inner children) (ends : inner < span.stop)
      (later : Placed span.stop high rest) : Placed low high (.bracket id span true children :: rest)
  | unclosed {low high id : Nat} {span : Span} {children : List Node} (after : low ≤ span.start)
      (inside : Placed (span.start + 1) span.stop children) (ends : span.stop ≤ high) :
      Placed low high [.bracket id span false children]

namespace Placed

theorem le {low high : Nat} {nodes : List Node} (placed : Placed low high nodes) : low ≤ high := by
  induction placed with
  | nil ordered => exact ordered
  | leaf after _ later =>
    simp only [Token.stop] at later
    omega
  | closed after _ ends _ inside later => omega
  | unclosed after _ ends inside => omega

theorem weaken {low low' high high' : Nat} {nodes : List Node} (placed : Placed low high nodes)
    (lower : low' ≤ low) (higher : high ≤ high') : Placed low' high' nodes := by
  induction placed generalizing low' with
  | nil ordered => exact .nil (by omega)
  | leaf after _ later => exact .leaf (by omega) (later (Nat.le_refl _) higher)
  | closed after inside ends _ _ later => exact .closed (by omega) inside ends (later (Nat.le_refl _) higher)
  | unclosed after inside ends => exact .unclosed (by omega) inside (by omega)

theorem append {low middle high : Nat} {nodes more : List Node} (placed : Placed low middle nodes)
    (closed : ∀ n ∈ nodes, n.isClosed = true) (later : Placed middle high more) :
    Placed low high (nodes ++ more) := by
  induction placed with
  | nil ordered => exact later.weaken ordered (Nat.le_refl _)
  | leaf after _ ih =>
    rw [List.forall_mem_cons] at closed
    exact .leaf after (ih closed.2 later)
  | closed after inside ends _ _ ih =>
    rw [List.forall_mem_cons] at closed
    exact .closed after inside ends (ih closed.2 later)
  | unclosed => simp [isClosed] at closed

end Placed
end Node

namespace Tree

/-- The open brackets and the document, as far as they are read when the text is read up to a place. -/
inductive Growth.Placed (top : List Node) : List Frame → Nat → Prop where
  | nil {place : Nat} (inside : Node.Placed 0 place top.reverse) (closed : ∀ n ∈ top, n.isClosed = true) :
      Placed top [] place
  | cons {frame : Frame} {outer : List Frame} {place : Nat} (around : Placed top outer frame.start)
      (inside : Node.Placed (frame.start + 1) place frame.children.reverse)
      (closed : ∀ n ∈ frame.children, n.isClosed = true) : Placed top (frame :: outer) place

namespace Growth

theorem Placed.weaken {top : List Node} {frames : List Frame} {place place' : Nat}
    (placed : Placed top frames place) (later : place ≤ place') : Placed top frames place' := by
  cases placed with
  | nil inside closed => exact .nil (inside.weaken (Nat.le_refl _) later) closed
  | cons around inside closed => exact .cons around (inside.weaken (Nat.le_refl _) later) closed

theorem Placed.attach {g : Growth} {place place' : Nat} (placed : Placed g.top g.frames place) {n : Node}
    (single : Node.Placed place place' [n]) (isClosed : n.isClosed = true) :
    Placed (g.attach n).top (g.attach n).frames place' := by
  obtain ⟨next, frames, top⟩ := g
  cases placed with
  | nil inside closed =>
    have all : ∀ m ∈ top.reverse, m.isClosed = true := by simpa using closed
    exact .nil (by simpa [Growth.attach] using inside.append all single)
      (by simpa [Growth.attach, isClosed] using closed)
  | cons around inside closed =>
    rename_i frame outer
    have all : ∀ m ∈ frame.children.reverse, m.isClosed = true := by simpa using closed
    exact .cons around (by simpa using inside.append all single) (by simpa [isClosed] using closed)

theorem Placed.step {g : Growth} {t : Token} (placed : Placed g.top g.frames t.start)
    (nonempty : t.text.toList ≠ []) : Placed (g.step t).top (g.step t).frames t.stop := by
  have longer : t.start < t.stop := Nat.lt_add_of_pos_right (width_pos nonempty)
  have leaf : Placed (g.addLeaf t).top (g.addLeaf t).frames t.stop :=
    placed.attach (.leaf (Nat.le_refl _) (.nil (Nat.le_refl _))) rfl
  cases kind : t.kind with
  | blank => simpa [Growth.step, kind] using placed.weaken (Nat.le_of_lt longer)
  | openBracket =>
    simp only [Growth.step, kind]
    exact .cons placed (.nil longer) (by simp)
  | closeBracket =>
    simp only [Growth.step, kind]
    cases isFrames : g.frames with
    | nil => exact leaf
    | cons frame outer =>
      rw [isFrames] at placed
      cases placed with
      | cons around inside closed =>
        exact Placed.attach (g := { g with frames := outer }) around
          (.closed (Nat.le_refl _) inside longer (.nil (Nat.le_refl _))) rfl
  | comment | keyword | parameter | dash | word => simpa [Growth.step, kind] using leaf

theorem Placed.foldl {start : Nat} {tokens : List Token} (scanned : Token.Scanned start tokens) {g : Growth}
    (placed : Placed g.top g.frames start) :
    Placed (tokens.foldl Growth.step g).top (tokens.foldl Growth.step g).frames
      (start + width (Token.texts tokens)) := by
  induction tokens generalizing start g with
  | nil => exact placed
  | cons t rest ih =>
    obtain ⟨rfl, leads, tail⟩ := Token.scanned_cons_iff.mp scanned
    have later := ih tail (placed.step leads.text_ne_nil)
    rw [Token.stop, Nat.add_assoc] at later
    simpa using later

theorem Placed.finish {stop place : Nat} {top : List Node} {frames : List Frame} (placed : Placed top frames place)
    {inner : List Node} (last : Node.Placed place stop inner.reverse) :
    Node.Placed 0 stop (finish stop top frames inner) := by
  induction placed generalizing inner with
  | nil inside closed =>
    simp only [Growth.finish, List.reverse_append]
    exact inside.append (by simpa using closed) last
  | cons around inside closed ih =>
    apply ih
    refine .unclosed (Nat.le_refl _) ?_ (Nat.le_refl _)
    simp only [List.reverse_append]
    exact inside.append (by simpa using closed) last

end Growth

theorem build_placed (cs : List Char) : Node.Placed 0 (width cs) (build cs).root.children := by
  obtain ⟨scanned, spelled⟩ := Token.scan_eq_iff.mp (rfl : Token.scan cs = _)
  have empty : Growth.Placed Growth.empty.top Growth.empty.frames 0 := .nil (.nil (Nat.le_refl _)) (by simp [Growth.empty])
  have grown := Growth.Placed.foldl scanned empty
  rw [spelled, Nat.zero_add] at grown
  exact grown.finish (.nil (Nat.le_refl _))

end Tree

namespace Node

def headWord? (children : List Node) : Option Token := (children.filter (!·.isComment)).head?.bind terminal?

mutual

def names : Node → List Token
  | document _ children => namesAll children
  | bracket _ _ _ children => (headWord? children).toList ++ namesAll children
  | leaf .. => []

def namesAll : List Node → List Token
  | [] => []
  | node :: rest => names node ++ namesAll rest

end

@[simp] theorem namesAll_append (left right : List Node) : namesAll (left ++ right) = namesAll left ++ namesAll right := by
  induction left with
  | nil => rfl
  | cons node left ih => simp [namesAll, ih]

theorem headWord?_append {left right : List Node} (comments : left.all isComment = true) :
    headWord? (left ++ right) = headWord? right := by
  have nothing : left.filter (!·.isComment) = [] := by simpa [List.filter_eq_nil_iff] using comments
  rw [headWord?, List.filter_append, nothing, List.nil_append, headWord?]

theorem headWord?_append_of_significant {left right : List Node} (significant : left.all isComment = false) :
    headWord? (left ++ right) = headWord? left := by
  have something : left.filter (!·.isComment) ≠ [] := by
    intro nothing
    simp only [List.filter_eq_nil_iff, Bool.not_eq_true', Bool.not_eq_false] at nothing
    rw [List.all_eq_true.mpr nothing] at significant
    cases significant
  simp only [headWord?, List.filter_append, List.head?_append_of_ne_nil _ something]

theorem headWord?_single (n : Node) : headWord? [n] = n.terminal? := by
  cases n with
  | document | bracket => rfl
  | leaf id t => by_cases isComment : t.kind = .comment <;> simp [headWord?, Node.isComment, terminal?, isComment]

theorem headWord?_comments {nodes : List Node} (comments : nodes.all isComment = true) : headWord? nodes = none := by
  rw [← List.append_nil nodes, headWord?_append comments]
  rfl

theorem headWord?_append_brackets (left : List Node) {right : List Node} (brackets : ∀ n ∈ right, n.isBracket = true) :
    headWord? (left ++ right) = headWord? left := by
  by_cases comments : left.all isComment = true
  · rw [headWord?_append comments, headWord?_comments comments]
    cases right with
    | nil => rfl
    | cons n rest =>
      cases n with
      | document | leaf => simp [isBracket] at brackets
      | bracket => rfl
  · exact headWord?_append_of_significant (by simpa using comments)

theorem namesAll_comments {nodes : List Node} (comments : nodes.all isComment = true) : namesAll nodes = [] := by
  induction nodes with
  | nil => rfl
  | cons n nodes ih =>
    simp only [List.all_cons, Bool.and_eq_true] at comments
    cases n with
    | document | bracket => simp [isComment] at comments
    | leaf => simp [namesAll, names, ih comments.2]

end Node

namespace Tree.Growth

open Node

def names (top : List Node) : List Frame → List Token
  | [] => namesAll top.reverse
  | frame :: outer =>
    names top outer ++ ((headWord? frame.children.reverse).toList ++ namesAll frame.children.reverse)

def awaited (g : Growth) : Bool := g.frames.head?.any (·.children.all isComment)

theorem names_attach (g : Growth) (n : Node) :
    names (g.attach n).top (g.attach n).frames =
      names g.top g.frames ++ ((if g.awaited then n.terminal?.toList else []) ++ n.names) := by
  obtain ⟨next, frames, top⟩ := g
  cases frames with
  | nil => simp [attach, names, awaited, namesAll]
  | cons frame outer =>
    simp only [attach, names, awaited, List.head?_cons, Option.any_some, List.reverse_cons, namesAll_append]
    by_cases waits : frame.children.all isComment = true
    · have comments : frame.children.reverse.all isComment = true := by simpa using waits
      rw [headWord?_append comments, namesAll_comments comments, headWord?_comments comments, headWord?_single]
      simp [waits, namesAll]
    · have significant : frame.children.reverse.all isComment = false := by
        simpa using waits
      rw [headWord?_append_of_significant significant]
      simp [waits, namesAll]

theorem awaited_attach (g : Growth) {n : Node} (significant : n.isComment = false) :
    (g.attach n).awaited = false := by
  obtain ⟨next, frames, top⟩ := g
  cases frames <;> simp [attach, awaited, significant]

theorem awaited_attach_comment (g : Growth) {n : Node} (isComment : n.isComment = true) :
    (g.attach n).awaited = g.awaited := by
  obtain ⟨next, frames, top⟩ := g
  cases frames <;> simp [attach, awaited, isComment]

theorem awaited_addLeaf (g : Growth) (t : Token) :
    (g.addLeaf t).awaited = if t.kind = .comment then g.awaited else false := by
  split
  case isTrue isComment => exact awaited_attach_comment g (by simp [Node.isComment, isComment])
  case isFalse significant => exact awaited_attach g (by simp [Node.isComment, significant])

theorem awaited_step (g : Growth) (t : Token) : (g.step t).awaited = t.awaits g.awaited := by
  cases kind : t.kind with
  | blank => simp [step, kind, Token.awaits]
  | openBracket => simp [step, kind, Token.awaits, awaited]
  | closeBracket =>
    simp only [step, kind, Token.awaits]
    split
    · simp [awaited_addLeaf, kind]
    · exact awaited_attach _ rfl
  | comment | keyword | parameter | dash | word => simp [step, kind, Token.awaits, awaited_addLeaf]

theorem names_addLeaf (g : Growth) (t : Token) :
    names (g.addLeaf t).top (g.addLeaf t).frames =
      names g.top g.frames ++ if g.awaited = true ∧ t.kind ≠ .comment then [t] else [] := by
  have attached := names_attach g (.leaf g.next t)
  simp only [addLeaf]
  rw [attached]
  by_cases isComment : t.kind = .comment <;> by_cases waits : g.awaited = true <;>
    simp [Node.names, Node.terminal?, isComment, waits]

theorem names_step (g : Growth) (t : Token) :
    names (g.step t).top (g.step t).frames =
      names g.top g.frames ++ Token.namesFrom g.awaited [t] := by
  cases kind : t.kind with
  | blank => simp [step, kind, Token.namesFrom, TokenKind.isWord]
  | openBracket => simp [step, kind, Token.namesFrom, TokenKind.isWord, names, headWord?, namesAll]
  | closeBracket =>
    simp only [step, kind, Token.namesFrom, TokenKind.isWord, Bool.and_false, Bool.false_eq_true, if_false,
      List.append_nil]
    split
    case h_1 noFrames => simp [names_addLeaf, awaited, noFrames]
    case h_2 frame outer isFrames =>
      rw [names_attach, isFrames]
      simp [Node.names, Node.terminal?, names]
  | comment => simp [step, kind, Token.namesFrom, TokenKind.isWord, names_addLeaf]
  | keyword | parameter | dash | word => simp [step, kind, Token.namesFrom, TokenKind.isWord, names_addLeaf]

theorem names_foldl (tokens : List Token) (g : Growth) :
    names (tokens.foldl step g).top (tokens.foldl step g).frames =
      names g.top g.frames ++ Token.namesFrom g.awaited tokens := by
  induction tokens generalizing g with
  | nil => simp [Token.namesFrom]
  | cons t rest ih =>
    rw [List.foldl_cons, ih, names_step, awaited_step, List.append_assoc]
    congr 1
    exact (Token.namesFrom_append g.awaited [t] rest).symm

theorem names_finish (stop : Nat) (top : List Node) (frames : List Frame) {inner : List Node}
    (brackets : ∀ n ∈ inner, n.isBracket = true) :
    namesAll (finish stop top frames inner) = names top frames ++ namesAll inner.reverse := by
  induction frames generalizing inner with
  | nil => simp [finish, names]
  | cons frame outer ih =>
    have inside : ∀ n ∈ inner.reverse, n.isBracket = true := by simpa using brackets
    rw [finish, ih (by simp [isBracket])]
    simp [names, Node.names, namesAll, headWord?_append_brackets _ inside]

end Tree.Growth

theorem Tree.names_build (cs : List Char) : (build cs).root.names = Token.namesFrom false (Token.scan cs) := by
  have grown := Growth.names_foldl (Token.scan cs) .empty
  simp only [build, Node.names]
  rw [Growth.names_finish _ _ _ (by simp), grown]
  simp [Growth.empty, Growth.names, Growth.awaited, Node.namesAll]

namespace Node

theorem mem_of_headWord? {children : List Node} {t : Token} (word : headWord? children = some t) :
    ∃ id, leaf id t ∈ children := by
  simp only [headWord?, Option.bind_eq_some_iff] at word
  obtain ⟨n, first, isWord⟩ := word
  have member := (List.mem_filter.mp (List.mem_of_mem_head? first)).1
  cases n with
  | document | bracket => cases isWord
  | leaf id other =>
    simp only [terminal?] at isWord
    split at isWord
    · cases isWord
    · cases isWord
      exact ⟨id, member⟩

theorem Placed.leaf_bounds {low high id : Nat} {nodes : List Node} (placed : Placed low high nodes) {t : Token}
    (member : Node.leaf id t ∈ nodes) : low ≤ t.start ∧ t.stop ≤ high := by
  induction placed with
  | nil => cases member
  | @leaf low high id' u rest after later ih =>
    rcases List.mem_cons.mp member with same | member
    · cases same
      exact ⟨after, later.le⟩
    · have bounds := ih member
      simp only [Token.stop] at bounds ⊢
      omega
  | closed after inside ends later _ ih =>
    rcases List.mem_cons.mp member with same | member
    · cases same
    · have bounds := ih member
      have := inside.le
      omega
  | unclosed => simp at member

theorem pathOf_headWord? {children : List Node} {t : Token} (word : headWord? children = some t) :
    (pathOf t.start children).reverse.find? isBracket = none := by
  induction children with
  | nil => rfl
  | cons n rest ih =>
    cases n with
    | document | bracket => simp [headWord?, isComment, terminal?] at word
    | leaf id u =>
      simp only [pathOf]
      split
      · rfl
      · rename_i apart
        by_cases comment : u.kind = .comment
        · apply ih
          simpa [headWord?, isComment, comment] using word
        · have same : u = t := by simpa [headWord?, isComment, terminal?, comment] using word
          simp [holds, same, Token.stop] at apart

theorem innermost_cons {b : Node} (bracket : b.isBracket = true) (path : List Node) :
    (b :: path).reverse.find? isBracket = (path.reverse.find? isBracket).or (some b) := by
  simp [List.find?_append, bracket]

theorem innermost_held {id : Nat} {span : Span} {closed : Bool} {children rest : List Node} {t : Token}
    (held : (bracket id span closed children).holds t.start = true)
    (named : headWord? children = some t ∨
      ∃ b, (pathOf t.start children).reverse.find? isBracket = some b ∧ b.nameToken? = some t) :
    ∃ b, (pathOf t.start (bracket id span closed children :: rest)).reverse.find? isBracket = some b ∧
      b.nameToken? = some t := by
  rw [pathOf, if_pos held, innermost_cons rfl, path]
  rcases named with word | ⟨b, found, named⟩
  · rw [pathOf_headWord? word]
    exact ⟨_, rfl, word⟩
  · rw [found]
    exact ⟨b, rfl, named⟩

theorem Placed.headWord?_bounds {low high : Nat} {children : List Node} (placed : Placed low high children)
    {t : Token} (word : headWord? children = some t) : low ≤ t.start ∧ t.start ≤ high := by
  obtain ⟨_, isChild⟩ := mem_of_headWord? word
  have bounds := placed.leaf_bounds isChild
  simp only [Token.stop] at bounds
  omega

theorem Placed.innermost {low high : Nat} {nodes : List Node} (placed : Placed low high nodes) {t : Token}
    (member : t ∈ namesAll nodes) : low < t.start ∧ t.start ≤ high ∧
      ∃ b, (pathOf t.start nodes).reverse.find? isBracket = some b ∧ b.nameToken? = some t := by
  induction placed with
  | nil => cases member
  | @leaf low high id u rest after later ih =>
    obtain ⟨lower, upper, found⟩ := ih (by simpa [namesAll, names] using member)
    have apart : (Node.leaf id u).holds t.start = false := by simp [holds, lower]
    refine ⟨?_, upper, ?_⟩
    · simp only [Token.stop] at lower
      omega
    · simpa [pathOf, apart] using found
  | @closed low high id inner span children rest after inside ends later ihInside ihLater =>
    simp only [namesAll, names, List.append_assoc, List.mem_append, Option.mem_toList] at member
    have order := inside.le
    have before := later.le
    have holds : (Node.bracket id span true children).holds t.start = true ↔
        span.start < t.start ∧ t.start < span.stop := by simp [Node.holds]
    rcases member with word | member | member
    · have bounds := inside.headWord?_bounds word
      exact ⟨by omega, by omega, innermost_held (holds.mpr (by omega)) (.inl word)⟩
    · obtain ⟨lower, upper, found⟩ := ihInside member
      exact ⟨by omega, by omega, innermost_held (holds.mpr (by omega)) (.inr found)⟩
    · obtain ⟨lower, upper, found⟩ := ihLater member
      have apart : ¬(Node.bracket id span true children).holds t.start = true := by
        rw [holds]
        omega
      refine ⟨by omega, upper, ?_⟩
      rw [pathOf, if_neg apart]
      exact found
  | @unclosed low high id span children after inside ends ih =>
    simp only [namesAll, names, List.append_nil, List.mem_append, Option.mem_toList] at member
    have holds : (Node.bracket id span false children).holds t.start = true ↔
        span.start < t.start ∧ t.start ≤ span.stop := by
      simp only [Node.holds, Bool.and_eq_true, Bool.or_eq_true, decide_eq_true_eq]
      simp
      omega
    rcases member with word | member
    · have bounds := inside.headWord?_bounds word
      exact ⟨by omega, by omega, innermost_held (holds.mpr (by omega)) (.inl word)⟩
    · obtain ⟨lower, upper, found⟩ := ih member
      exact ⟨by omega, by omega, innermost_held (holds.mpr (by omega)) (.inr found)⟩

theorem Placed.mem_namesAll {low high offset : Nat} {nodes : List Node} (placed : Placed low high nodes) {b : Node}
    {t : Token} (named : b.nameToken? = some t) (member : b ∈ pathOf offset nodes) : t ∈ namesAll nodes := by
  have bracketed {id : Nat} {span : Span} {closed : Bool} {children rest : List Node}
      (onWay : b ∈ pathOf offset (bracket id span closed children :: rest))
      (inside : b ∈ pathOf offset children → t ∈ namesAll children)
      (later : b ∈ pathOf offset rest → t ∈ namesAll rest) :
      t ∈ namesAll (bracket id span closed children :: rest) := by
    simp only [namesAll, names, List.mem_append, Option.mem_toList]
    simp only [pathOf] at onWay
    split at onWay
    · rcases List.mem_cons.mp onWay with rfl | deeper
      · exact .inl (.inl named)
      · exact .inl (.inr (inside deeper))
    · exact .inr (later onWay)
  induction placed with
  | nil => cases member
  | @leaf low high id u rest _ _ ih =>
    simp only [pathOf] at member
    split at member
    · have isLeaf : b = .leaf id u := by simpa [path] using member
      rw [isLeaf] at named
      cases named
    · simpa [namesAll, names] using ih member
  | closed _ _ _ _ ihInside ihLater => exact bracketed member ihInside ihLater
  | unclosed _ _ _ ih => exact bracketed member ih fun nothing => by cases nothing

end Node

namespace Tree

theorem bracketNamedAt?_eq_some_iff {cs : List Char} {offset : Nat} {b : Node} :
    (build cs).bracketNamedAt? offset = some b ↔
      (Node.pathOf offset (build cs).root.children).reverse.find? Node.isBracket = some b ∧
        ∃ t, b.nameToken? = some t ∧ t.start = offset := by
  have path : (build cs).breadcrumbs offset =
      (build cs).root :: Node.pathOf offset (build cs).root.children := rfl
  have notRoot : (build cs).root.isBracket = false := rfl
  simp only [bracketNamedAt?, path, List.reverse_cons, List.find?_append, List.find?_singleton, notRoot,
    Bool.false_eq_true, if_false, Option.or_none, Option.bind_eq_bind, Option.bind_eq_some_iff]
  constructor
  · rintro ⟨bracket, found, t, named, here⟩
    split at here
    · cases here
      exact ⟨found, t, named, ‹_›⟩
    · cases here
  · rintro ⟨found, t, named, here⟩
    exact ⟨b, found, t, named, by rw [if_pos here]⟩

theorem bracketNamedAt?_iff (cs : List Char) (offset : Nat) (t : Token) :
    (∃ b, (build cs).bracketNamedAt? offset = some b ∧ b.nameToken? = some t) ↔
      t ∈ Token.namesFrom false (Token.scan cs) ∧ t.start = offset := by
  have placed := build_placed cs
  have names : Node.namesAll (build cs).root.children = Token.namesFrom false (Token.scan cs) := names_build cs
  rw [← names]
  constructor
  · rintro ⟨b, found, named⟩
    obtain ⟨found, other, isOther, here⟩ := bracketNamedAt?_eq_some_iff.mp found
    rw [named] at isOther
    cases isOther
    have onWay := List.mem_reverse.mp (List.mem_of_find?_eq_some found)
    exact ⟨placed.mem_namesAll named onWay, here⟩
  · rintro ⟨member, rfl⟩
    obtain ⟨_, _, b, found, named⟩ := placed.innermost member
    exact ⟨b, bracketNamedAt?_eq_some_iff.mpr ⟨found, t, named, rfl⟩, named⟩

end Tree
end PddlAssist
