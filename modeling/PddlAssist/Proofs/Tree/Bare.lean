import PddlAssist.Tree

namespace PddlAssist

open Text

namespace Token

/-- The token without its place. -/
def bare (t : Token) : Token := { t with start := 0 }

def isSignificant (t : Token) : Bool := t.kind != .blank && t.kind != .comment

@[simp] theorem bare_kind (t : Token) : t.bare.kind = t.kind := rfl

@[simp] theorem bare_text (t : Token) : t.bare.text = t.text := rfl

@[simp] theorem bare_bare (t : Token) : t.bare.bare = t.bare := rfl

theorem bare_eq_iff {s t : Token} : s.bare = t.bare ↔ s.kind = t.kind ∧ s.text = t.text := by
  cases s
  cases t
  simp [bare]

end Token

/-- The tokens of a text that are not layout, without their places. -/
def significantTokens (cs : List Char) : List Token :=
  ((Token.scan cs).filter Token.isSignificant).map Token.bare

namespace Node

mutual

/-- The node without places, numbers and comments. -/
def bare : Node → Node
  | document _ children => document 0 (bareAll children)
  | bracket _ _ closed children => bracket 0 ⟨0, 0⟩ closed (bareAll children)
  | leaf _ token => leaf 0 token.bare

def bareAll : List Node → List Node
  | [] => []
  | node :: rest => if node.isComment then bareAll rest else bare node :: bareAll rest

end

theorem bareAll_eq (nodes : List Node) : bareAll nodes = (nodes.filter (!·.isComment)).map bare := by
  induction nodes with
  | nil => rfl
  | cons node rest ih =>
    simp only [bareAll, ih]
    cases comment : node.isComment <;> simp [comment]

@[simp] theorem bareAll_append (left right : List Node) :
    bareAll (left ++ right) = bareAll left ++ bareAll right := by
  simp [bareAll_eq]

@[simp] theorem bareAll_reverse (nodes : List Node) :
    bareAll nodes.reverse = (bareAll nodes).reverse := by
  simp [bareAll_eq, List.filter_reverse]

@[simp] theorem bare_isComment (n : Node) : n.bare.isComment = n.isComment := by
  cases n <;> rfl

@[simp] theorem bare_isBracket (n : Node) : n.bare.isBracket = n.isBracket := by
  cases n <;> rfl

@[simp] theorem bare_children (n : Node) : n.bare.children = bareAll n.children := by
  cases n <;> simp [bare, children, bareAll]

mutual

@[simp] theorem bare_bare : ∀ n : Node, n.bare.bare = n.bare
  | document _ children => by simp [bare, bareAll_bareAll children]
  | bracket _ _ _ children => by simp [bare, bareAll_bareAll children]
  | leaf _ _ => by simp [bare]

@[simp] theorem bareAll_bareAll : ∀ nodes : List Node, bareAll (bareAll nodes) = bareAll nodes
  | [] => rfl
  | node :: rest => by
    cases comment : node.isComment
    · simp [bareAll, comment, bare_bare node, bareAll_bareAll rest]
    · simp [bareAll, comment, bareAll_bareAll rest]

end

theorem bare_terminal? (n : Node) : n.bare.terminal? = n.terminal?.map Token.bare := by
  cases n with
  | document | bracket => rfl
  | leaf id token =>
    by_cases comment : token.kind = .comment <;> simp [bare, terminal?, comment]

theorem bare_significant (n : Node) : n.bare.significant = n.significant.map bare := by
  simp only [significant, bare_children, bareAll_eq, List.filter_map, List.filter_filter]
  simp

theorem bare_nameToken? (n : Node) : n.bare.nameToken? = n.nameToken?.map Token.bare := by
  simp only [nameToken?, bare_isBracket, bare_significant, List.head?_map]
  split
  · cases n.significant.head? <;> simp [bare_terminal?]
  · rfl

theorem bare_arguments (n : Node) : n.bare.arguments = n.arguments.map bare := by
  simp only [arguments, bare_nameToken?, bare_significant, Option.isSome_map]
  split <;> simp

end Node

namespace Tree

namespace Frame

def bare (frame : Frame) : Frame := ⟨0, 0, Node.bareAll frame.children⟩

end Frame

namespace Growth

def bare (g : Growth) : Growth := ⟨0, g.frames.map Frame.bare, Node.bareAll g.top⟩

theorem bare_attach (g : Growth) (node : Node) : (g.attach node).bare = (g.bare.attach node.bare).bare := by
  cases frames : g.frames with
  | nil => cases comment : node.isComment <;> simp [attach, bare, frames, Node.bareAll, comment]
  | cons frame outer =>
    cases comment : node.isComment <;>
      simp [attach, bare, frames, Frame.bare, Node.bareAll, comment]

theorem bare_attach_comment (g : Growth) (node : Node) (comment : node.isComment = true) :
    (g.attach node).bare = g.bare := by
  cases frames : g.frames with
  | nil => simp [attach, bare, frames, Node.bareAll, comment]
  | cons frame outer => simp [attach, bare, frames, Frame.bare, Node.bareAll, comment]

theorem attach_bare_congr {g h : Growth} {m n : Node} (same : g.bare = h.bare)
    (sameNode : m.bare = n.bare) : (g.attach m).bare = (h.attach n).bare := by
  rw [bare_attach g, bare_attach h, same, sameNode]

theorem addLeaf_bare_congr {g h : Growth} {s t : Token} (same : g.bare = h.bare)
    (sameToken : s.bare = t.bare) : (g.addLeaf s).bare = (h.addLeaf t).bare := by
  have sameLeaf : (Node.leaf g.next s).bare = (Node.leaf h.next t).bare := by
    simp only [Node.bare, sameToken]
  exact attach_bare_congr same sameLeaf

theorem step_bare_congr {g h : Growth} {s t : Token} (same : g.bare = h.bare)
    (sameToken : s.bare = t.bare) : (g.step s).bare = (h.step t).bare := by
  have sameFrames := congrArg frames same
  have sameTop := congrArg top same
  simp only [bare] at sameFrames sameTop
  have sameKind : t.kind = s.kind := (Token.bare_eq_iff.mp sameToken).1.symm
  cases kind : s.kind with
  | blank => simpa [step, kind, sameKind] using same
  | openBracket => simp [step, kind, sameKind, bare, Frame.bare, sameFrames, sameTop]
  | closeBracket =>
    simp only [step, kind, sameKind]
    cases gFrames : g.frames with
    | nil =>
      rw [gFrames] at sameFrames
      rw [List.map_eq_nil_iff.mp sameFrames.symm]
      exact addLeaf_bare_congr same sameToken
    | cons frame outer =>
      cases hFrames : h.frames with
      | nil => simp [gFrames, hFrames] at sameFrames
      | cons frame' outer' =>
        rw [gFrames, hFrames, List.map_cons, List.map_cons] at sameFrames
        obtain ⟨sameFrame, sameOuter⟩ := List.cons.inj sameFrames
        have sameChildren := congrArg Frame.children sameFrame
        apply attach_bare_congr
        · simp [bare, sameOuter, sameTop]
        · simp only [Frame.bare] at sameChildren
          simp [Node.bare, sameChildren]
  | comment | keyword | parameter | dash | word =>
    simpa [step, kind, sameKind] using addLeaf_bare_congr same sameToken

theorem bare_step_layout (g : Growth) (token : Token) (layout : token.isSignificant = false) :
    (g.step token).bare = g.bare := by
  cases kind : token.kind with
  | blank => simp [step, kind]
  | comment =>
    have comment : (Node.leaf g.next token).isComment = true := by simp [Node.isComment, kind]
    simpa [step, kind, addLeaf, bare] using bare_attach_comment g _ comment
  | openBracket | closeBracket | keyword | parameter | dash | word =>
    simp [Token.isSignificant, kind] at layout

theorem bare_foldl_step (tokens : List Token) {g h : Growth} (same : g.bare = h.bare) :
    (tokens.foldl step g).bare =
      (((tokens.filter Token.isSignificant).map Token.bare).foldl step h).bare := by
  induction tokens generalizing g h with
  | nil => exact same
  | cons token rest ih =>
    cases significant : token.isSignificant with
    | false =>
      rw [List.filter_cons_of_neg (by simp [significant])]
      exact ih ((bare_step_layout g token significant).trans same)
    | true =>
      rw [List.filter_cons_of_pos significant]
      exact ih (step_bare_congr same (Token.bare_bare token).symm)

theorem finish_bare_congr {stop stop' : Nat} {top top' : List Node} (sameTop : Node.bareAll top = Node.bareAll top')
    (frames : List Frame) {frames' : List Frame} {inner inner' : List Node}
    (sameFrames : frames.map Frame.bare = frames'.map Frame.bare)
    (sameInner : Node.bareAll inner = Node.bareAll inner') :
    Node.bareAll (finish stop top frames inner) = Node.bareAll (finish stop' top' frames' inner') := by
  induction frames generalizing frames' inner inner' with
  | nil =>
    rw [List.map_eq_nil_iff.mp sameFrames.symm]
    simp [finish, sameTop, sameInner]
  | cons frame outer ih =>
    cases frames' with
    | nil => simp at sameFrames
    | cons frame' outer' =>
      obtain ⟨sameFrame, sameOuter⟩ := List.cons.inj sameFrames
      have sameChildren := congrArg Frame.children sameFrame
      simp only [Frame.bare] at sameChildren
      apply ih sameOuter
      simp [Node.bareAll, Node.bare, Node.isComment, sameChildren, sameInner]

end Growth

theorem build_bare_congr {left right : List Char}
    (same : significantTokens left = significantTokens right) :
    (build left).root.bare = (build right).root.bare := by
  have grown : ((Token.scan left).foldl Growth.step .empty).bare =
      ((Token.scan right).foldl Growth.step .empty).bare := by
    rw [Growth.bare_foldl_step (Token.scan left) rfl, Growth.bare_foldl_step (Token.scan right) rfl]
    exact congrArg (fun tokens => (tokens.foldl Growth.step .empty).bare) same
  have frames := congrArg Growth.frames grown
  have top := congrArg Growth.top grown
  simp only [Growth.bare] at frames top
  simp only [build, Node.bare]
  rw [Growth.finish_bare_congr top _ frames rfl]

end Tree
end PddlAssist
