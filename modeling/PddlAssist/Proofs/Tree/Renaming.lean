import PddlAssist.Proofs.Reading.Similarity
import PddlAssist.Proofs.Token.Names

namespace PddlAssist

open Text

namespace Node

/-- Children of two brackets, one by one; the first that is no comment stands where a name may stand if
one is awaited. -/
inductive Paired (R : Bool → Node → Node → Prop) : Bool → List Node → List Node → Prop where
  | nil (awaited : Bool) : Paired R awaited [] []
  | comment {awaited : Bool} {n n' : Node} {rest rest' : List Node} (isComment : n.isComment = true)
      (isComment' : n'.isComment = true) (later : Paired R awaited rest rest') :
      Paired R awaited (n :: rest) (n' :: rest')
  | cons {awaited : Bool} {n n' : Node} {rest rest' : List Node} (significant : n.isComment = false)
      (significant' : n'.isComment = false) (first : R awaited n n') (later : Paired R false rest rest') :
      Paired R awaited (n :: rest) (n' :: rest')

/-- Nodes that differ in the names of brackets, which are changed by `rename`. A node that stands where a
name may stand is a name if it is a word. `places` relates the places where brackets begin. -/
inductive Renamed (rename : String → String) (names : String → Prop) (places : Nat → Nat → Prop) :
    Bool → Node → Node → Prop where
  | leaf {awaited : Bool} {id : Nat} {t t' : Token} (kind : t'.kind = t.kind)
      (text : t'.text = if awaited then rename t.text else t.text) (named : awaited = true → names t.text) :
      Renamed rename names places awaited (.leaf id t) (.leaf id t')
  | bracket {awaited : Bool} {id : Nat} {span span' : Span} {closed : Bool} {children children' : List Node}
      (place : places span.start span'.start)
      (inside : Paired (Renamed rename names places) true children children') :
      Renamed rename names places awaited (.bracket id span closed children) (.bracket id span' closed children')
  | document {awaited : Bool} {stop stop' : Nat} {children children' : List Node}
      (inside : Paired (Renamed rename names places) false children children') :
      Renamed rename names places awaited (.document stop children) (.document stop' children')

end Node

namespace Node.Paired

variable {R : Bool → Node → Node → Prop}

theorem append {awaited : Bool} {nodes nodes' more more' : List Node} (paired : Paired R awaited nodes nodes')
    (later : Paired R (awaited && nodes.all Node.isComment) more more') :
    Paired R awaited (nodes ++ more) (nodes' ++ more') := by
  induction paired with
  | nil => simpa using later
  | comment isComment isComment' _ ih =>
    refine .comment isComment isComment' (ih ?_)
    simpa [isComment] using later
  | cons significant significant' first _ ih =>
    refine .cons significant significant' first (ih ?_)
    simpa [significant] using later

theorem significant {awaited : Bool} {nodes nodes' : List Node} (paired : Paired R awaited nodes nodes') :
    (nodes.filter (!·.isComment) = [] ∧ nodes'.filter (!·.isComment) = []) ∨
      ∃ n n' rest rest', nodes.filter (!·.isComment) = n :: rest ∧ nodes'.filter (!·.isComment) = n' :: rest' ∧
        R awaited n n' ∧ List.Forall₂ (R false) rest rest' := by
  induction paired with
  | nil => exact .inl ⟨rfl, rfl⟩
  | comment isComment isComment' _ ih => simpa [isComment, isComment'] using ih
  | cons significant significant' first _ ih =>
    refine .inr ⟨_, _, _, _, List.filter_cons_of_pos (by simp [significant]),
      List.filter_cons_of_pos (by simp [significant']), first, ?_⟩
    rcases ih with ⟨nothing, nothing'⟩ | ⟨n, n', rest, rest', isRest, isRest', next, later⟩
    · rw [nothing, nothing']
      exact .nil
    · rw [isRest, isRest']
      exact .cons next later

end Node.Paired

namespace Node.Renamed

variable {rename : String → String} {names : String → Prop} {places : Nat → Nat → Prop} {awaited : Bool}
  {n n' : Node}

theorem isBracket (renamed : Renamed rename names places awaited n n') : n'.isBracket = n.isBracket := by
  cases renamed <;> rfl

theorem isComment (renamed : Renamed rename names places awaited n n') : n'.isComment = n.isComment := by
  cases renamed with
  | leaf kind => simp [Node.isComment, kind]
  | bracket | document => rfl

theorem terminal? (renamed : Renamed rename names places awaited n n') :
    n'.terminal?.map Token.bare =
      n.terminal?.map fun t => ⟨t.kind, if awaited then rename t.text else t.text, 0⟩ := by
  cases renamed with
  | leaf kind text =>
    simp only [Node.terminal?, kind]
    split
    · rfl
    · simp [Token.bare, kind, text]
  | bracket | document => rfl

theorem significant (renamed : Renamed rename names places awaited n n') :
    (n.significant = [] ∧ n'.significant = []) ∨
      ∃ m m' rest rest', n.significant = m :: rest ∧ n'.significant = m' :: rest' ∧
        Renamed rename names places n.isBracket m m' ∧
        List.Forall₂ (Renamed rename names places false) rest rest' := by
  cases renamed with
  | leaf => exact .inl ⟨rfl, rfl⟩
  | bracket _ inside => exact inside.significant
  | document inside => exact inside.significant

theorem nameToken? (renamed : Renamed rename names places awaited n n') :
    n'.nameToken?.map Token.bare = n.nameToken?.map fun t => ⟨t.kind, rename t.text, 0⟩ := by
  simp only [Node.nameToken?, renamed.isBracket]
  cases isBracket : n.isBracket with
  | false => rfl
  | true =>
    rcases renamed.significant with ⟨nothing, nothing'⟩ | ⟨m, m', rest, rest', isRest, isRest', first, _⟩
    · rw [nothing, nothing']
      rfl
    · rw [isBracket] at first
      simpa [isRest, isRest'] using first.terminal?

theorem name_names (renamed : Renamed rename names places awaited n n') {name : String}
    (isName : n.name? = some name) : names name := by
  rcases renamed.significant with ⟨nothing, _⟩ | ⟨m, m', rest, rest', isRest, _, first, _⟩
  · simp [Node.name?, Node.nameToken?, nothing] at isName
  · simp only [Node.name?, Node.nameToken?, isRest] at isName
    cases isBracket : n.isBracket with
    | false => simp [isBracket] at isName
    | true =>
      rw [isBracket] at first
      cases first with
      | leaf _ _ named =>
        simp only [isBracket, if_true, List.head?_cons, Option.bind_some, Node.terminal?] at isName
        split at isName
        · cases isName
        · cases isName
          exact named rfl
      | bracket | document => simp [isBracket, Node.terminal?] at isName

theorem isNamed (renamed : Renamed rename names places awaited n n') :
    n'.nameToken?.isSome = n.nameToken?.isSome := by
  have same := congrArg Option.isSome renamed.nameToken?
  simpa using same

theorem arguments (renamed : Renamed rename names places awaited n n') :
    List.Forall₂ (Renamed rename names places false) n.arguments n'.arguments := by
  simp only [Node.arguments, renamed.isNamed]
  rcases renamed.significant with ⟨nothing, nothing'⟩ | ⟨m, m', rest, rest', isRest, isRest', first, later⟩
  · rw [nothing, nothing', List.tail_nil, ite_self]
    exact .nil
  · rw [isRest, isRest', List.tail_cons, List.tail_cons]
    split
    · exact later
    · rename_i unnamed
      refine .cons ?_ later
      cases isBracket : n.isBracket with
      | false => rwa [isBracket] at first
      | true =>
        have significant : m.isComment = false := by
          have member : m ∈ n.significant := by simp [isRest]
          simpa using (List.mem_filter.mp member).2
        cases first with
        | @leaf _ id t t' =>
          have isComment : t.kind = .comment := by
            simpa [Node.nameToken?, isBracket, isRest, Node.terminal?] using unnamed
          simp [Node.isComment, isComment] at significant
        | bracket place inside => exact .bracket place inside
        | document inside => exact .document inside

theorem place (renamed : Renamed rename names places awaited n n') (isBracket : n.isBracket = true) :
    places n.span.start n'.span.start := by
  cases renamed with
  | leaf | document => cases isBracket
  | bracket place => exact place

theorem similarity {tree tree' : Tree}
    (documentation : ∀ {place place'}, places place place' →
      tree.documentation? place = tree'.documentation? place')
    (plain : ∀ name, names name → rename name = name ∨ IsPlainName name ∧ IsPlainName (rename name))
    (distinct : ∀ left right, names left → names right →
      sameName (rename left) (rename right) = sameName left right) :
    Similarity rename (· = ·) tree tree' (Renamed rename names places false) where
  isBracket := isBracket
  word renamed := renamed.terminal?
  name := nameToken?
  arguments := arguments
  documentation renamed isBracket := documentation (renamed.place isBracket)
  plain renamed isName := plain _ (renamed.name_names isName)
  distinct first second isLeft isRight := distinct _ _ (first.name_names isLeft) (second.name_names isRight)

end Node.Renamed

namespace Tree

variable {rename : String → String} {names : String → Prop} {places : Nat → Nat → Prop}

structure Frame.Renamed (rename : String → String) (names : String → Prop) (places : Nat → Nat → Prop)
    (f f' : Frame) : Prop where
  id : f'.id = f.id
  place : places f.start f'.start
  inside : Node.Paired (Node.Renamed rename names places) true f.children.reverse f'.children.reverse

/-- Growth of two trees whose brackets have other names, when a name is awaited or not. -/
structure Growth.Renamed (rename : String → String) (names : String → Prop) (places : Nat → Nat → Prop)
    (awaited : Bool) (g g' : Growth) : Prop where
  next : g'.next = g.next
  frames : List.Forall₂ (Frame.Renamed rename names places) g.frames g'.frames
  top : Node.Paired (Node.Renamed rename names places) false g.top.reverse g'.top.reverse
  awaited : awaited = g.frames.head?.any (·.children.all Node.isComment)

namespace Growth.Renamed

variable {awaited : Bool} {g g' : Growth}

theorem attach_comment (renamed : Growth.Renamed rename names places awaited g g') {n n' : Node}
    (isComment : n.isComment = true) (isComment' : n'.isComment = true) :
    Growth.Renamed rename names places awaited (g.attach n) (g'.attach n') := by
  obtain ⟨next, frames, top⟩ := g
  obtain ⟨next', frames', top'⟩ := g'
  obtain ⟨sameNext, sameFrames, sameTop, isAwaited⟩ := renamed
  simp only at sameNext sameFrames sameTop isAwaited
  have last (b : Bool) : Node.Paired (Node.Renamed rename names places) b [n] [n'] :=
    .comment isComment isComment' (.nil b)
  cases sameFrames with
  | nil => exact ⟨sameNext, .nil, by simpa [Growth.attach] using sameTop.append (last _), isAwaited⟩
  | cons first others =>
    refine ⟨sameNext, .cons ⟨first.id, first.place, ?_⟩ others, sameTop, ?_⟩
    · simpa using first.inside.append (last _)
    · simpa [Growth.attach, isComment] using isAwaited

theorem attach (renamed : Growth.Renamed rename names places awaited g g') {n n' : Node}
    (significant : n.isComment = false) (child : Node.Renamed rename names places awaited n n') :
    Growth.Renamed rename names places false (g.attach n) (g'.attach n') := by
  have significant' : n'.isComment = false := child.isComment.trans significant
  obtain ⟨next, frames, top⟩ := g
  obtain ⟨next', frames', top'⟩ := g'
  obtain ⟨sameNext, sameFrames, sameTop, isAwaited⟩ := renamed
  simp only at sameNext sameFrames sameTop isAwaited
  have last : Node.Paired (Node.Renamed rename names places) awaited [n] [n'] :=
    .cons significant significant' child (.nil false)
  cases sameFrames with
  | nil =>
    simp only [List.head?_nil, Option.any_none] at isAwaited
    rw [isAwaited] at last
    exact ⟨sameNext, .nil, by simpa [Growth.attach] using sameTop.append last, rfl⟩
  | cons first others =>
    simp only [List.head?_cons, Option.any_some] at isAwaited
    refine ⟨sameNext, .cons ⟨first.id, first.place, ?_⟩ others, sameTop, ?_⟩
    · rw [List.reverse_cons, List.reverse_cons]
      exact first.inside.append (by simpa [← isAwaited] using last)
    · simp [Growth.attach, significant]

theorem addLeaf_comment (renamed : Growth.Renamed rename names places awaited g g') {t t' : Token}
    (isComment : t.kind = .comment) (kind : t'.kind = t.kind) :
    Growth.Renamed rename names places awaited (g.addLeaf t) (g'.addLeaf t') := by
  have attached := renamed.attach_comment (n := .leaf g.next t) (by simp [Node.isComment, isComment])
    (by simp [Node.isComment, kind, isComment] : (Node.leaf g'.next t').isComment = true)
  exact ⟨by simp [Growth.addLeaf, renamed.next], attached.frames, attached.top, attached.awaited⟩

theorem addLeaf (renamed : Growth.Renamed rename names places awaited g g') {t t' : Token}
    (significant : t.kind ≠ .comment) (kind : t'.kind = t.kind)
    (text : t'.text = if awaited then rename t.text else t.text) (named : awaited = true → names t.text) :
    Growth.Renamed rename names places false (g.addLeaf t) (g'.addLeaf t') := by
  have child : Node.Renamed rename names places awaited (.leaf g.next t) (.leaf g'.next t') := by
    rw [renamed.next]
    exact .leaf kind text named
  have attached := renamed.attach (by simp [Node.isComment, significant]) child
  exact ⟨by simp [Growth.addLeaf, renamed.next], attached.frames, attached.top, attached.awaited⟩

theorem step (renamed : Growth.Renamed rename names places awaited g g') {t t' : Token} (kind : t'.kind = t.kind)
    (text : t'.text = if awaited && t.kind.isWord then rename t.text else t.text)
    (named : (awaited && t.kind.isWord) = true → names t.text) (place : places t.start t'.start) :
    Growth.Renamed rename names places (t.awaits awaited) (g.step t) (g'.step t') := by
  cases isKind : t.kind with
  | blank => simpa [Growth.step, kind, isKind, Token.awaits] using renamed
  | comment => simpa [Growth.step, kind, isKind, Token.awaits] using renamed.addLeaf_comment isKind kind
  | openBracket =>
    simp only [Growth.step, kind, isKind, Token.awaits, renamed.next]
    exact ⟨rfl, .cons ⟨rfl, place, .nil true⟩ renamed.frames, renamed.top, rfl⟩
  | closeBracket =>
    have frames := renamed.frames
    have isAwaited := renamed.awaited
    simp only [Growth.step, kind, isKind, Token.awaits]
    generalize isFrames : g.frames = outer, isFrames' : g'.frames = outer' at frames isAwaited
    cases frames with
    | nil =>
      simp only [isAwaited, List.head?_nil, Option.any_none, Bool.false_and, Bool.false_eq_true, if_false] at text
      refine renamed.addLeaf (by simp [isKind]) kind ?_ ?_ <;> simp [isAwaited, text]
    | @cons f f' outer outer' first others =>
      have popped : Growth.Renamed rename names places (outer.head?.any (·.children.all Node.isComment))
          { g with frames := outer } { g' with frames := outer' } :=
        ⟨renamed.next, others, renamed.top, rfl⟩
      refine popped.attach rfl ?_
      rw [first.id]
      exact .bracket first.place first.inside
  | keyword | parameter | dash | word =>
    simp only [isKind, TokenKind.isWord, Bool.and_true] at text named
    simpa [Growth.step, kind, isKind, Token.awaits] using renamed.addLeaf (by simp [isKind]) kind text named

theorem finish (stop stop' : Nat) {top top' : List Node} {frames frames' : List Frame} {inner inner' : List Node}
    (sameTop : Node.Paired (Node.Renamed rename names places) false top.reverse top'.reverse)
    (sameFrames : List.Forall₂ (Frame.Renamed rename names places) frames frames')
    (sameInner : ∀ b, Node.Paired (Node.Renamed rename names places) b inner.reverse inner'.reverse) :
    Node.Paired (Node.Renamed rename names places) false (Growth.finish stop top frames inner)
      (Growth.finish stop' top' frames' inner') := by
  induction sameFrames generalizing inner inner' with
  | nil =>
    simp only [Growth.finish, List.reverse_append]
    exact sameTop.append (sameInner _)
  | cons first _ ih =>
    refine ih fun b => ?_
    rw [first.id]
    refine .cons rfl rfl (.bracket first.place ?_) (.nil false)
    simp only [List.reverse_append]
    exact first.inside.append (sameInner _)

end Growth.Renamed
end Tree

namespace Token

def Aligned (rename : String → String) (tokens : List Token) (place place' : Nat) : Prop :=
  ∃ earlier later, tokens = earlier ++ later ∧ place = width (texts earlier) ∧
    place' = width (texts (renameFrom rename 0 false earlier))

def IsName (tokens : List Token) (text : String) : Prop := ∃ t ∈ namesFrom false tokens, t.text = text

end Token

def renamedText (rename : String → String) (cs : List Char) : List Char :=
  Token.texts (Token.renameFrom rename 0 false (Token.scan cs))

namespace Tree

open Token

variable {rename : String → String}

theorem Growth.renamed_foldl {tokens done rest : List Token} (scanned : Scanned 0 tokens)
    (whole : tokens = done ++ rest) {g g' : Growth}
    (renamed : Growth.Renamed rename (IsName tokens) (Aligned rename tokens) (awaitedAfter false done) g g') :
    Growth.Renamed rename (IsName tokens) (Aligned rename tokens) (awaitedAfter false tokens)
      (rest.foldl step g)
      ((renameFrom rename (width (texts (renameFrom rename 0 false done))) (awaitedAfter false done) rest).foldl
        step g') := by
  induction rest generalizing done g g' with
  | nil =>
    have all : done = tokens := by rw [whole, List.append_nil]
    subst all
    exact renamed
  | cons t rest ih =>
    have start : t.start = width (texts done) := by
      have here : Scanned (0 + width (texts done)) (t :: rest) := (whole ▸ scanned).append_right
      simpa using (scanned_cons_iff.mp here).1
    have named : (awaitedAfter false done && t.kind.isWord) = true → IsName tokens t.text := by
      intro isName
      refine ⟨t, ?_, rfl⟩
      rw [whole, namesFrom_append, namesFrom, if_pos isName]
      simp
    have place : Aligned rename tokens t.start (width (texts (renameFrom rename 0 false done))) :=
      ⟨done, t :: rest, whole, start, rfl⟩
    have more : tokens = (done ++ [t]) ++ rest := by simp [whole]
    have after : awaitedAfter false (done ++ [t]) = t.awaits (awaitedAfter false done) := by
      simp [awaitedAfter]
    let text := if awaitedAfter false done && t.kind.isWord then rename t.text else t.text
    have stepped : Growth.Renamed rename (IsName tokens) (Aligned rename tokens) (t.awaits (awaitedAfter false done))
        (g.step t) (g'.step ⟨t.kind, text, width (texts (renameFrom rename 0 false done))⟩) :=
      renamed.step rfl rfl named place
    rw [← after] at stepped
    have later := ih more stepped
    rw [renameFrom_append, after, Nat.zero_add] at later
    simpa [renameFrom, text] using later

theorem build_renamed {cs : List Char} (exchanges : ∀ t ∈ namesFrom false (scan cs), t.Exchanges rename) :
    scan (renamedText rename cs) = renameFrom rename 0 false (scan cs) ∧
      Node.Renamed rename (IsName (scan cs)) (Aligned rename (scan cs)) false (build cs).root
        (build (renamedText rename cs)).root := by
  have scanned := (scan_eq_iff.mp (rfl : scan cs = _)).1
  have same : scan (renamedText rename cs) = renameFrom rename 0 false (scan cs) :=
    (scanned.renameFrom 0 exchanges).scanFrom_texts
  refine ⟨same, ?_⟩
  have empty : Growth.Renamed rename (IsName (scan cs)) (Aligned rename (scan cs)) false .empty .empty :=
    ⟨rfl, .nil, .nil false, rfl⟩
  have grown := Growth.renamed_foldl scanned (List.nil_append _).symm empty
  simp only [build, same]
  exact .document (Growth.Renamed.finish _ _ grown.top grown.frames fun b => .nil b)

theorem documentation?_renamed {cs : List Char} (exchanges : ∀ t ∈ namesFrom false (scan cs), t.Exchanges rename)
    {place place' : Nat} (aligned : Aligned rename (scan cs) place place') :
    (build cs).documentation? place = (build (renamedText rename cs)).documentation? place' := by
  obtain ⟨earlier, later, whole, rfl, rfl⟩ := aligned
  obtain ⟨scanned, spelled⟩ := scan_eq_iff.mp (rfl : scan cs = _)
  rw [whole] at scanned exchanges
  rw [namesFrom_append] at exchanges
  have fresh (tokens : List Token) : EndsComment false tokens := fun isCommented => by cases isCommented
  have first := patch_renameFrom scanned (fresh _) 0
    fun t member => exchanges t (List.mem_append_left _ member)
  have tail := scanned.append_right
  rw [← List.append_nil later] at tail
  have second := patch_renameFrom tail (fresh _) (0 + width (texts (renameFrom rename 0 false earlier)))
    fun t member => exchanges t (List.mem_append_right _ member)
  have old : cs = texts earlier ++ texts later := by rw [← spelled, whole, texts_append]
  have new : renamedText rename cs = texts (renameFrom rename 0 false earlier) ++
      texts (renameFrom rename (0 + width (texts (renameFrom rename 0 false earlier)))
        (awaitedAfter false earlier) later) := by
    rw [renamedText, whole, renameFrom_append, texts_append]
  have same := first.documentation?_eq second (build cs).root (build (renamedText rename cs)).root
  rw [← old, ← new] at same
  exact same.symm

end Tree
end PddlAssist
