import Mathlib.Data.List.Pairwise
import PddlAssist.Proofs.Document.Order
import PddlAssist.Proofs.Reading.Declarations
import PddlAssist.Proofs.Symbol.Places
import PddlAssist.Proofs.Token.Precedence

namespace PddlAssist

open Text

theorem Node.children_of_name {b : Node} {t : Token} (named : b.nameToken? = some t)
    (plain : ∀ first ∈ b.children.head?, first.isComment = false) :
    ∃ id span closed number rest, b = bracket id span closed (leaf number t :: rest) := by
  cases b with
  | document | leaf => cases named
  | bracket id span closed children =>
    cases children with
    | nil => cases named
    | cons first rest =>
      have significant : first.isComment = false := plain first rfl
      have isWord : first.terminal? = some t := by
        simpa [nameToken?, Node.significant, isBracket, Node.children, significant] using named
      cases first with
      | document | bracket => cases isWord
      | leaf number u =>
        have notComment : u.kind ≠ .comment := by simpa [isComment] using significant
        rw [terminal?, if_neg notComment, Option.some.injEq] at isWord
        exact ⟨id, span, closed, number, rest, by rw [isWord]⟩

theorem Tree.precededByBracket_of_name {cs : List Char} {b : Node} {t : Token}
    (listed : b ∈ (build cs).nodes.map Prod.fst) (named : b.nameToken? = some t)
    (plain : ∀ first ∈ b.children.head?, first.isComment = false) : precededByBracket cs t.start = true := by
  obtain ⟨parent, isEntry⟩ : ∃ parent, (b, parent) ∈ (build cs).nodes := by simpa using listed
  obtain ⟨id, span, closed, number, rest, rfl⟩ := Node.children_of_name named plain
  have inside := (mem_nodes_build.mp isEntry).resolve_left fun isRoot => by simp [build] at isRoot
  have read := Node.infix_tokensAll inside
  rw [← Node.tokens_document (width cs), ← show (build cs).root = .document (width cs) (build cs).root.children from rfl,
    tokens_build, Node.tokens_bracket, Node.tokensAll_cons, Node.tokens_leaf] at read
  have first : [(Mark.opening id span.start).token, t] <+: (Mark.opening id span.start).token ::
      ([t] ++ Node.tokensAll rest ++ if closed then [(Mark.closing span.stop).token] else []) := ⟨_, rfl⟩
  obtain ⟨earlier, blanks, later, whole, areBlank⟩ := Token.blanks_between (first.isInfix.trans read)
  obtain ⟨scanned, spelled⟩ := Token.scan_eq_iff.mp whole
  obtain ⟨isOpening, _, tail⟩ := Token.scanned_cons_iff.mp scanned.append_right
  have isPlace := (Token.scanned_cons_iff.mp tail.append_right).1
  have start : t.start = width (Token.texts earlier ++ '(' :: Token.texts blanks) := by
    rw [isPlace, Token.stop, isOpening]
    simp [Mark.token, Nat.add_assoc]
  have text : cs = (Token.texts earlier ++ '(' :: Token.texts blanks) ++ Token.texts (t :: later) := by
    rw [← spelled]
    simp [Mark.token]
  refine precededByBracket_iff.mpr ⟨Token.texts earlier, Token.texts blanks, ?_, tail.isBlank areBlank⟩
  rw [start, text, takeBytes_width]

theorem Tree.bounds_of_child {cs : List Char} {n child : Node} (listed : n ∈ (build cs).nodes.map Prod.fst)
    (isChild : child ∈ n.children) : n.span.start ≤ child.span.start ∧ child.span.stop ≤ n.span.stop := by
  obtain ⟨parent, isEntry⟩ : ∃ parent, (n, parent) ∈ (build cs).nodes := by simpa using listed
  obtain ⟨first, last, placed, lower, upper⟩ := placed_children isEntry
  have bounds := placed.bounds.1 child isChild
  omega

/-- In a list that is sorted by a number, what is found is the least that can be found. -/
theorem find?_sorted_iff {α : Type} {key : α → Nat} {l : List α} (sorted : l.Pairwise (key · < key ·)) {p : α → Bool}
    {a : α} : l.find? p = some a ↔ a ∈ l ∧ p a = true ∧ ∀ b ∈ l, p b = true → key a ≤ key b := by
  induction l with
  | nil => simp
  | cons first rest ih =>
    rw [List.pairwise_cons] at sorted
    rw [List.find?_cons, List.forall_mem_cons]
    cases holds : p first with
    | true =>
      constructor
      · intro same
        cases same
        exact ⟨.head _, holds, fun _ => Nat.le_refl _, fun b member _ => Nat.le_of_lt (sorted.1 b member)⟩
      · rintro ⟨member, _, least, _⟩
        rcases List.mem_cons.mp member with rfl | later
        · rfl
        · exact absurd (sorted.1 a later) (Nat.not_lt.mpr (least rfl))
    | false =>
      simp only [ih sorted.2, List.mem_cons, Bool.false_eq_true, false_implies, true_and]
      constructor
      · rintro ⟨member, isP, least⟩
        exact ⟨.inr member, isP, least⟩
      · rintro ⟨rfl | member, isP, least⟩
        · rw [holds] at isP
          cases isP
        · exact ⟨member, isP, least⟩

namespace Domain

/-- A name is written at a place of one of some scopes, with nothing but blanks between it and an opening bracket. -/
def IsMention (cs : List Char) (scopes : List Span) (name : String) (place : Nat) : Prop :=
  IsWritten cs name place ∧
    (∃ lead blanks, takeBytes place cs = lead ++ '(' :: blanks ∧ ∀ b ∈ blanks, isBlank b = true) ∧
    ∃ scope ∈ scopes, scope.start ≤ place ∧ place + width name.toList ≤ scope.stop

section

variable {cs : List Char} {name : String} (nonempty : name.toList ≠ [])
  (identifier : ∀ c ∈ name.toList, isIdentifierChar c = true) {scopes : List Span}
  (within : ∀ scope ∈ scopes, scope.stop ≤ width cs)
include nonempty identifier within

theorem isMention_iff {place : Nat} : IsMention cs scopes name place ↔
    ⟨place, place + width name.toList⟩ ∈ scopes.flatMap (occurrences cs · name) ∧
      precededByBracket cs place = true := by
  rw [List.mem_flatMap, precededByBracket_iff, IsMention]
  constructor
  · rintro ⟨isWritten, preceded, scope, member, inScope⟩
    exact ⟨⟨scope, member, (mem_occurrences_iff nonempty identifier (within scope member)).mpr
      ⟨isWritten, rfl, inScope⟩⟩, preceded⟩
  · rintro ⟨⟨scope, member, found⟩, preceded⟩
    obtain ⟨isWritten, _, inScope⟩ := (mem_occurrences_iff nonempty identifier (within scope member)).mp found
    exact ⟨isWritten, preceded, scope, member, inScope⟩

theorem span_of_mem_occurrences {span : Span} (found : span ∈ scopes.flatMap (occurrences cs · name)) :
    span = ⟨span.start, span.start + width name.toList⟩ := by
  obtain ⟨scope, member, found⟩ := List.mem_flatMap.mp found
  rw [← ((mem_occurrences_iff nonempty identifier (within scope member)).mp found).2.1]

theorem occurrences_scopes_sorted (sorted : scopes.Pairwise (·.stop ≤ ·.start)) :
    (scopes.flatMap (occurrences cs · name)).Pairwise fun left right => left.start < right.start := by
  rw [List.pairwise_flatMap]
  refine ⟨fun scope _ => occurrences_sorted cs scope name, ?_⟩
  refine sorted.imp_of_mem fun {left right} isLeft isRight apart first isFirst second isSecond => ?_
  rw [mem_occurrences_iff nonempty identifier (within left isLeft)] at isFirst
  rw [mem_occurrences_iff nonempty identifier (within right isRight)] at isSecond
  have positive := width_pos nonempty
  omega

end

theorem le_width_of_mem_scopes {cs : List Char} {d : Domain} {issues : List Issue}
    (read : ofTree? ⟨cs⟩ (Tree.build cs) = some (d, issues)) (kind : VariableKind) :
    ∀ scope ∈ d.scopes kind, scope.stop ≤ width cs := by
  intro scope member
  obtain ⟨before, after, rfl, isStop⟩ := (fits_searched read (mem_searched_of_scopes member)).stop
  rw [← isStop, width_append]
  omega

theorem search_eq_some_iff {cs : List Char} {d : Domain} {issues : List Issue}
    (read : ofTree? ⟨cs⟩ (Tree.build cs) = some (d, issues)) {var : Variable} (nonempty : var.name.toList ≠ [])
    (identifier : ∀ c ∈ var.name.toList, isIdentifierChar c = true) {place : Nat} :
    ((d.scopes var.kind).flatMap (occurrences cs · var.name)).find? (precededByBracket cs ·.start) =
        some ⟨place, place + width var.name.toList⟩ ↔
      IsMention cs (d.scopes var.kind) var.name place ∧
        ∀ other, IsMention cs (d.scopes var.kind) var.name other → place ≤ other := by
  have within := le_width_of_mem_scopes read var.kind
  have sorted := occurrences_scopes_sorted nonempty identifier within (scopes_sorted read var.kind)
  rw [find?_sorted_iff sorted, isMention_iff nonempty identifier within, and_assoc]
  refine and_congr_right fun _ => and_congr_right fun _ => ?_
  constructor
  · intro least other mentioned
    obtain ⟨found, preceded⟩ := (isMention_iff nonempty identifier within).mp mentioned
    exact least _ found preceded
  · intro least span found preceded
    refine least span.start ((isMention_iff nonempty identifier within).mpr ⟨?_, preceded⟩)
    rwa [← span_of_mem_occurrences nonempty identifier within found]

theorem isMention_of_declaration {cs : List Char} {d : Domain} {issues : List Issue}
    (read : ofTree? ⟨cs⟩ (Tree.build cs) = some (d, issues)) {e : Declaration}
    (member : e ∈ (Tree.build cs).declarations) {t : Token} (named : e.bracket.nameToken? = some t)
    (plain : ∀ first ∈ e.bracket.children.head?, first.isComment = false) (nonempty : t.text.toList ≠ [])
    (identifier : ∀ c ∈ t.text.toList, isIdentifierChar c = true) :
    IsMention cs (d.scopes e.kind) t.text t.start := by
  obtain ⟨isScope, isPart, isChild⟩ := place_of_mem_declarations read member
  have listed := Tree.mem_nodes_of_mem_children isPart isChild
  have isName : t ∈ Token.namesFrom false (Token.scan cs) := by
    rw [← Tree.nameTokens_build]
    exact List.mem_filterMap.mpr ⟨e.bracket, Tree.mem_brackets_of_nameToken? listed named, named⟩
  have found : t.span ∈ occurrences cs ⟨0, width cs⟩ t.text :=
    Symbol.occurrence_of_mem_namedTokens identifier (Symbol.mem_namedTokens.mpr ⟨isName, sameName_refl t.text⟩)
  have bounds : e.part.span.start ≤ t.start ∧ t.stop ≤ e.part.span.stop := by
    obtain ⟨_, _, _, number, rest, isBracket⟩ := Node.children_of_name named plain
    have isLeaf : Node.leaf number t ∈ e.bracket.children := by
      rw [isBracket]
      exact .head _
    have inBracket := Tree.bounds_of_child listed isLeaf
    have inPart := Tree.bounds_of_child isPart isChild
    exact ⟨Nat.le_trans inPart.1 inBracket.1, Nat.le_trans inBracket.2 inPart.2⟩
  have within : ∀ scope ∈ d.scopes e.kind, scope.stop ≤ width cs := le_width_of_mem_scopes read e.kind
  rw [isMention_iff nonempty identifier within]
  refine ⟨List.mem_flatMap.mpr ⟨e.part.span, isScope, ?_⟩, Tree.precededByBracket_of_name listed named plain⟩
  obtain ⟨isWritten, isStop, _⟩ := (mem_occurrences_iff nonempty identifier (Nat.le_refl _)).mp found
  exact (mem_occurrences_iff nonempty identifier (within _ isScope)).mpr ⟨isWritten, isStop, bounds⟩

/-- A declaration whose name follows its bracket without a comment is located by the first mention of its name in the
sections of its kind: at the name of its bracket, unless a section mentions the name before. -/
theorem declaration_is_located_iff {cs : List Char} {d : Domain} {issues : List Issue}
    (read : ofTree? ⟨cs⟩ (Tree.build cs) = some (d, issues)) {n : Nat} {var : Variable}
    (isVariable : d.allVariables[n]? = some var) (valid : Symbol.isValidName var.name = true) :
    ∃ e t, (Tree.build cs).declarations[n]? = some e ∧
      readVariable? (Tree.build cs) e.kind e.bracket = some var ∧ e.bracket.nameToken? = some t ∧
      ((∀ first ∈ e.bracket.children.head?, first.isComment = false) →
        (∃ place, IsMention cs (d.scopes e.kind) var.name place ∧
          (∀ other, IsMention cs (d.scopes e.kind) var.name other → place ≤ other) ∧
          (d.locate n ⟨cs⟩).1 = some (Document.rangeOf ⟨cs⟩ ⟨place, place + width var.name.toList⟩)) ∧
        ((d.locate n ⟨cs⟩).1 = some (Document.rangeOf ⟨cs⟩ t.span) ↔
          ∀ other, IsMention cs (d.scopes e.kind) var.name other → t.start ≤ other)) := by
  obtain ⟨e, isDeclaration, isRead⟩ := declaration_of_variable read isVariable
  obtain ⟨isKind, unasked, isName⟩ := readVariable?_eq_some isRead
  obtain ⟨t, named, text⟩ := Option.map_eq_some_iff.mp isName
  refine ⟨e, t, isDeclaration, isRead, named, fun plain => ?_⟩
  have identifier := Symbol.isIdentifierChar_of_isValidName valid
  have nonempty : var.name.toList ≠ [] := by
    obtain ⟨_, _, spelled, _⟩ := Symbol.isValidName_cases valid
    simp [spelled]
  have declared := isMention_of_declaration read (List.mem_of_getElem? isDeclaration) named plain
    (text ▸ nonempty) (text ▸ identifier)
  rw [text] at declared
  have located : (d.locate n ⟨cs⟩).1 = (((d.scopes e.kind).flatMap (occurrences cs · var.name)).find?
      (precededByBracket cs ·.start)).map (Document.rangeOf ⟨cs⟩) := by
    simp only [locate, isVariable, unasked, searchVariable, isKind]
  rw [← isKind] at declared located ⊢
  cases search : ((d.scopes var.kind).flatMap (occurrences cs · var.name)).find? (precededByBracket cs ·.start) with
  | none =>
    obtain ⟨found, preceded⟩ :=
      (isMention_iff nonempty identifier (le_width_of_mem_scopes read var.kind)).mp declared
    exact absurd preceded (List.find?_eq_none.mp search _ found)
  | some span =>
    have isSpan := span_of_mem_occurrences nonempty identifier (le_width_of_mem_scopes read var.kind)
      (List.mem_of_find?_eq_some search)
    rw [isSpan] at search
    obtain ⟨mentioned, first⟩ := (search_eq_some_iff read nonempty identifier).mp search
    rw [search, Option.map_some] at located
    refine ⟨⟨span.start, mentioned, first, located⟩, ?_⟩
    have isToken : t.span = ⟨t.start, t.start + width var.name.toList⟩ := by rw [Token.span, Token.stop, text]
    rw [located, Option.some.injEq, isToken]
    constructor
    · intro same
      have here := Document.positionAt_inj mentioned.1.isBoundary declared.1.isBoundary
        (congrArg Range.start same)
      rwa [← here]
    · intro leastHere
      have here : span.start = t.start := Nat.le_antisymm (first _ declared) (leastHere _ mentioned)
      rw [here]

theorem declaration_is_located_iff_derived :
    let cs := "(define (domain d) (:predicates (r-s) (q ?s)) ; (s\n(:derived (r) (q r)) (:derived ( s ) (r)))".toList
    ∃ d issues var e t, ofTree? ⟨cs⟩ (Tree.build cs) = some (d, issues) ∧ d.allVariables[3]? = some var ∧
      var.name = "s" ∧ (Tree.build cs).declarations[3]? = some e ∧ e.bracket.nameToken? = some t ∧ t.start = 84 ∧
      ((d.locate 3 ⟨cs⟩).1 = some (Document.rangeOf ⟨cs⟩ t.span) ↔
        ∀ other, IsMention cs (d.scopes e.kind) var.name other → t.start ≤ other) := by
  intro cs
  have known : (ofTree? ⟨cs⟩ (Tree.build cs)).any (fun r => r.1.allVariables[3]?.any (·.name == "s")) = true ∧
      ((Tree.build cs).declarations[3]?.map fun e =>
        (e.bracket.nameToken?.map (·.start), e.bracket.children.head?.map Node.isComment)) =
          some (some 84, some false) := by
    simp only [cs, String.reduceToList]
    decide +kernel
  clear_value cs
  obtain ⟨isDomain, declared⟩ := known
  obtain ⟨⟨d, issues⟩, read, isNamed⟩ := (Option.any_eq_true _ _).mp isDomain
  obtain ⟨var, isVariable, isName⟩ := (Option.any_eq_true _ _).mp isNamed
  have name : var.name = "s" := by simpa using isName
  have valid : Symbol.isValidName var.name = true := by
    rw [name]
    decide
  obtain ⟨e, t, isDeclaration, _, named, settled⟩ := declaration_is_located_iff read isVariable valid
  rw [isDeclaration, Option.map_some, named] at declared
  simp only [Option.map_some, Option.some.injEq, Prod.mk.injEq, Option.map_eq_some_iff] at declared
  obtain ⟨start, first, isFirst, plain⟩ := declared
  refine ⟨d, issues, var, e, t, read, isVariable, name, isDeclaration, named, start, (settled ?_).2⟩
  rw [isFirst]
  intro other same
  cases same
  exact plain

/-- The body of a derived predicate hides the declaration of the predicate that it uses. -/
theorem declaration_is_hidden_by_body :
    let cs := "(define (domain d) (:derived (p ?x) (q ?x)) (:derived (q ?x) (and)))".toList
    ((Tree.build cs).declarations.map fun e =>
        (e.kind, e.bracket.nameToken?.map (·.span), e.bracket.children.head?.map Node.isComment)) =
        [(.derived, some ⟨30, 31⟩, some false), (.derived, some ⟨55, 56⟩, some false)] ∧
      (ofTree? ⟨cs⟩ (Tree.build cs)).map (fun r =>
        (r.1.allVariables.map (·.name), (r.1.locate 0 ⟨cs⟩).1, (r.1.locate 1 ⟨cs⟩).1)) =
        some (["p", "q"], some ⟨⟨0, 30⟩, ⟨0, 31⟩⟩, some ⟨⟨0, 37⟩, ⟨0, 38⟩⟩) ∧
      Symbol.isValidName "q" = true := by
  intro cs
  simp only [cs, String.reduceToList]
  decide +kernel

end Domain
end PddlAssist
