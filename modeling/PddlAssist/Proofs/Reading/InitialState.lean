import PddlAssist.Proofs.Reading.Layout
import PddlAssist.Proofs.Reading.Sketch

namespace PddlAssist

open Text Token

namespace Token

theorem isWordChar_of_isAlphanum {c : Char} (isAlphanum : c.isAlphanum = true) : isWordChar c = true := by
  have apart {other : Char} (isOther : other.isAlphanum = false) : (c == other) = false := by
    rw [beq_eq_false_iff_ne]
    rintro rfl
    rw [isAlphanum] at isOther
    cases isOther
  simp [isWordChar, isAsciiBlank, bne, apart (by decide : ' '.isAlphanum = false),
    apart (by decide : '\t'.isAlphanum = false), apart (by decide : '\n'.isAlphanum = false),
    apart (by decide : '\x0c'.isAlphanum = false), apart (by decide : '\r'.isAlphanum = false),
    apart (by decide : '('.isAlphanum = false), apart (by decide : ')'.isAlphanum = false),
    apart (by decide : ';'.isAlphanum = false)]

theorem isWordChar_of_isDigit {c : Char} (isDigit : c.isDigit = true) : isWordChar c = true :=
  isWordChar_of_isAlphanum (by simp [Char.isAlphanum, isDigit])

end Token

namespace Decimal

theorem isWordChar_of_splitSign {cs : List Char} (chars : ∀ c ∈ (splitSign cs).2, isWordChar c = true) :
    ∀ c ∈ cs, isWordChar c = true := by
  unfold splitSign at chars
  split at chars
  · exact List.forall_mem_cons.mpr ⟨by decide, chars⟩
  · exact List.forall_mem_cons.mpr ⟨by decide, chars⟩
  · exact chars

theorem isWordChar_of_exponent? {cs : List Char} {e : Int} (isExponent : exponent? cs = some e) :
    ∀ c ∈ cs, isWordChar c = true := by
  cases cs with
  | nil => simp
  | cons mark rest =>
    simp only [exponent?] at isExponent
    split at isExponent
    · rename_i isMark
      split at isExponent
      · cases isExponent
      · rename_i digits
        simp only [Bool.or_eq_true, Bool.not_eq_true', not_or, Bool.not_eq_false, List.all_eq_true] at digits
        have all := digits.2
        refine List.forall_mem_cons.mpr ⟨?_, isWordChar_of_splitSign fun c member =>
          isWordChar_of_isDigit (all c member)⟩
        rcases isMark with rfl | rfl <;> decide
    · cases isExponent

theorem isWordChar_of_unsigned? {negative : Bool} {cs : List Char} {x : Float}
    (isNumber : unsigned? negative cs = some x) : ∀ c ∈ cs, isWordChar c = true := by
  have digits (l : List Char) : ∀ c ∈ l.takeWhile Char.isDigit, isWordChar c = true :=
    fun c member => isWordChar_of_isDigit (List.mem_takeWhile_imp member)
  have split (l : List Char) (chars : ∀ c ∈ l.dropWhile Char.isDigit, isWordChar c = true) :
      ∀ c ∈ l, isWordChar c = true := by
    rw [← List.takeWhile_append_dropWhile (p := Char.isDigit) (l := l), List.forall_mem_append]
    exact ⟨digits l, chars⟩
  refine split cs ?_
  simp only [unsigned?] at isNumber
  generalize cs.dropWhile Char.isDigit = afterWhole at isNumber
  have ends {digits rest : List Char} {number : Int → Float}
      (isNumber : (if digits.isEmpty then none else (exponent? rest).map number) = some x) :
      ∀ c ∈ rest, isWordChar c = true := by
    split at isNumber
    · cases isNumber
    · obtain ⟨e, isExponent, -⟩ := Option.map_eq_some_iff.mp isNumber
      exact isWordChar_of_exponent? isExponent
  split at isNumber
  · exact List.forall_mem_cons.mpr ⟨by decide, split _ (ends isNumber)⟩
  · exact ends isNumber

theorem isRun_of_numeral? {word : String} {x : Float} (isNumber : numeral? word = some x) : IsRun word := by
  constructor
  · intro empty
    rw [String.toList_eq_nil_iff.mp empty] at isNumber
    cases isNumber
  · refine isWordChar_of_splitSign ?_
    simp only [numeral?] at isNumber
    have letters {name : List Char} (isName : (splitSign word.toList).2.map Char.toLower = name)
        (letters : name.all Char.isAlpha = true) : ∀ c ∈ (splitSign word.toList).2, isWordChar c = true := by
      intro c member
      have isAlpha := List.all_eq_true.mp letters c.toLower (isName ▸ List.mem_map_of_mem member)
      rw [isAlpha_toLower] at isAlpha
      exact isWordChar_of_isAlphanum (by simp [Char.isAlphanum, isAlpha])
    split at isNumber
    · rename_i isName
      rcases isName with isName | isName
      · exact letters isName (by decide)
      · exact letters isName (by decide)
    · split at isNumber
      · rename_i isName
        exact letters isName (by decide)
      · exact isWordChar_of_unsigned? isNumber

end Decimal

structure Atom.IsPlain (a : Atom) : Prop where
  name : IsRun a.name
  notEquals : a.name ≠ "="
  notNegation : sameName a.name "not" = false
  arguments : ∀ word ∈ a.arguments, IsRun word

def Atom.render (a : Atom) : String := bracketed (a.name :: a.arguments)

/-- A text that writes an entry. Times and values may be written in every way in which they can be read. -/
inductive InitEntry.IsWrittenAs : InitEntry → String → Prop where
  | literal {a : Atom} (plain : a.IsPlain) : IsWrittenAs (.literal a true) a.render
  | negation {a : Atom} (plain : a.IsPlain) : IsWrittenAs (.literal a false) (bracketed ["not", a.render])
  | fluent {a : Atom} (plain : a.IsPlain) {number : String} {value : Float}
      (isValue : Decimal.numeral? number = some value) :
      IsWrittenAs (.fluent a value) (bracketed ["=", a.render, number])
  | timedLiteral {a : Atom} (plain : a.IsPlain) {instant : String} {time : Float}
      (isTime : Decimal.numeral? instant = some time) :
      IsWrittenAs (.timedLiteral time a true) (bracketed ["at", instant, a.render])
  | timedNegation {a : Atom} (plain : a.IsPlain) {instant : String} {time : Float}
      (isTime : Decimal.numeral? instant = some time) :
      IsWrittenAs (.timedLiteral time a false) (bracketed ["at", instant, bracketed ["not", a.render]])
  | timedFluent {a : Atom} (plain : a.IsPlain) {instant number : String} {time value : Float}
      (isTime : Decimal.numeral? instant = some time) (isValue : Decimal.numeral? number = some value) :
      IsWrittenAs (.timedFluent time a value) (bracketed ["at", instant, bracketed ["=", a.render, number]])

namespace Atom

open Node

def node (a : Atom) : Node := .group (word a.name :: a.arguments.map word)

variable {a : Atom}

theorem IsPlain.prints (plain : a.IsPlain) : Prints a.render [a.node] := by
  have inside := Prints.headed plain.name (Prints.words plain.arguments)
  rwa [← List.flatMap_def, ← List.map_eq_flatMap] at inside

def placed (a : Atom) : Atom := { a with span := (Token.ofWord a.name).span }

theorem IsPlain.arguments_node (plain : a.IsPlain) : a.node.arguments = a.arguments.map word :=
  arguments_group plain.prints.isWritten

theorem IsPlain.readAtom?_node (plain : a.IsPlain) : Problem.readAtom? a.node = some a.placed := by
  have named : a.node.nameToken? = some (Token.ofWord a.name) := nameToken?_group _ _
  have words : (a.arguments.map word).all Node.isTerminal = true := by simp [isTerminal]
  have texts : (a.arguments.map word).filterMap (fun arg => arg.terminal?.map (·.text)) = a.arguments := by
    simp [List.filterMap_map, Token.ofWord]
  simp only [Problem.readAtom?, plain.arguments_node, named, words, texts, Option.bind_eq_bind, Option.bind_some,
    if_true]
  rfl

end Atom

/-- An entry without time, at a time. -/
def InitEntry.at? (time : Float) : InitEntry → Option InitEntry
  | literal atom positive => some (timedLiteral time atom positive)
  | fluent atom value => some (timedFluent time atom value)
  | timedLiteral .. | timedFluent .. => none

namespace Problem

open Node

structure PrintsUntimed (text : String) (n : Node) (entry : InitEntry) : Prop where
  prints : Prints text [n]
  isBracket : n.isBracket = true
  untimed : timed? n = none
  read : readUntimed? n = some entry

variable {a : Atom}

theorem timed?_of_name {n : Node} (isName : n.hasName "at" = false) : timed? n = none := by
  simp [timed?, isName]

theorem printsUntimed_literal (plain : a.IsPlain) : PrintsUntimed a.render a.node (.literal a.placed true) where
  prints := plain.prints
  isBracket := rfl
  untimed := by
    rw [timed?, plain.arguments_node]
    split
    · rename_i time inner _ args
      have isWord : inner ∈ a.arguments.map word := args ▸ .tail _ (.head _)
      obtain ⟨text, _, rfl⟩ := List.mem_map.mp isWord
      rfl
    · rfl
  read := by
    have named : a.node.name? = some a.name := name?_group _ _
    simp [readUntimed?, named, plain.notEquals, plain.notNegation, plain.readAtom?_node]

theorem printsUntimed_negation (plain : a.IsPlain) :
    PrintsUntimed (bracketed ["not", a.render]) (.group [word "not", a.node]) (.literal a.placed false) := by
  have prints := Prints.headed (by decide : IsRun "not") (.cons plain.prints .nil)
  have arguments : (Node.group [word "not", a.node]).arguments = [a.node] := arguments_group prints.isWritten
  refine ⟨prints, rfl, timed?_of_name (by simp [hasName, name?_group]; decide), ?_⟩
  have isAtom : readArgumentAtom? (.group [word "not", a.node]) = some a.placed := by
    rw [readArgumentAtom?, arguments]
    exact plain.readAtom?_node
  simp [readUntimed?, name?_group, isAtom, sameName_refl]

theorem printsUntimed_fluent (plain : a.IsPlain) {number : String} {value : Float}
    (isValue : Decimal.numeral? number = some value) :
    PrintsUntimed (bracketed ["=", a.render, number]) (.group [word "=", a.node, word number])
      (.fluent a.placed value) := by
  have prints := Prints.headed (by decide : IsRun "=")
    (.cons plain.prints (.cons (.word (Decimal.isRun_of_numeral? isValue)) .nil))
  have arguments : (Node.group [word "=", a.node, word number]).arguments = [a.node, word number] :=
    arguments_group prints.isWritten
  refine ⟨prints, rfl, timed?_of_name (by simp [hasName, name?_group]; decide), ?_⟩
  have isAtom : readArgumentAtom? (.group [word "=", a.node, word number]) = some a.placed := by
    rw [readArgumentAtom?, arguments]
    exact plain.readAtom?_node
  have isNumber : number? (word number) = some value := by simpa [number?, Token.ofWord] using isValue
  simp [readUntimed?, name?_group, isAtom, arguments, isNumber]

theorem PrintsUntimed.timed {text : String} {n : Node} {entry : InitEntry} (inner : PrintsUntimed text n entry)
    {instant : String} {time : Float} (isTime : Decimal.numeral? instant = some time) :
    Prints (bracketed ["at", instant, text]) [.group [word "at", word instant, n]] ∧
      Problem.readEntry? (.group [word "at", word instant, n]) = entry.at? time := by
  have prints := Prints.headed (by decide : IsRun "at")
    (.cons (.word (Decimal.isRun_of_numeral? isTime)) (.cons inner.prints .nil))
  refine ⟨prints, ?_⟩
  have arguments : (Node.group [word "at", word instant, n]).arguments = [word instant, n] :=
    arguments_group prints.isWritten
  have isNumber : number? (word instant) = some time := by simpa [number?, Token.ofWord] using isTime
  have timed : timed? (.group [word "at", word instant, n]) = some (time, n) := by
    simp [timed?, hasName_group, arguments, inner.isBracket, isNumber]
  simp only [Problem.readEntry?, timed, inner.untimed, inner.read]
  cases entry <;> rfl

theorem PrintsUntimed.readEntry? {text : String} {n : Node} {entry : InitEntry} (inner : PrintsUntimed text n entry) :
    readEntry? n = some entry := by
  simp only [Problem.readEntry?, inner.untimed, inner.read]

theorem readEntry?_of_isWrittenAs {entry : InitEntry} {text : String} (written : entry.IsWrittenAs text) :
    ∃ n read, Prints text [n] ∧ n.isBracket = true ∧ Problem.readEntry? n = some read ∧
      InitEntry.Alike id entry read := by
  have same (a : Atom) : Atom.Alike id a a.placed := ⟨rfl, rfl⟩
  cases written with
  | literal plain =>
    have inner := printsUntimed_literal plain
    exact ⟨_, _, inner.prints, inner.isBracket, inner.readEntry?, .literal (same _) _⟩
  | negation plain =>
    have inner := printsUntimed_negation plain
    exact ⟨_, _, inner.prints, inner.isBracket, inner.readEntry?, .literal (same _) _⟩
  | fluent plain isValue =>
    have inner := printsUntimed_fluent plain isValue
    exact ⟨_, _, inner.prints, inner.isBracket, inner.readEntry?, .fluent (same _) _⟩
  | timedLiteral plain isTime =>
    obtain ⟨prints, read⟩ := (printsUntimed_literal plain).timed isTime
    exact ⟨_, _, prints, rfl, read, .timedLiteral _ (same _) _⟩
  | timedNegation plain isTime =>
    obtain ⟨prints, read⟩ := (printsUntimed_negation plain).timed isTime
    exact ⟨_, _, prints, rfl, read, .timedLiteral _ (same _) _⟩
  | timedFluent plain isTime isValue =>
    obtain ⟨prints, read⟩ := (printsUntimed_fluent plain isValue).timed isTime
    exact ⟨_, _, prints, rfl, read, .timedFluent _ (same _) _⟩

theorem readInits {entries : List InitEntry} {texts : List String}
    (written : List.Forall₂ InitEntry.IsWrittenAs entries texts) :
    ∃ (nodes : List Node) (read : List InitEntry), List.Forall₂ Prints texts (nodes.map ([·])) ∧
      (∀ n ∈ nodes, n.isBracket = true) ∧ List.Forall₂ (InitEntry.Alike id) entries read ∧
      ∀ document tree r, nodes.foldl (readInit document tree) r =
        { r with problem := { r.problem with initEntries := r.problem.initEntries ++ read } } := by
  induction written with
  | nil => exact ⟨[], [], .nil, by simp, .nil, by simp⟩
  | cons first _ ih =>
    obtain ⟨n, entry, prints, isBracket, isRead, alike⟩ := readEntry?_of_isWrittenAs first
    obtain ⟨nodes, read, others, brackets, alikes, later⟩ := ih
    refine ⟨n :: nodes, entry :: read, .cons prints others, List.forall_mem_cons.mpr ⟨isBracket, brackets⟩,
      .cons alike alikes, fun document tree r => ?_⟩
    rw [List.foldl_cons, later, readInit, isRead]
    simp

/-- The text of a problem with an initial state. -/
def renderState (name domainName : String) (entries : List String) : String :=
  bracketed ["define", bracketed ["problem", name], bracketed [":domain", domainName], bracketed (":init" :: entries)]

def stateNode (name domainName : String) (entries : List Node) : Node :=
  .group [word "define", .group [word "problem", word name], .group [word ":domain", word domainName],
    .group (word ":init" :: entries)]

def ofState (name domainName : String) (entries : List InitEntry) : Problem where
  name := name
  domainName := domainName
  domainNameSpan := (Token.ofWord domainName).span
  initEntries := entries
  inits := entries.map InitEntry.timedValue
  sections := { init := some nowhere }

theorem prints_state {name domainName : String} (isName : IsRun name) (isDomain : IsRun domainName)
    {texts : List String} {nodes : List Node} (entries : List.Forall₂ Prints texts (nodes.map ([·]))) :
    Prints (renderState name domainName texts) [stateNode name domainName nodes] := by
  have header := Prints.headed (by decide : IsRun "problem") (.cons (.word isName) .nil)
  have reference := Prints.headed (by decide : IsRun ":domain") (.cons (.word isDomain) .nil)
  have state := Prints.headed (by decide : IsRun ":init") entries
  rw [← List.flatMap_def, List.flatMap_singleton'] at state
  exact Prints.headed (by decide : IsRun "define") (.cons header (.cons reference (.cons state .nil)))

section

variable {name domainName : String} {nodes : List Node}

theorem children_stateNode : (stateNode name domainName nodes).children =
    [word "define", .group [word "problem", word name], .group [word ":domain", word domainName],
      .group (word ":init" :: nodes)] := rfl

theorem head?_childrenNamed_problem :
    ((stateNode name domainName nodes).childrenNamed "problem").head? =
      some (.group [word "problem", word name]) := by
  rw [childrenNamed, children_stateNode, List.filter_cons_of_neg (by simp),
    List.filter_cons_of_pos (by simp [hasName_group])]
  rfl

theorem head?_childrenNamed_domain :
    ((stateNode name domainName nodes).childrenNamed ":domain").head? =
      some (.group [word ":domain", word domainName]) := by
  have other : (Node.group [word "problem", word name]).hasName ":domain" = false := by
    simp only [hasName, name?_group, Option.any_some]
    decide
  rw [childrenNamed, children_stateNode, List.filter_cons_of_neg (by simp), List.filter_cons_of_neg (by simp [other]),
    List.filter_cons_of_pos (by simp [hasName_group])]
  rfl

theorem readNode (written : (stateNode name domainName nodes).IsWritten) (brackets : ∀ n ∈ nodes, n.isBracket = true)
    {entries : List InitEntry}
    (read : ∀ document tree r, nodes.foldl (readInit document tree) r =
      { r with problem := { r.problem with initEntries := r.problem.initEntries ++ entries } })
    (document : Document) (cs : List Char) :
    ofTree? document ⟨cs, .document 0 [stateNode name domainName nodes]⟩ =
      some (ofState name domainName entries, []) := by
  have defines : (Node.document 0 [stateNode name domainName nodes]).childrenNamed "define" =
      [stateNode name domainName nodes] := List.filter_cons_of_pos (by simp [stateNode, hasName_group])
  have firstWord {keyword text : String} (inside : (Node.group [word keyword, word text]).IsWritten) :
      (Node.group [word keyword, word text]).firstWord? = some (Token.ofWord text) := by
    rw [firstWord?, arguments_group inside]
    simp
  have isProblem := firstWord (written.inside (.group [word "problem", word name]) (by simp))
  have isDomain := firstWord (written.inside (.group [word ":domain", word domainName]) (by simp))
  have sections : (stateNode name domainName nodes).significant.filter isBracket =
      [.group [word "problem", word name], .group [word ":domain", word domainName],
        .group (word ":init" :: nodes)] := by
    rw [stateNode, significant_group written]
    rfl
  have inits : (Node.group (word ":init" :: nodes)).arguments.filter isBracket = nodes := by
    rw [arguments_group (written.inside _ (by simp)), List.filter_eq_self]
    exact brackets
  have readOther {keyword text : String} (other : lower keyword ∉ [":objects", ":init", ":goal", ":metric"])
      (tree : Tree) (r : Reading) : readSection document tree r (.group [word keyword, word text]) = r := by
    simp only [readSection, name?_group, Option.map_some]
    split <;> simp_all
  simp only [ofTree?, Tree.define?, defines, List.head?_cons, head?_childrenNamed_problem, head?_childrenNamed_domain,
    isProblem, isDomain, Option.bind_eq_bind, Option.bind_some, sections, List.foldl_cons, List.foldl_nil,
    readOther (by decide : lower "problem" ∉ _), readOther (by decide : lower ":domain" ∉ _)]
  rw [readSection, name?_group, Option.map_some, show lower ":init" = ":init" by decide]
  simp only [inits, read]
  rfl

end

/-- An initial state that is written down is read back, with its values at their times and without an issue. -/
theorem written_state_is_read {entries : List InitEntry} {texts : List String}
    (written : List.Forall₂ InitEntry.IsWrittenAs entries texts) {name domainName : String} (isName : IsRun name)
    (isDomain : IsRun domainName) :
    ∃ p, ofTree? ⟨(renderState name domainName texts).toList⟩
        (Tree.build (renderState name domainName texts).toList) = some (p, []) ∧
      p.bare = { name, domainName, domainNameSpan := nowhere, initEntries := entries.map InitEntry.bare,
                 inits := entries.map InitEntry.timedValue, sections := { init := some nowhere } } := by
  obtain ⟨nodes, read, prints, brackets, alikes, isRead⟩ := readInits written
  have printed := prints_state isName isDomain prints
  have stated := readNode printed.isWritten brackets isRead ⟨(renderState name domainName texts).toList⟩
    (renderState name domainName texts).toList
  -- the tree of the text and the one that is written down differ in places only
  have sim := bare_similarity
    ⟨(renderState name domainName texts).toList, .document 0 [stateNode name domainName nodes]⟩
    (Tree.build (renderState name domainName texts).toList)
  have alike := sim.problem printed.root.symm ⟨(renderState name domainName texts).toList⟩
    ⟨(renderState name domainName texts).toList⟩
  rw [stated] at alike
  generalize isFound : ofTree? _ (Tree.build (renderState name domainName texts).toList) = found at alike
  cases alike with
  | @some _ found same =>
    have issues : found.2 = [] := List.forall₂_nil_left_iff.mp same.2
    have bares := map_eq_of_forall₂ alikes fun _ _ => InitEntry.Alike.bare
    have values := map_eq_of_forall₂ alikes fun _ _ => InitEntry.Alike.timedValue
    refine ⟨found.1, by rw [← issues], ?_⟩
    rw [same.1.bare rfl (ofTree?_inits isFound), Problem.bare, ofState, bares, values]
    rfl

theorem written_state_is_read_at :
    let at5 : Atom := ⟨"at", ["5", "x"], nowhere⟩
    let fuel : Atom := ⟨"fuel:", ["-", "?t"], nowhere⟩
    let entries : List InitEntry :=
      [.literal at5 true, .literal at5 false, .fluent fuel 0.5, .timedLiteral 12 at5 true,
        .timedLiteral 12.5 ⟨"NOTED", [], nowhere⟩ false, .timedFluent (-1) fuel (1 / 0)]
    let texts := ["(at 5 x)", "(not (at 5 x))", "(= (fuel: - ?t) 5e-1)", "(at 12 (at 5 x))",
      "(at +12.50 (not (NOTED)))", "(at -1 (= (fuel: - ?t) Infinity))"]
    renderState "p" "d" texts =
        "(define (problem p) (:domain d) (:init (at 5 x) (not (at 5 x)) (= (fuel: - ?t) 5e-1) (at 12 (at 5 x)) " ++
          "(at +12.50 (not (NOTED))) (at -1 (= (fuel: - ?t) Infinity))))" ∧
      ∃ p, ofTree? ⟨(renderState "p" "d" texts).toList⟩ (Tree.build (renderState "p" "d" texts).toList) = some (p, []) ∧
        p.bare = { name := "p", domainName := "d", domainNameSpan := nowhere
                   initEntries := entries.map InitEntry.bare, inits := entries.map InitEntry.timedValue
                   sections := { init := some nowhere } } := by
  intro at5 fuel entries texts
  have plain {a : Atom} (isPlain : IsRun a.name ∧ a.name ≠ "=" ∧ sameName a.name "not" = false ∧
      ∀ word ∈ a.arguments, IsRun word) : a.IsPlain := ⟨isPlain.1, isPlain.2.1, isPlain.2.2.1, isPlain.2.2.2⟩
  have isAt : at5.IsPlain := plain (by decide)
  have isFuel : fuel.IsPlain := plain (by decide)
  have isNoted : Atom.IsPlain ⟨"NOTED", [], nowhere⟩ := plain (by decide)
  have written : List.Forall₂ InitEntry.IsWrittenAs entries texts := .cons (.literal isAt) (.cons (.negation isAt)
    (.cons (.fluent isFuel (by decide +kernel : Decimal.numeral? "5e-1" = some 0.5))
    (.cons (.timedLiteral isAt (by decide +kernel : Decimal.numeral? "12" = some 12))
    (.cons (.timedNegation isNoted (by decide +kernel : Decimal.numeral? "+12.50" = some 12.5))
    (.cons (.timedFluent isFuel (by decide +kernel : Decimal.numeral? "-1" = some (-1))
      (by decide +kernel : Decimal.numeral? "Infinity" = some (1 / 0))) .nil)))))
  exact ⟨by decide +kernel, written_state_is_read written (by decide) (by decide)⟩

end Problem

end PddlAssist
