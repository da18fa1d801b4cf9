import Mathlib.Data.List.Sort
import PddlAssist.Proofs.Document.Occurrence
import PddlAssist.Proofs.Tree.Brackets

namespace PddlAssist

open Text

theorem isIdentifierChar_of_map_toLower {left right : List Char}
    (same : left.map Char.toLower = right.map Char.toLower) (identifier : ∀ c ∈ right, isIdentifierChar c = true) :
    ∀ c ∈ left, isIdentifierChar c = true := by
  intro c member
  have lowered : c.toLower ∈ right.map Char.toLower := same ▸ List.mem_map_of_mem member
  obtain ⟨d, isRight, isLower⟩ := List.mem_map.mp lowered
  rw [← isIdentifierChar_toLower, ← isLower, isIdentifierChar_toLower]
  exact identifier d isRight

/-- A text goes on after a name with a character that identifiers do not have. -/
def beginsLoosely (name text : String) : Bool :=
  startsWithName name.toList text.toList &&
    (text.toList.drop name.toList.length).head?.any (!isIdentifierChar ·)

namespace Symbol

theorem sameName_iff_map {a b : String} :
    sameName a b = true ↔ a.toList.map Char.toLower = b.toList.map Char.toLower := by
  rw [sameName_iff, lower, lower, String.ofList_inj]

theorem sameName_or_beginsLoosely {name : String} (identifier : ∀ c ∈ name.toList, isIdentifierChar c = true)
    {t : Token} {following : List Char} (leads : t.Leads following) (isWord : t.kind.isWord = true)
    (starts : startsWithName name.toList (t.text.toList ++ following) = true)
    (ends : joins ((t.text.toList ++ following).drop name.toList.length).head? = false) :
    sameName t.text name = true ∨ beginsLoosely name t.text = true := by
  obtain ⟨written, rest, whole, same⟩ := startsWithName_cases starts
  have long : written.length = name.toList.length := by simpa using congrArg List.length same
  have left : (t.text.toList ++ following).drop name.toList.length = rest := by rw [whole, ← long, List.drop_left]
  rw [left] at ends
  have identifiers := isIdentifierChar_of_map_toLower same identifier
  rcases List.append_eq_append_iff.mp whole with ⟨extra, isWritten, isFollowing⟩ | ⟨extra, isText, isRest⟩
  · cases extra with
    | nil => exact .inl (sameName_iff_map.mpr (by rw [← same, isWritten, List.append_nil]))
    | cons c extra =>
      have stops := leads.joins_head? isWord
      rw [isFollowing] at stops
      have goesOn := identifiers c (by simp [isWritten])
      rw [show isIdentifierChar c = false from stops] at goesOn
      cases goesOn
  · cases extra with
    | nil => exact .inl (sameName_iff_map.mpr (by rw [← same, isText, List.append_nil]))
    | cons c extra =>
      have stops : isIdentifierChar c = false := by
        rw [isRest] at ends
        exact ends
      right
      rw [beginsLoosely, isText, startsWithName_append same, ← long, List.drop_left]
      simp [stops]

theorem beginsLoosely_eq_false {name text : String} (identifier : ∀ c ∈ text.toList, isIdentifierChar c = true) :
    beginsLoosely name text = false := by
  rw [Bool.eq_false_iff]
  intro loose
  obtain ⟨c, first, other⟩ := (Option.any_eq_true _ _).mp (Bool.and_eq_true_iff.mp loose).2
  rw [identifier c (List.mem_of_mem_drop (List.mem_of_mem_head? first))] at other
  cases other

/-- No word of a text goes on loosely after a name, no keyword and no parameter either. -/
def Unextended (name : String) (cs : List Char) : Prop :=
  ∀ t ∈ Token.scan cs, t.kind.isWord = true → beginsLoosely name t.text = false

instance (name : String) (cs : List Char) : Decidable (Unextended name cs) :=
  inferInstanceAs (Decidable (∀ t ∈ Token.scan cs, t.kind.isWord = true → beginsLoosely name t.text = false))

/-- No word of a text goes on loosely after a name. -/
def Strict (name : String) (cs : List Char) : Prop :=
  ∀ t ∈ Token.scan cs, t.kind = .word → beginsLoosely name t.text = false

instance (name : String) (cs : List Char) : Decidable (Strict name cs) :=
  inferInstanceAs (Decidable (∀ t ∈ Token.scan cs, t.kind = .word → beginsLoosely name t.text = false))

theorem Strict.unextended {name : String} (valid : isValidName name = true) {cs : List Char}
    (strict : Strict name cs) : Unextended name cs := by
  intro t member isWord
  obtain ⟨_, later, _, _, leads, _⟩ := Token.mem_scan member
  by_contra loose
  rw [Bool.not_eq_false] at loose
  suffices kind : t.kind = .word by
    rw [strict t member kind] at loose
    cases loose
  obtain ⟨first, more, spelled, isAlpha, _⟩ := isValidName_cases valid
  obtain ⟨written, rest, isText, same⟩ := startsWithName_cases (Bool.and_eq_true_iff.mp loose).1
  rw [spelled] at same
  cases written with
  | nil => cases same
  | cons d written =>
    have letter : d.isAlpha = true := by
      rw [← isAlpha_toLower, (List.cons.inj same).1, isAlpha_toLower, isAlpha]
    cases leads with
    | openBracket | closeBracket | comment | blank => cases isWord
    | word =>
      rw [String.toList_ofList] at isText
      simp only [isText, List.cons_append, wordKind_of_isAlpha letter]

def namedTokens (name : String) (cs : List Char) : List Token :=
  (Token.namesFrom false (Token.scan cs)).filter (sameName ·.text name)

theorem mem_namedTokens {name : String} {cs : List Char} {t : Token} :
    t ∈ namedTokens name cs ↔ t ∈ Token.namesFrom false (Token.scan cs) ∧ sameName t.text name = true :=
  List.mem_filter

section

variable {name : String} {cs : List Char}

theorem sameName_or_beginsLoosely_of_occurrence (identifier : ∀ c ∈ name.toList, isIdentifierChar c = true) {t : Token}
    (member : t ∈ Token.scan cs) (isWord : t.kind.isWord = true) {span : Span}
    (found : span ∈ occurrences cs ⟨0, width cs⟩ name) (here : t.start = span.start) :
    sameName t.text name = true ∨ beginsLoosely name t.text = true := by
  obtain ⟨earlier, later, whole, start, leads, _⟩ := Token.mem_scan member
  have nonempty := ne_nil_of_mem_occurrences found
  obtain ⟨before, after, cut, starts, _, ends, _, rfl⟩ := (mem_occurrences nonempty identifier).mp found
  have isAfter : after = t.text.toList ++ Token.texts later := by
    have place : width before = width (Token.texts earlier) := by rw [← start, here]
    rw [← dropBytes_width before after, ← cut, place, whole, dropBytes_width]
  subst isAfter
  exact sameName_or_beginsLoosely identifier leads isWord starts ends

theorem mem_namedTokens_of_occurrence (identifier : ∀ c ∈ name.toList, isIdentifierChar c = true)
    (unextended : Unextended name cs) {t : Token} (isName : t ∈ Token.namesFrom false (Token.scan cs)) {span : Span}
    (found : span ∈ occurrences cs ⟨0, width cs⟩ name) (here : t.start = span.start) :
    t ∈ namedTokens name cs ∧ t.span = span := by
  have member := (Token.namesFrom_sublist false _).subset isName
  have isWord := Token.isWord_of_mem_namesFrom isName
  rcases sameName_or_beginsLoosely_of_occurrence identifier member isWord found here with same | loose
  · have isStop := ((mem_occurrences_iff (ne_nil_of_mem_occurrences found) identifier (Nat.le_refl _)).mp found).2.1
    refine ⟨mem_namedTokens.mpr ⟨isName, same⟩, ?_⟩
    rw [Token.span, Token.stop, here, width_of_map_toLower (sameName_iff_map.mp same), ← isStop]
  · rw [unextended t member isWord] at loose
    cases loose

theorem isWord_of_sameName (identifier : ∀ c ∈ name.toList, isIdentifierChar c = true) {t : Token}
    {following : List Char} (leads : t.Leads following) (same : sameName t.text name = true) :
    t.kind.isWord = true := by
  have identifiers := isIdentifierChar_of_map_toLower (sameName_iff_map.mp same) identifier
  cases leads with
  | openBracket | closeBracket | comment => cases identifiers _ (by rw [String.toList_ofList]; exact .head _)
  | @blank _ run _ notEmpty blanks =>
    obtain ⟨c, member⟩ := List.exists_mem_of_ne_nil run notEmpty
    have apart := Token.not_isIdentifierChar (c := c) (by simp [Token.isWordChar, blanks c member])
    rw [identifiers c (by rwa [String.toList_ofList])] at apart
    cases apart
  | @word _ run => exact Token.wordKind_isWord run

theorem occurrence_of_mem_scan (nonempty : name.toList ≠ [])
    (identifier : ∀ c ∈ name.toList, isIdentifierChar c = true) {t : Token} (member : t ∈ Token.scan cs)
    (same : sameName t.text name = true) : t.span ∈ occurrences cs ⟨0, width cs⟩ name := by
  obtain ⟨earlier, later, whole, start, leads, scanned⟩ := Token.mem_scan member
  have isWord := isWord_of_sameName identifier leads same
  have lowered := sameName_iff_map.mp same
  have long : t.text.toList.length = name.toList.length := by simpa using congrArg List.length lowered
  have notBlank : t.kind ≠ .blank := by
    intro blank
    rw [blank] at isWord
    cases isWord
  rw [mem_occurrences nonempty identifier]
  refine ⟨Token.texts earlier, t.text.toList ++ Token.texts later, whole, startsWithName_append lowered _,
    scanned.joins_getLast? isWord, ?_, scanned.uncommented notBlank, ?_⟩
  · rw [← long, List.drop_left]
    exact leads.joins_head? isWord
  · rw [Token.span, Token.stop, start, width_of_map_toLower lowered]

theorem occurrence_of_mem_namedTokens (identifier : ∀ c ∈ name.toList, isIdentifierChar c = true) {t : Token}
    (named : t ∈ namedTokens name cs) : t.span ∈ occurrences cs ⟨0, width cs⟩ name := by
  obtain ⟨isName, same⟩ := mem_namedTokens.mp named
  have member := (Token.namesFrom_sublist false _).subset isName
  obtain ⟨_, _, _, _, leads, _⟩ := Token.mem_scan member
  have nonempty : name.toList ≠ [] := by
    intro empty
    have spelled := sameName_iff_map.mp same
    rw [empty, List.map_nil, List.map_eq_nil_iff] at spelled
    exact leads.text_ne_nil spelled
  exact occurrence_of_mem_scan nonempty identifier member same

end

/-- The words that name the applications of a predicate or function in a tree. -/
def applicationTokens (tree : Tree) (name : String) : List Token :=
  (tree.brackets.filter fun b => b.hasName name && !b.isTimeSpecifier).filterMap Node.nameToken?

theorem applicationTokens_sorted (cs : List Char) (name : String) :
    (applicationTokens (Tree.build cs) name).Pairwise fun left right => left.start < right.start :=
  (Tree.nameTokens_sorted cs).sublist (List.filter_sublist.filterMap _)

theorem mem_applicationTokens {cs : List Char} {name : String} {t : Token} :
    t ∈ applicationTokens (Tree.build cs) name ↔ ∃ b, (Tree.build cs).bracketNamedAt? t.start = some b ∧
      b.nameToken? = some t ∧ sameName t.text name = true ∧ b.isTimeSpecifier = false := by
  simp only [applicationTokens, List.mem_filterMap, List.mem_filter, Bool.and_eq_true, Bool.not_eq_true',
    Tree.bracketNamedAt?_eq_some]
  constructor
  · rintro ⟨b, ⟨member, hasName, notTime⟩, named⟩
    simp only [Node.hasName, Node.name?, named, Option.map_some, Option.any_some] at hasName
    exact ⟨b, ⟨member, t, named, rfl⟩, named, hasName, notTime⟩
  · rintro ⟨b, ⟨member, _⟩, named, same, notTime⟩
    refine ⟨b, ⟨member, ?_, notTime⟩, named⟩
    simp only [Node.hasName, Node.name?, named, Option.map_some, Option.any_some, same]

theorem placesWhere_applications {name : String} (identifier : ∀ c ∈ name.toList, isIdentifierChar c = true)
    {file : SourceFile} (isTree : file.tree = Tree.build file.document.chars)
    (unextended : Unextended name file.document.chars) :
    placesWhere file.document name (namesVariable file) =
      (applicationTokens file.tree name).map fun t => file.document.rangeOf t.span := by
  suffices same : (occurrences file.document.chars ⟨0, file.document.size⟩ name).filter (namesVariable file ·.start) =
      (applicationTokens file.tree name).map Token.span by
    rw [placesWhere, same, List.map_map]
    rfl
  have irreflexive : Std.Irrefl fun left right : Span => left.start < right.start :=
    ⟨fun span => Nat.lt_irrefl span.start⟩
  have antisymmetric : Std.Antisymm fun left right : Span => left.start < right.start :=
    ⟨fun _ _ less more => absurd less (Nat.not_lt.mpr (Nat.le_of_lt more))⟩
  have sorted : ((applicationTokens file.tree name).map Token.span).Pairwise fun left right =>
      left.start < right.start := by
    rw [List.pairwise_map, isTree]
    exact applicationTokens_sorted _ _
  refine ((occurrences_sorted _ _ _).filter _).eq_of_mem_iff sorted fun span => ?_
  rw [List.mem_filter, List.mem_map, namesVariable, isTree, Option.any_eq_true]
  constructor
  · rintro ⟨found, b, isBracket, notTime⟩
    obtain ⟨_, t, named, here⟩ := Tree.bracketNamedAt?_eq_some.mp isBracket
    have isName := ((Tree.bracketNamedAt?_iff file.document.chars span.start t).mp ⟨b, isBracket, named⟩).1
    obtain ⟨isNamed, isSpan⟩ := mem_namedTokens_of_occurrence identifier unextended isName found here
    refine ⟨t, mem_applicationTokens.mpr ⟨b, ?_, named, (mem_namedTokens.mp isNamed).2, ?_⟩, isSpan⟩
    · rw [here, isBracket]
    · simpa using notTime
  · rintro ⟨t, isApplication, rfl⟩
    obtain ⟨b, isBracket, named, same, notTime⟩ := mem_applicationTokens.mp isApplication
    have isName := ((Tree.bracketNamedAt?_iff file.document.chars t.start t).mp ⟨b, isBracket, named⟩).1
    refine ⟨occurrence_of_mem_namedTokens identifier (mem_namedTokens.mpr ⟨isName, same⟩), b, isBracket, ?_⟩
    rw [notTime]
    rfl

theorem applicationTokens_eq_namedTokens {name : String} (notTime : sameName name "at" = false) (cs : List Char) :
    applicationTokens (Tree.build cs) name = namedTokens name cs := by
  rw [namedTokens, ← Tree.nameTokens_build, applicationTokens, List.filterMap_filter, List.filter_filterMap]
  congr 1
  funext b
  cases named : b.nameToken? with
  | none => simp [Node.hasName, Node.name?, named]
  | some t =>
    by_cases same : sameName t.text name = true
    · have other : sameName t.text "at" = false := by rw [sameName, sameName_iff.mp same, ← sameName, notTime]
      simp [Node.hasName, Node.name?, Node.isTimeSpecifier, named, same, other, Option.filter]
    · simp [Node.hasName, Node.name?, named, same, Option.filter]

theorem placesWhere_namesVariable {name : String} (valid : isValidName name = true)
    (notTime : sameName name "at" = false) {file : SourceFile}
    (isTree : file.tree = Tree.build file.document.chars) (strict : Strict name file.document.chars) :
    placesWhere file.document name (namesVariable file) =
      (namedTokens name file.document.chars).map fun t => file.document.rangeOf t.span := by
  rw [placesWhere_applications (isIdentifierChar_of_isValidName valid) isTree (strict.unextended valid), isTree,
    applicationTokens_eq_namedTokens notTime]

end Symbol
end PddlAssist
