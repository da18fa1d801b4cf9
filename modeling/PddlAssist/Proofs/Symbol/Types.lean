import PddlAssist.Proofs.Reading.Declarations
import PddlAssist.Proofs.Symbol.Preparation
import PddlAssist.Proofs.Token.Precedence
import PddlAssist.Proofs.Tree.Paths

namespace PddlAssist

open Text

theorem Node.mem_arguments {n child : Node} (isBracket : n.isBracket = true) (isChild : child ∈ n.children)
    (significant : child.isComment = false) (other : child.terminal? ≠ n.nameToken?) : child ∈ n.arguments := by
  have isSignificant : child ∈ n.significant := List.mem_filter.mpr ⟨isChild, by simp [significant]⟩
  rw [arguments]
  split
  · cases isList : n.significant with
    | nil => simp [isList] at isSignificant
    | cons head rest =>
      rw [isList] at isSignificant
      rcases List.mem_cons.mp isSignificant with rfl | later
      · simp [nameToken?, isBracket, isList] at other
      · exact later
  · exact isSignificant

/-- A space, a tab or a line break stands before each dash, and no comment comes next after it. -/
structure DashesStandApart (cs : List Char) : Prop where
  before : ∀ dash ∈ Token.scan cs, dash.kind = .dash →
    ∀ c ∈ (takeBytes dash.start cs).getLast?, c = ' ' ∨ c = '\t' ∨ c = '\n'
  after : ((Token.scan cs).filter (·.kind != .blank)).IsChain fun left right =>
    left.kind = .dash → right.kind ≠ .comment

theorem dashesStandApart_iff {cs : List Char} : DashesStandApart cs ↔
    (∀ dash ∈ Token.scan cs, dash.kind = .dash →
      (takeBytes dash.start cs).getLast?.all (fun c => c == ' ' || c == '\t' || c == '\n') = true) ∧
    ((Token.scan cs).filter (·.kind != .blank)).IsChain fun left right => left.kind = .dash → right.kind ≠ .comment := by
  have same (c? : Option Char) : c?.all (fun c => c == ' ' || c == '\t' || c == '\n') = true ↔
      ∀ c ∈ c?, c = ' ' ∨ c = '\t' ∨ c = '\n' := by
    simp [Option.all_eq_true, or_assoc]
  simp only [same]
  exact ⟨fun apart => ⟨apart.before, apart.after⟩, fun both => ⟨both.1, both.2⟩⟩

instance (cs : List Char) : Decidable (DashesStandApart cs) := decidable_of_iff _ dashesStandApart_iff.symm

theorem DashesStandApart.precededByDash {cs : List Char} (apart : DashesStandApart cs) {earlier between later : List Token}
    {dash t : Token} (whole : Token.scan cs = earlier ++ dash :: (between ++ t :: later)) (isDash : dash.kind = .dash)
    (skipped : ∀ u ∈ between, u.kind = .blank ∨ u.kind = .comment) : precededByDash cs t.start = true := by
  have notBlank : (dash.kind != .blank) = true := by simp [isDash]
  have areBlank : ∀ u ∈ between, u.kind = .blank := by
    -- what is left of them without blanks would begin with a comment
    have nothing : between.filter (·.kind != .blank) = [] := by
      cases isLeft : between.filter (·.kind != .blank) with
      | nil => rfl
      | cons u rest =>
        have member : u ∈ between.filter (·.kind != .blank) := by simp [isLeft]
        obtain ⟨isBetween, significant⟩ := List.mem_filter.mp member
        have isComment := (skipped u isBetween).resolve_left (by simpa using significant)
        have chain := apart.after
        simp only [whole, List.filter_append, List.filter_cons, notBlank, if_true, isLeft, List.cons_append] at chain
        exact absurd isComment ((List.isChain_cons_cons.mp chain.right_of_append).1 isDash)
    intro u member
    by_contra significant
    have isLeft : u ∈ between.filter (·.kind != .blank) := List.mem_filter.mpr ⟨member, by simpa using significant⟩
    simp [nothing] at isLeft
  refine Token.precededByDash_of_dash whole isDash areBlank ?_
  obtain ⟨spelled, start, _⟩ := Token.scan_split whole
  have before := apart.before dash (by simp [whole]) isDash
  rwa [start, spelled, takeBytes_width] at before

namespace SourceFile

/-- The brackets whose arguments are types: those named `either`, and in a domain the section that lists the types. -/
def typeBrackets (file : SourceFile) : List Node :=
  file.tree.brackets.filter (·.hasName "either") ++ if file.isDomain then file.tree.typesSection?.toList else []

/-- A token stands for a type: it is an argument of a bracket for types, or it follows a dash, blanks and comments
apart. -/
inductive IsTypeToken (file : SourceFile) (t : Token) : Prop where
  | argument {b : Node} {id : Nat} (member : b ∈ file.typeBrackets) (isArgument : .leaf id t ∈ b.arguments) :
      IsTypeToken file t
  | afterDash {earlier between later : List Token} {dash : Token}
      (whole : Token.scan file.document.chars = earlier ++ dash :: (between ++ t :: later)) (isDash : dash.kind = .dash)
      (skipped : ∀ u ∈ between, u.kind = .blank ∨ u.kind = .comment) : IsTypeToken file t

/-- A place looks like that of a type: it is somewhere in a bracket for types, or the characters before it are a dash
and blanks, and the dash stands after a space, a tab or a line break. -/
inductive IsTypePlace (file : SourceFile) (place : Nat) : Prop where
  | inSection {part : Node} (isDomain : file.isDomain = true) (isSection : file.tree.typesSection? = some part)
      (after : part.span.start ≤ place) (before : place < part.span.stop) : IsTypePlace file place
  | inEither {b : Node} (member : b ∈ file.tree.brackets) (named : b.hasName "either" = true)
      (holds : b.holds place = true) : IsTypePlace file place
  | afterDash {lead blanks : List Char} (taken : takeBytes place file.document.chars = lead ++ '-' :: blanks)
      (areBlank : ∀ c ∈ blanks, isBlank c = true) (alone : ∀ c ∈ lead.getLast?, c = ' ' ∨ c = '\t' ∨ c = '\n') :
      IsTypePlace file place

/-- The text of a file writes a name only as a type, as far as the search can tell: each place where the name is
written is a word of its own, no word has a blank in it and no comment ends like a dash, and the brackets inside a
bracket for types are all named `either`, which is not the name. -/
structure WritesPlainly (file : SourceFile) (name : String) : Prop where
  whole : ∀ place, IsWritten file.document.chars name place →
    ∃ t ∈ Token.scan file.document.chars, t.start = place ∧ sameName t.text name = true
  unspaced : ∀ t ∈ Token.scan file.document.chars, t.kind.isWord = true → ∀ c ∈ t.text.toList, isBlank c = false
  remarks : ∀ t ∈ Token.scan file.document.chars, t.kind = .comment →
    precededByDash t.text.toList (width t.text.toList) = false
  flat : ∀ outer ∈ file.typeBrackets, ∀ inner ∈ file.tree.brackets, outer.span.start < inner.span.start →
    inner.span.stop ≤ outer.span.stop → inner.hasName "either" = true
  other : sameName name "either" = false

variable {file : SourceFile} {name : String} {t : Token}

theorem mem_typeBrackets_iff {b : Node} : b ∈ file.typeBrackets ↔ b ∈ file.tree.brackets ∧
    (b.hasName "either" = true ∨ file.isDomain = true ∧ file.tree.typesSection? = some b) := by
  rw [typeBrackets, List.mem_append, List.mem_filter]
  constructor
  · rintro (⟨member, named⟩ | isSection)
    · exact ⟨member, .inl named⟩
    · split at isSection
      · rename_i isDomain
        have isSection := Option.mem_toList.mp isSection
        exact ⟨(Tree.mem_brackets_of_typesSection? isSection).1, .inr ⟨isDomain, isSection⟩⟩
      · cases isSection
  · rintro ⟨member, named | ⟨isDomain, isSection⟩⟩
    · exact .inl ⟨member, named⟩
    · right
      rw [if_pos isDomain]
      exact Option.mem_toList.mpr isSection

theorem isTypePlace_of_holds {b : Node} (member : b ∈ file.typeBrackets) {place : Nat}
    (holds : b.holds place = true) (before : place < b.span.stop) : file.IsTypePlace place := by
  obtain ⟨isListed, named | ⟨isDomain, isSection⟩⟩ := mem_typeBrackets_iff.mp member
  · exact .inEither isListed named holds
  · have isBracket := (List.mem_filter.mp isListed).2
    exact .inSection isDomain isSection (Nat.le_of_lt ((Node.holds_iff isBracket).mp holds).1) before

section

variable (isTree : file.tree = Tree.build file.document.chars)
include isTree

theorem IsTypeToken.mem_scan (isType : file.IsTypeToken t) : t ∈ Token.scan file.document.chars := by
  cases isType with
  | @argument b id member isArgument =>
    have isListed := (mem_typeBrackets_iff.mp member).1
    have isNode := Tree.mem_nodes_of_mem_arguments (List.mem_of_mem_filter isListed) isArgument
    obtain ⟨⟨_, q⟩, isNode, same⟩ := List.mem_map.mp isNode
    cases same
    rw [isTree, Tree.mem_nodes_build] at isNode
    obtain ⟨same, _⟩ | isLeaf := isNode
    · cases same
    · exact Tree.mem_scan_of_leaf isLeaf
  | afterDash whole => simp [whole]

theorem IsTypeToken.isTypePlace (apart : DashesStandApart file.document.chars) (isType : file.IsTypeToken t) :
    file.IsTypePlace t.start := by
  obtain ⟨_, _, _, _, leads, _⟩ := Token.mem_scan (isType.mem_scan isTree)
  have nonempty := width_pos leads.text_ne_nil
  cases isType with
  | @argument b id member isArgument =>
    have isListed := (mem_typeBrackets_iff.mp member).1
    rw [isTree] at isListed
    have isChild := Node.mem_children_of_mem_arguments isArgument
    have bounds : _ ∧ _ ∧ t.start + width t.text.toList ≤ _ ∧ _ := Tree.bounds_of_mem_children isListed isChild
    exact isTypePlace_of_holds member (Tree.holds_of_mem_children isListed isChild) (by omega)
  | afterDash whole isDash skipped =>
    obtain ⟨lead, blanks, taken, areBlank, alone⟩ :=
      precededByDash_iff.mp (apart.precededByDash whole isDash skipped)
    exact .afterDash taken areBlank alone

theorem WritesPlainly.argument (plain : file.WritesPlainly name) (notKeyword : sameName name ":types" = false)
    (member : t ∈ Token.scan file.document.chars) (isWord : t.kind.isWord = true) (same : sameName t.text name = true)
    {b : Node} (isType : b ∈ file.typeBrackets) (after : b.span.start ≤ t.start) (before : t.start ≤ b.span.stop)
    (inside : b.isClosed = true → t.start < b.span.stop) : file.IsTypeToken t := by
  have isListed := (mem_typeBrackets_iff.mp isType).1
  rw [isTree] at isListed
  obtain ⟨id, q, isLeaf⟩ := Tree.leaf_of_mem_scan member isWord
  obtain ⟨p, isParent, isChild, place⟩ := Tree.parent_of_leaf isListed isLeaf after before inside
  rw [← isTree] at isParent
  have isParentType : p ∈ file.typeBrackets := by
    rcases place with rfl | ⟨later, earlier⟩
    · exact isType
    · exact mem_typeBrackets_iff.mpr ⟨isParent, .inl (plain.flat b isType p isParent later earlier)⟩
  have notComment : t.kind ≠ .comment := by
    intro isComment
    rw [isComment] at isWord
    cases isWord
  have isTerminal : (Node.leaf id t).terminal? = some t := by rw [Node.terminal?, if_neg notComment]
  refine .argument isParentType (Node.mem_arguments (List.mem_filter.mp isParent).2 isChild ?_ ?_)
  · simpa [Node.isComment] using notComment
  · -- neither of the two names is the one that is searched for
    intro isName
    rw [isTerminal] at isName
    have hasName (other : String) : p.hasName other = sameName name other := by
      rw [Node.hasName, Node.name?, ← isName, Option.map_some, Option.any_some, sameName, sameName_iff.mp same,
        ← sameName]
    obtain ⟨_, named | ⟨_, isSection⟩⟩ := mem_typeBrackets_iff.mp isParentType
    · rw [hasName, plain.other] at named
      cases named
    · have named := (Tree.mem_brackets_of_typesSection? isSection).2
      rw [hasName, notKeyword] at named
      cases named

theorem WritesPlainly.isTypeToken (plain : file.WritesPlainly name) (notKeyword : sameName name ":types" = false)
    (member : t ∈ Token.scan file.document.chars) (isWord : t.kind.isWord = true) (same : sameName t.text name = true)
    (isType : file.IsTypePlace t.start) : file.IsTypeToken t := by
  cases isType with
  | inSection isDomain isSection after before =>
    have isListed := (Tree.mem_brackets_of_typesSection? isSection).1
    exact plain.argument isTree notKeyword member isWord same
      (mem_typeBrackets_iff.mpr ⟨isListed, .inr ⟨isDomain, isSection⟩⟩) after (Nat.le_of_lt before) fun _ => before
  | inEither isListed named holds =>
    obtain ⟨after, before, inside⟩ := (Node.holds_iff (List.mem_filter.mp isListed).2).mp holds
    exact plain.argument isTree notKeyword member isWord same (mem_typeBrackets_iff.mpr ⟨isListed, .inl named⟩)
      (Nat.le_of_lt after) before inside
  | afterDash taken areBlank alone =>
    obtain ⟨earlier, dash, blanks, later, whole, isDash, areBlank⟩ := Token.dash_of_precededByDash member
      plain.unspaced plain.remarks (precededByDash_iff.mpr ⟨_, _, taken, areBlank, alone⟩)
    exact .afterDash whole isDash fun u isBlank => .inl (areBlank u isBlank)

end

end SourceFile

namespace Symbol

theorem sameName_types_of_isValidName {name : String} (valid : isValidName name = true) :
    sameName name ":types" = false := by
  obtain ⟨first, rest, spelled, isAlpha, _⟩ := isValidName_cases valid
  rw [← Bool.not_eq_true, sameName_iff_map, spelled]
  intro same
  have isColon : first.toLower = ':' := (List.cons.inj same).1
  rw [toLower_eq_iff (by decide)] at isColon
  rw [isColon] at isAlpha
  exact absurd isAlpha (by decide)

theorem insideEither_iff {file : SourceFile} (isTree : file.tree = Tree.build file.document.chars) {place : Nat} :
    insideEither file place = true ↔
      ∃ b ∈ file.tree.brackets, b.hasName "either" = true ∧ b.holds place = true := by
  simp only [insideEither, List.any_eq_true, Bool.and_eq_true, isTree]
  constructor
  · rintro ⟨b, isCrumb, isBracket, named⟩
    obtain ⟨member, holds⟩ := (Tree.mem_breadcrumbs_iff isBracket).mp isCrumb
    exact ⟨b, member, named, holds⟩
  · rintro ⟨b, member, named, holds⟩
    have isBracket := (Tree.mem_brackets_iff.mp member).1
    exact ⟨b, (Tree.mem_breadcrumbs_iff isBracket).mpr ⟨member, holds⟩, isBracket, named⟩

theorem isInContext_type_iff {symbol : Symbol} (isType : symbol.kind = .type) {d : Domain} {file : SourceFile}
    (isTree : file.tree = Tree.build file.document.chars)
    (types : file.isDomain = true → d.sections.types = file.tree.typesSection?.map Node.span) {place : Nat} :
    isInContext symbol d file place = true ↔ file.IsTypePlace place := by
  simp only [isInContext, isType, Bool.or_eq_true, Bool.and_eq_true, insideEither_iff isTree, precededByDash_iff]
  constructor
  · rintro ((⟨lead, blanks, taken, areBlank, alone⟩ | ⟨b, member, named, holds⟩) | ⟨isDomain, inSection⟩)
    · exact .afterDash taken areBlank alone
    · exact .inEither member named holds
    · rw [inTypesSection, types isDomain, Option.any_map, Option.any_eq_true] at inSection
      obtain ⟨part, isSection, inside⟩ := inSection
      simp only [Bool.and_eq_true, decide_eq_true_eq] at inside
      exact .inSection isDomain isSection inside.1 inside.2
  · rintro (⟨isDomain, isSection, after, before⟩ | ⟨member, named, holds⟩ | ⟨taken, areBlank, alone⟩)
    · right
      rw [inTypesSection, types isDomain, isSection]
      exact ⟨isDomain, by simp [after, before]⟩
    · exact .inl (.inr ⟨_, member, named, holds⟩)
    · exact .inl (.inl ⟨_, _, taken, areBlank, alone⟩)

theorem mem_occurrences_of_isWritten {cs : List Char} {name : String} (nonempty : name.toList ≠ [])
    (identifier : ∀ c ∈ name.toList, isIdentifierChar c = true) {place : Nat} (isWritten : IsWritten cs name place) :
    ⟨place, place + width name.toList⟩ ∈ occurrences cs ⟨0, width cs⟩ name := by
  refine (mem_occurrences_iff nonempty identifier (Nat.le_refl _)).mpr ⟨isWritten, rfl, Nat.zero_le _, ?_⟩
  obtain ⟨before, written, after, whole, rfl, same, _⟩ := isWritten
  rw [← width_of_map_toLower same]
  simp only [whole, width_append]
  omega

theorem mem_placesWhere_iff_isWritten {document : Document} {name : String} (nonempty : name.toList ≠ [])
    (identifier : ∀ c ∈ name.toList, isIdentifierChar c = true) {keep : Nat → Bool} {range : Range} :
    range ∈ placesWhere document name keep ↔ ∃ place, IsWritten document.chars name place ∧ keep place = true ∧
      range = document.rangeOf ⟨place, place + width name.toList⟩ := by
  have within : (⟨0, document.size⟩ : Span).stop ≤ width document.chars := Nat.le_refl _
  simp only [placesWhere, List.mem_map, List.mem_filter, mem_occurrences_iff nonempty identifier within]
  constructor
  · rintro ⟨span, ⟨⟨isWritten, isStop, _⟩, kept⟩, rfl⟩
    exact ⟨span.start, isWritten, kept, by rw [← isStop]⟩
  · rintro ⟨place, isWritten, kept, rfl⟩
    have found := mem_occurrences_of_isWritten nonempty identifier isWritten
    exact ⟨_, ⟨(mem_occurrences_iff nonempty identifier within).mp found, kept⟩, rfl⟩

/-- The references of a type are the places where its name is written and that look like the place of a type. In a text
that keeps dashes apart every token that stands for the type is among them, and in a text that writes the name plainly
nothing else is. -/
theorem type_references_iff {w : Workspace} (reachable : w.Reachable) {symbol : Symbol} (isType : symbol.kind = .type)
    {domainFile : SourceFile} (found : w.find? symbol.domainUri = some domainFile)
    (isDomain : domainFile.isDomain = true) (valid : isValidName symbol.name = true)
    (read : ∀ file ∈ domainFile :: w.problemFiles symbol.domainUri,
      file.status ≠ .dirty ∧ Directive.ofText? file.document.chars = none) :
    (∀ location, location ∈ references w symbol true ↔
      ∃ file ∈ domainFile :: w.problemFiles symbol.domainUri, ∃ place,
        IsWritten file.document.chars symbol.name place ∧ file.IsTypePlace place ∧
        location = ⟨file.uri, file.document.rangeOf ⟨place, place + width symbol.name.toList⟩⟩) ∧
      ∀ file ∈ domainFile :: w.problemFiles symbol.domainUri,
        (DashesStandApart file.document.chars → ∀ t, file.IsTypeToken t → sameName t.text symbol.name = true →
          ⟨file.uri, file.document.rangeOf t.span⟩ ∈ references w symbol true) ∧
        (file.WritesPlainly symbol.name → ∀ range, ⟨file.uri, range⟩ ∈ references w symbol true →
          ∃ t, file.IsTypeToken t ∧ sameName t.text symbol.name = true ∧ range = file.document.rangeOf t.span) := by
  have keeps := reachable.keeps Workspace.lasting_isReading
  have family : w.family symbol.domainUri = domainFile :: w.problemFiles symbol.domainUri := by
    rw [Workspace.family, found]
    rfl
  obtain ⟨d, isKnown⟩ := SourceFile.isDomain_iff.mp isDomain
  have identifier := isIdentifierChar_of_isValidName valid
  have nonempty : symbol.name.toList ≠ [] := by
    obtain ⟨_, _, spelled, _⟩ := isValidName_cases valid
    simp [spelled]
  have notKeyword := sameName_types_of_isValidName valid
  have reading : ∀ file ∈ domainFile :: w.problemFiles symbol.domainUri, file.IsReading := by
    intro file member
    exact keeps.find? (keeps.find?_of_mem_family (family ▸ member)) (read file member).1
  have inContext : ∀ file ∈ domainFile :: w.problemFiles symbol.domainUri, ∀ place,
      isInContext symbol d file place = true ↔ file.IsTypePlace place := by
    intro file member place
    refine isInContext_type_iff isType (reading file member).tree fun isDomainFile => ?_
    rcases List.mem_cons.mp member with rfl | isProblem
    · obtain ⟨issues, isRead⟩ := (reading _ member).ofTree? (read _ member).2 isKnown
      have types := Domain.types_ofTree? isRead
      rw [(reading _ member).tree]
      exact types
    · obtain ⟨_, p, isProblem, _⟩ := (Workspace.mem_problemFiles_iff found isKnown).mp isProblem
      obtain ⟨_, isDomain'⟩ := SourceFile.isDomain_iff.mp isDomainFile
      rw [SourceFile.problem?, SourceFile.kind_of_domain? isDomain'] at isProblem
      cases isProblem
  have places : ∀ file ∈ domainFile :: w.problemFiles symbol.domainUri, ∀ range,
      range ∈ placesWhere file.document symbol.name (isInContext symbol d file) ↔
        ∃ place, IsWritten file.document.chars symbol.name place ∧ file.IsTypePlace place ∧
          range = file.document.rangeOf ⟨place, place + width symbol.name.toList⟩ := by
    intro file member range
    simp only [mem_placesWhere_iff_isWritten nonempty identifier, inContext file member]
  have isListed := references_renameable (by rw [isType]; rfl) found isKnown
  refine ⟨fun location => ?_, fun file member => ⟨fun apart t isToken same => ?_, fun plain range isReference => ?_⟩⟩
  · simp only [isListed, family, List.mem_flatMap, List.mem_map]
    constructor
    · rintro ⟨file, member, range, isPlace, rfl⟩
      obtain ⟨place, isWritten, isTypePlace, rfl⟩ := (places file member range).mp isPlace
      exact ⟨file, member, place, isWritten, isTypePlace, rfl⟩
    · rintro ⟨file, member, place, isWritten, isTypePlace, rfl⟩
      exact ⟨file, member, _, (places file member _).mpr ⟨place, isWritten, isTypePlace, rfl⟩, rfl⟩
  · have isTree := (reading file member).tree
    have found := occurrence_of_mem_scan nonempty identifier (isToken.mem_scan isTree) same
    have isWritten := ((mem_occurrences_iff nonempty identifier (Nat.le_refl _)).mp found).1
    rw [isListed, mem_locations_iff keeps.toOrderly (family ▸ member)]
    refine (places file member _).mpr ⟨t.start, isWritten, isToken.isTypePlace isTree apart, ?_⟩
    rw [Token.span, Token.stop, width_of_map_toLower (sameName_iff_map.mp same)]
  · rw [isListed, mem_locations_iff keeps.toOrderly (family ▸ member)] at isReference
    obtain ⟨place, isWritten, isTypePlace, rfl⟩ := (places file member range).mp isReference
    obtain ⟨t, isScanned, rfl, same⟩ := plain.whole place isWritten
    obtain ⟨_, _, _, _, leads, _⟩ := Token.mem_scan isScanned
    have isWord := isWord_of_sameName identifier leads same
    refine ⟨t, ?_, same, ?_⟩
    · exact plain.isTypeToken (reading file member).tree notKeyword isScanned isWord same isTypePlace
    · rw [Token.span, Token.stop, width_of_map_toLower (sameName_iff_map.mp same)]

theorem type_references_iff_either :
    let reader : FileReader := ⟨0, {}, fun _ => .error (.path .missing)⟩
    let domainUri : Uri := { scheme := "file", authority := some {}, path := "/w/d.pddl" }
    let problemUri : Uri := { scheme := "file", authority := some {}, path := "/w/p.pddl" }
    let ds := "(define (domain d) (:types Truck van) ; - truck\n(:predicates (in ?x - (either van TRUCK))))".toList
    let ps := "(define (problem p) (:domain d) (:objects a -\n\ttruck ; truck\ntruck - van))".toList
    let w := Workspace.run { reader } [.upsert domainUri 1 ds, .upsert problemUri 1 ps]
    ∃ symbol domainFile problemFile, (at? w problemUri ⟨1, 3⟩).1 = some symbol ∧ symbol.name = "Truck" ∧
      w.find? symbol.domainUri = some domainFile ∧ w.problemFiles symbol.domainUri = [problemFile] ∧
      (references w symbol true).map (·.range.start) = [⟨0, 27⟩, ⟨1, 34⟩, ⟨1, 1⟩] ∧
      ∀ file ∈ [domainFile, problemFile], ∀ range, ⟨file.uri, range⟩ ∈ references w symbol true ↔
        ∃ t, file.IsTypeToken t ∧ sameName t.text symbol.name = true ∧ range = file.document.rangeOf t.span := by
  intro reader domainUri problemUri ds ps w
  -- the texts are spelled out first: to decode them takes most of the time
  have known : (at? w problemUri ⟨1, 3⟩).1.map (fun symbol =>
      (symbol.kind, symbol.name, symbol.domainUri, (references w symbol true).map (·.range.start))) =
        some (.type, "Truck", domainUri, [⟨0, 27⟩, ⟨1, 34⟩, ⟨1, 1⟩]) := by
    simp only [w, ds, ps, String.reduceToList]
    decide +kernel
  have ready : (w.find? domainUri).any (·.isDomain) = true ∧ (w.problemFiles domainUri).length = 1 ∧
      ∀ file ∈ w.family domainUri, file.status ≠ .dirty ∧ file.document.chars ∈ [ds, ps] := by
    simp only [w, ds, ps, String.reduceToList]
    decide +kernel
  have flat : ∀ file ∈ w.family domainUri, ∀ outer ∈ file.typeBrackets, ∀ inner ∈ file.tree.brackets,
      outer.span.start < inner.span.start → inner.span.stop ≤ outer.span.stop →
        inner.hasName "either" = true := by
    simp only [w, ds, ps, String.reduceToList]
    decide +kernel
  have apart : ∀ cs ∈ [ds, ps], Directive.ofText? cs = none ∧ DashesStandApart cs := by
    simp only [ds, ps, String.reduceToList]
    decide +kernel
  have plain : ∀ cs ∈ [ds, ps],
      (∀ span ∈ occurrences cs ⟨0, width cs⟩ "Truck",
        ∃ t ∈ Token.scan cs, t.start = span.start ∧ sameName t.text "Truck" = true) ∧
      (∀ t ∈ Token.scan cs, t.kind.isWord = true → t.text.toList.any isBlank = false) ∧
      ∀ t ∈ Token.scan cs, t.kind = .comment → precededByDash t.text.toList (width t.text.toList) = false := by
    simp only [ds, ps, String.reduceToList]
    decide +kernel
  have reachable : w.Reachable := ⟨reader, _, by decide, rfl⟩
  clear_value w ds ps
  obtain ⟨symbol, isSymbol, same⟩ := Option.map_eq_some_iff.mp known
  obtain ⟨isType, isName, isUri, starts⟩ :
      symbol.kind = _ ∧ symbol.name = _ ∧ symbol.domainUri = _ ∧ List.map _ _ = _ := by simpa using same
  obtain ⟨isKnown, single, texts⟩ := ready
  obtain ⟨domainFile, found, isDomain⟩ := (Option.any_eq_true _ _).mp isKnown
  obtain ⟨problemFile, isSingle⟩ := List.length_eq_one_iff.mp single
  have family : w.family domainUri = [domainFile, problemFile] := by
    rw [Workspace.family, found, isSingle]
    rfl
  rw [family] at texts flat
  rw [← isUri] at found isSingle
  have read : ∀ file ∈ domainFile :: w.problemFiles symbol.domainUri,
      file.status ≠ .dirty ∧ Directive.ofText? file.document.chars = none := by
    rw [isSingle]
    exact fun file member => ⟨(texts file member).1, (apart _ (texts file member).2).1⟩
  have valid : isValidName symbol.name = true := by
    rw [isName]
    decide
  obtain ⟨-, each⟩ := type_references_iff reachable isType found isDomain valid read
  rw [isSingle] at each
  refine ⟨symbol, domainFile, problemFile, isSymbol, isName, found, isSingle, starts, fun file member range => ?_⟩
  obtain ⟨found, only⟩ := each file member
  have isText := (texts file member).2
  obtain ⟨written, unspaced, remarks⟩ := plain _ isText
  have writesPlainly : file.WritesPlainly symbol.name := by
    rw [isName]
    refine ⟨fun place isWritten => ?_, fun t member isWord => ?_, remarks, flat file member, by decide⟩
    · have identifier := isIdentifierChar_of_isValidName (by decide : isValidName "Truck" = true)
      exact written _ (mem_occurrences_of_isWritten (by decide) identifier isWritten)
    · simpa using unspaced t member isWord
  constructor
  · exact only writesPlainly range
  · rintro ⟨t, isToken, same, rfl⟩
    exact found (apart _ isText).2 t isToken same

/-- A comment after the dash hides a type that the domain is read with. -/
theorem type_is_hidden_by_comment :
    let reader : FileReader := ⟨0, {}, fun _ => .error (.path .missing)⟩
    let uri : Uri := { scheme := "file", authority := some {}, path := "/w/d.pddl" }
    let cs := "(define (domain d) (:types loc) (:constants depot - ; place\n loc))".toList
    let w := Workspace.run { reader } [.upsert uri 1 cs]
    (at? w uri ⟨0, 27⟩).1.map (fun symbol => (symbol.kind, symbol.name, symbol.domainUri, isValidName symbol.name,
        references w symbol true)) = some (.type, "loc", uri, true, [⟨uri, ⟨⟨0, 27⟩, ⟨0, 30⟩⟩⟩]) ∧
      ∃ file, w.find? uri = some file ∧ file.status = .parsed ∧ Directive.ofText? file.document.chars = none ∧
        file.domain?.map (·.constants) = some [⟨"loc", ["depot"]⟩] ∧
        ∃ t, file.IsTypeToken t ∧ t.text = "loc" ∧ file.document.rangeOf t.span = ⟨⟨1, 1⟩, ⟨1, 4⟩⟩ := by
  intro reader uri cs w
  have known : (at? w uri ⟨0, 27⟩).1.map (fun symbol => (symbol.kind, symbol.name, symbol.domainUri,
      isValidName symbol.name, references w symbol true)) =
        some (.type, "loc", uri, true, [⟨uri, ⟨⟨0, 27⟩, ⟨0, 30⟩⟩⟩]) := by
    simp only [w, cs, String.reduceToList]
    decide +kernel
  have read : (w.find? uri).map (fun file => (file.status, file.document, file.domain?.map (·.constants))) =
      some (.parsed, ⟨cs⟩, some [⟨"loc", ["depot"]⟩]) := by
    simp only [w, cs, String.reduceToList]
    decide +kernel
  have plain : (Directive.ofText? cs).isNone = true := by
    simp only [cs, String.reduceToList]
    decide +kernel
  have around : ((Token.scan cs).drop 20).take 5 = ⟨.dash, "-", 50⟩ ::
      ([⟨.blank, " ", 51⟩, ⟨.comment, "; place", 52⟩, ⟨.blank, "\n ", 59⟩] ++ [⟨.word, "loc", 61⟩]) := by
    simp only [cs, String.reduceToList]
    decide +kernel
  have range : Document.rangeOf ⟨cs⟩ ⟨61, 64⟩ = ⟨⟨1, 1⟩, ⟨1, 4⟩⟩ := by
    simp only [cs, String.reduceToList]
    decide +kernel
  clear_value w cs
  obtain ⟨file, found, same⟩ := Option.map_eq_some_iff.mp read
  simp only [Prod.mk.injEq] at same
  obtain ⟨parsed, isDocument, constants⟩ := same
  have whole : Token.scan cs = (Token.scan cs).take 20 ++
      (((Token.scan cs).drop 20).take 5 ++ ((Token.scan cs).drop 20).drop 5) := by
    rw [List.take_append_drop, List.take_append_drop]
  rw [around, List.cons_append, List.append_assoc] at whole
  refine ⟨known, file, found, parsed, ?_, constants, ⟨.word, "loc", 61⟩, ?_, rfl, by rwa [isDocument]⟩
  · rw [isDocument]
    exact Option.isNone_iff_eq_none.mp plain
  · rw [← show file.document.chars = cs by rw [isDocument]] at whole
    exact .afterDash whole rfl (by simp)

end Symbol
end PddlAssist
