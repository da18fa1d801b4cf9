import PddlAssist.Proofs.Symbol.Facts
import PddlAssist.Proofs.Symbol.Lookup
import PddlAssist.Proofs.Symbol.Tear

namespace PddlAssist

open Text

theorem Symbol.isSymbolChar_plain {c : Char} (isSymbol : Symbol.isSymbolChar c = true) : c ≠ ';' ∧ c ≠ '\n' :=
  (Token.isWordChar_cases (isWordChar_of_isIdentifierChar (isIdentifierChar_of_isSymbolChar isSymbol))).2

theorem Text.takeBytes_append_left {left : List Char} {n : Nat} (within : n ≤ width left) (right : List Char) :
    takeBytes n (left ++ right) = takeBytes n left := by
  induction left generalizing n with
  | nil =>
    obtain rfl : n = 0 := by simpa using within
    exact takeBytes_width [] right
  | cons c left ih =>
    rw [width_cons] at within
    rw [List.cons_append, takeBytes, takeBytes]
    split
    · rw [ih (by omega)]
    · rfl

theorem Text.takeBytes_append_right (left right : List Char) (n : Nat) :
    takeBytes (width left + n) (left ++ right) = left ++ takeBytes n right := by
  induction left with
  | nil => simp
  | cons c left ih =>
    have passed : c.utf8Size ≤ width (c :: left) + n := by
      rw [width_cons]
      omega
    have rest : width (c :: left) + n - c.utf8Size = width left + n := by
      rw [width_cons]
      omega
    rw [List.cons_append, takeBytes, if_pos passed, rest, ih, List.cons_append]

theorem Text.width_reverse (cs : List Char) : width cs.reverse = width cs := by
  induction cs with
  | nil => rfl
  | cons c cs ih => simp [ih, Nat.add_comm]

theorem Text.slice_middle (before word after : List Char) :
    slice (before ++ (word ++ after)) ⟨width before, width before + width word⟩ = word := by
  rw [slice, dropBytes_width, Nat.add_sub_cancel_left, takeBytes_width]

theorem isCommented_inside {before word after : List Char} (plain : ∀ c ∈ word, c ≠ ';' ∧ c ≠ '\n')
    (uncommented : before.foldl commentedAfter false = false) {offset : Nat} (first : width before ≤ offset)
    (last : offset ≤ width before + width word) : isCommented (before ++ (word ++ after)) offset = false := by
  obtain ⟨n, rfl⟩ := Nat.exists_eq_add_of_le first
  have inside : takeBytes n (word ++ after) = takeBytes n word := takeBytes_append_left (by omega) after
  rw [isCommented, takeBytes_append_right, List.foldl_append, inside, uncommented]
  refine Token.commentedAfter_plain (fun c member => plain c ?_) false
  rw [← takeBytes_append_dropBytes n word]
  exact List.mem_append_left _ member

section

variable {name : String} {cs : List Char}

structure ReplacedAt (document : Document) (name newName : String) (edit : TextEdit) (span : Span) : Prop where
  place : document.spanOf? edit.range = some span
  newText : edit.newText = newName
  nonempty : span.start < span.stop
  text : sameName (String.ofList (slice document.chars span)) name = true
  uncommented : ∀ offset, span.start ≤ offset → offset ≤ span.stop → isCommented document.chars offset = false

def Replaces (document : Document) (name newName : String) (edits : List TextEdit) : Prop :=
  ∃ spans, List.Forall₂ (ReplacedAt document name newName) edits spans ∧
    spans.Pairwise fun left right => left.stop ≤ right.start

theorem replaces_placesWhere (document : Document) (identifier : ∀ c ∈ name.toList, isIdentifierChar c = true)
    (newName : String) (keep : Nat → Bool) :
    Replaces document name newName ((Symbol.placesWhere document name keep).map fun range => ⟨range, newName⟩) := by
  refine ⟨(occurrences document.chars ⟨0, document.size⟩ name).filter (keep ·.start), ?_,
    (occurrences_disjoint _ _ _).filter _⟩
  rw [Symbol.placesWhere, List.map_map, List.forall₂_map_left_iff, List.forall₂_same]
  intro span kept
  have isFound := List.mem_of_mem_filter kept
  have nonempty := ne_nil_of_mem_occurrences isFound
  obtain ⟨before, after, whole, starts, -, -, uncommented, rfl⟩ := (mem_occurrences nonempty identifier).mp isFound
  obtain ⟨written, rest, rfl, same⟩ := startsWithName_cases starts
  obtain rfl : document = ⟨before ++ (written ++ rest)⟩ := congrArg Document.mk whole
  have plain : ∀ c ∈ written, c ≠ ';' ∧ c ≠ '\n' := fun c member =>
    (Token.isWordChar_cases (isWordChar_of_isIdentifierChar
      (isIdentifierChar_of_map_toLower same identifier c member))).2
  rw [← width_of_map_toLower same]
  refine ⟨Document.spanOf?_rangeOf before written rest, rfl, ?_, ?_, ?_⟩
  · refine Nat.lt_add_of_pos_right (width_pos ?_)
    rintro rfl
    exact nonempty (List.map_eq_nil_iff.mp same.symm)
  · rw [slice_middle, Symbol.sameName_iff_map, String.toList_ofList, same]
  · exact fun offset first last => isCommented_inside plain uncommented first last

end

namespace Symbol

structure IsWord (cs : List Char) (span : Span) (before word after : List Char) : Prop where
  whole : cs = before ++ (word ++ after)
  place : span = ⟨width before, width before + width word⟩
  nonempty : word ≠ []
  symbols : ∀ c ∈ word, isSymbolChar c = true
  begins : ∀ c ∈ before.getLast?, isSymbolChar c = false ∧ c ≠ '?' ∧ c ≠ ':'
  ends : ∀ c ∈ after.head?, isSymbolChar c = false

theorem wordAt?_eq_some {cs : List Char} {offset : Nat} {span : Span} (found : wordAt? cs offset = some span) :
    ∃ before left right after, IsWord cs span before (left ++ right) after ∧ takeBytes offset cs = before ++ left := by
  have isFront := List.takeWhile_append_dropWhile (p := isSymbolChar) (l := (takeBytes offset cs).reverse)
  have isBack := List.takeWhile_append_dropWhile (p := isSymbolChar) (l := dropBytes offset cs)
  have whole := takeBytes_append_dropBytes offset cs
  have begins := head?_dropWhile_stop (p := isSymbolChar) (takeBytes offset cs).reverse
  have ends := head?_dropWhile_stop (p := isSymbolChar) (dropBytes offset cs)
  have leftSymbols : ∀ c ∈ (takeBytes offset cs).reverse.takeWhile isSymbolChar, isSymbolChar c = true :=
    fun c member => List.mem_takeWhile_imp member
  have rightSymbols : ∀ c ∈ (dropBytes offset cs).takeWhile isSymbolChar, isSymbolChar c = true :=
    fun c member => List.mem_takeWhile_imp member
  simp only [wordAt?] at found
  generalize (takeBytes offset cs).reverse.takeWhile isSymbolChar = left at *
  generalize (dropBytes offset cs).takeWhile isSymbolChar = right at *
  generalize (takeBytes offset cs).reverse.dropWhile isSymbolChar = front at *
  generalize (dropBytes offset cs).dropWhile isSymbolChar = after at *
  -- the text in front of the offset is read backwards
  have isTaken : takeBytes offset cs = front.reverse ++ left.reverse := by
    rw [← List.reverse_append, isFront, List.reverse_reverse]
  rw [← isFront, List.drop_left, isTaken] at found
  split at found
  · cases found
  · rename_i touched
    split at found
    · cases found
    · cases found
    · rename_i notParameter notKeyword
      refine ⟨front.reverse, left.reverse, right, after, ⟨?_, ?_, ?_, ?_, ?_, ends⟩, isTaken⟩
      · rw [← whole, ← isBack, isTaken, List.append_assoc, List.append_assoc]
      · rw [← Option.some.inj found, width_append, width_reverse left, Nat.add_sub_cancel, width_append,
          width_reverse left, Nat.add_assoc]
      · simpa [List.isEmpty_iff] using touched
      · rw [List.forall_mem_append]
        exact ⟨by simpa using leftSymbols, rightSymbols⟩
      · intro c last
        rw [List.getLast?_reverse] at last
        obtain ⟨rest, rfl⟩ := List.head?_eq_some_iff.mp last
        exact ⟨begins c rfl, fun same => notParameter rest (same ▸ rfl), fun same => notKeyword rest (same ▸ rfl)⟩

theorem IsWord.mem_occurrences {cs : List Char} {span : Span} {before word after : List Char}
    (isWord : IsWord cs span before word after) (uncommented : before.foldl commentedAfter false = false)
    (alone : before.getLast? ≠ some '.' ∧ ∀ c ∈ after.head?, c ≠ '.' ∧ c ≠ '?' ∧ c ≠ ':') {name : String}
    (same : sameName (String.ofList word) name = true) : span ∈ occurrences cs ⟨0, width cs⟩ name := by
  rw [sameName_iff_map, String.toList_ofList] at same
  have long : word.length = name.toList.length := by simpa using congrArg List.length same
  have nonempty : name.toList ≠ [] := by
    intro empty
    rw [empty, List.map_nil, List.map_eq_nil_iff] at same
    exact isWord.nonempty same
  have identifier : ∀ c ∈ name.toList, isIdentifierChar c = true :=
    isIdentifierChar_of_map_toLower same.symm fun c member =>
      isIdentifierChar_of_isSymbolChar (isWord.symbols c member)
  have apart {c : Char} (notSymbol : isSymbolChar c = false) (others : c ≠ '.' ∧ c ≠ '?' ∧ c ≠ ':') :
      isIdentifierChar c = false := by
    simp only [isSymbolChar, Bool.or_eq_false_iff] at notSymbol
    simp [isIdentifierChar, notSymbol, others]
  refine (PddlAssist.mem_occurrences nonempty identifier).mpr ⟨before, word ++ after, isWord.whole,
    startsWithName_append same after, ?_, ?_, uncommented, ?_⟩
  · cases last : before.getLast? with
    | none => rfl
    | some c =>
      obtain ⟨notSymbol, notParameter, notKeyword⟩ := isWord.begins c last
      exact apart notSymbol ⟨fun isDot => alone.1 (isDot ▸ last), notParameter, notKeyword⟩
  · rw [← long, List.drop_left]
    cases first : after.head? with
    | none => rfl
    | some c => exact apart (isWord.ends c first) (alone.2 c first)
  · rw [isWord.place, width_of_map_toLower same]

/-- The words that are taken for a symbol of a domain in a file. -/
def isInContext (symbol : Symbol) (d : Domain) (file : SourceFile) (offset : Nat) : Bool :=
  match symbol.kind with
  | .variable _ => namesVariable file offset
  | .type =>
    precededByDash file.document.chars offset || insideEither file offset ||
      (file.isDomain && inTypesSection d offset)
  | .action _ => false

section

variable {symbol : Symbol} {d : Domain} {file : SourceFile}

theorem placesIn_renameable (renameable : symbol.kind.isRenameable = true)
    (bound : file.isDomain = true ∨ file.isProblem = true) :
    placesIn symbol d file = placesWhere file.document symbol.name (isInContext symbol d file) := by
  simp only [SourceFile.isDomain, SourceFile.domain?, SourceFile.isProblem, SourceFile.problem?] at bound
  unfold placesIn isInContext
  generalize symbol.kind = kind at renameable
  rcases kind with _ | _ | _
  · cases isKind : file.kind <;> simp_all
  · cases isKind : file.kind with
    | domain d' =>
      simp only [SourceFile.isDomain, SourceFile.domain?, isKind, Option.isSome_some, Bool.true_and]
      congr 1
      funext offset
      rw [Bool.or_assoc, Bool.or_assoc, Bool.or_comm (insideEither file offset)]
    | problem => simp [SourceFile.isDomain, SourceFile.domain?, isKind]
    | plan | happenings | unknown => simp [isKind] at bound
  · cases renameable

theorem meaning?_cases {span : Span} {meaning : Meaning} (isMeaning : meaning? file d span = some meaning) :
    (∃ n var, meaning = .variable n var ∧ sameName var.name (String.ofList (slice file.document.chars span)) = true ∧
        namesVariable file span.start = true) ∨
      (∃ name, meaning = .type name ∧ sameName name (String.ofList (slice file.document.chars span)) = true ∧
        (precededByDash file.document.chars span.start || insideEither file span.start ||
          (file.isDomain && inTypesSection d span.start)) = true) ∨
      ∃ action, meaning = .action action := by
  simp only [meaning?] at isMeaning
  generalize String.ofList (slice file.document.chars span) = word at *
  split at isMeaning
  case h_1 found isFound =>
    cases isMeaning
    rcases Option.or_eq_some_iff.mp isFound with isStep | ⟨-, isFound⟩
    · split at isStep
      · obtain ⟨action, -, rfl⟩ := Option.map_eq_some_iff.mp isStep
        exact .inr (.inr ⟨action, rfl⟩)
      · cases isStep
    · split at isFound
      · rename_i applied
        obtain ⟨n, isIndex, isNamed⟩ := Option.bind_eq_some_iff.mp isFound
        obtain ⟨var, isVariable, rfl⟩ := Option.map_eq_some_iff.mp isNamed
        obtain ⟨bound, named, -⟩ := List.findIdx?_eq_some_iff_getElem.mp isIndex
        rw [List.getElem?_eq_getElem bound, Option.some.injEq] at isVariable
        exact .inl ⟨n, var, rfl, isVariable ▸ named, (Bool.and_eq_true_iff.mp applied).2⟩
      · cases isFound
  case h_2 =>
    split at isMeaning
    · obtain ⟨action, -, rfl⟩ := Option.map_eq_some_iff.mp isMeaning
      exact .inr (.inr ⟨action, rfl⟩)
    · split at isMeaning
      · rename_i inContext
        rw [Bool.and_eq_true] at inContext
        cases isMeaning
        refine .inr (.inl ⟨_, rfl, ?_, inContext.1⟩)
        cases isDeclared : d.types.find? (sameName · word) with
        | none => exact sameName_refl word
        | some name =>
          have same := List.find?_some isDeclared
          exact same
      · cases isMeaning

theorem symbol_of_meaning? {span : Span} {meaning : Meaning} (isMeaning : meaning? file d span = some meaning)
    {domainFile : SourceFile} {range : Range} (isSymbol : symbol = (resolve domainFile d range meaning).1)
    (renameable : symbol.kind.isRenameable = true) :
    sameName (String.ofList (slice file.document.chars span)) symbol.name = true ∧
      isInContext symbol d file span.start = true := by
  subst isSymbol
  obtain ⟨n, var, rfl, same, applied⟩ | ⟨name, rfl, same, inContext⟩ | ⟨action, rfl⟩ := meaning?_cases isMeaning
  · exact ⟨sameName_comm _ _ ▸ same, applied⟩
  · exact ⟨sameName_comm _ _ ▸ same, inContext⟩
  · cases renameable

end

theorem keys_addEdit (edits : List (Uri × List TextEdit)) (uri : Uri) (edit : TextEdit) :
    (addEdit edits uri edit).map Prod.fst =
      if uri ∈ edits.map Prod.fst then edits.map Prod.fst else edits.map Prod.fst ++ [uri] := by
  induction edits with
  | nil => rfl
  | cons first rest ih =>
    obtain ⟨u, known⟩ := first
    rw [addEdit]
    by_cases same : u = uri
    · simp [same]
    · rw [if_neg same, List.map_cons, ih]
      by_cases later : uri ∈ rest.map Prod.fst <;> simp [later, Ne.symm same]

theorem keys_editsFor (locations : List Location) (newName : String) :
    ((editsFor locations newName).map Prod.fst).Nodup ∧
      ∀ uri, uri ∈ (editsFor locations newName).map Prod.fst ↔ uri ∈ locations.map (·.uri) := by
  induction locations using List.reverseRecOn with
  | nil => exact ⟨.nil, fun _ => .rfl⟩
  | append_singleton earlier location ih =>
    have added : editsFor (earlier ++ [location]) newName =
        addEdit (editsFor earlier newName) location.uri ⟨location.range, newName⟩ := by
      simp [editsFor]
    rw [added, keys_addEdit]
    generalize (editsFor earlier newName).map Prod.fst = keys at ih
    obtain ⟨distinct, known⟩ := ih
    simp only [List.map_append, List.map_cons, List.map_nil, List.mem_append, List.mem_singleton, ← known]
    split
    · rename_i already
      refine ⟨distinct, fun uri => ⟨.inl, ?_⟩⟩
      rintro (isKey | rfl)
      · exact isKey
      · exact already
    · rename_i new
      refine ⟨by simpa using distinct.concat new, fun uri => ?_⟩
      rw [List.mem_append, List.mem_singleton]

theorem mem_iff_of_nodup_keys {edits : List (Uri × List TextEdit)} (distinct : (edits.map Prod.fst).Nodup) {uri : Uri}
    {own : List TextEdit} : (uri, own) ∈ edits ↔ uri ∈ edits.map Prod.fst ∧ own = editsOf edits uri := by
  induction edits with
  | nil => simp
  | cons first rest ih =>
    obtain ⟨u, known⟩ := first
    obtain ⟨new, distinct⟩ := List.nodup_cons.mp distinct
    by_cases same : uri = u
    · subst same
      have absent (own : List TextEdit) : (uri, own) ∉ rest := fun member =>
        new (List.mem_map_of_mem (f := Prod.fst) member : uri ∈ rest.map Prod.fst)
      simp [editsOf, absent]
    · have differs : (uri == u) = false := by simpa using same
      rw [List.mem_cons, ih distinct]
      simp [editsOf, List.lookup_cons, differs, same]

theorem mem_editsFor {locations : List Location} {newName : String} {uri : Uri} {own : List TextEdit} :
    (uri, own) ∈ editsFor locations newName ↔ uri ∈ locations.map (·.uri) ∧
      own = (locations.filter (·.uri = uri)).map fun location => ⟨location.range, newName⟩ := by
  obtain ⟨distinct, known⟩ := keys_editsFor locations newName
  rw [mem_iff_of_nodup_keys distinct, known, editsOf_editsFor]

section

variable {w : Workspace} {uri : Uri} {position : Position}

theorem references_renameable {symbol : Symbol} (renameable : symbol.kind.isRenameable = true)
    {domainFile : SourceFile} {d : Domain} (found : w.find? symbol.domainUri = some domainFile)
    (isDomain : domainFile.domain? = some d) :
    references w symbol true = (w.family symbol.domainUri).flatMap fun file =>
      (placesWhere file.document symbol.name (isInContext symbol d file)).map (Location.mk file.uri) := by
  have noPlans : relatedFiles w symbol domainFile = w.family symbol.domainUri := by
    simp only [relatedFiles, Workspace.family, found, Option.toList_some, List.singleton_append]
    generalize symbol.kind = kind at renameable
    rcases kind with _ | _ | _
    · simp
    · simp
    · cases renameable
  simp only [references, found, isDomain, if_true, noPlans]
  have isDomainFile := Workspace.isDomain_of_find? found isDomain
  refine List.flatMap_congr fun file member => ?_
  rw [placesIn_renameable renameable (Workspace.bound_of_mem_family isDomainFile member)]

theorem rename_after_at? (orderly : w.Orderly) (uri : Uri) (position : Position) (newName : String) :
    (rename (at? w uri position).2 uri position newName).1 = (rename w uri position newName).1 := by
  have orderly' : (at? w uri position).2.Orderly := orderly.apply (.lookUp uri position)
  have related := at?_sameSymbols orderly uri position uri.folder
  have symbols : Option.Rel (fun s s' => s'.unplaced = s.unplaced ∧ (False → s' = s)) (at? w uri position).1
      (at? (at? w uri position).2 uri position).1 :=
    at?_alike orderly (related.imp fun _ _ same => ⟨same, False.elim⟩) position
  rw [rename_eq orderly', rename_eq orderly]
  generalize (at? w uri position).1 = symbol, (at? (at? w uri position).2 uri position).1 = symbol' at symbols
  cases symbols with
  | none => rfl
  | @some s s' same =>
    have sameKind : s'.kind = s.kind := (congrArg Symbol.kind same.1 :)
    have sameReferences : references (at? w uri position).2 s' true = references w s true := by
      rw [references_of_unplaced same.1,
        references_sameSymbols orderly (at?_sameSymbols orderly uri position s.domainUri.folder)]
    simp only [Option.filter, sameKind]
    split
    · split
      · rw [Option.map_some, Option.map_some, sameReferences]
      · rfl
    · rfl

theorem domainFile?_put (orderly : w.Orderly) {domainFile file : SourceFile}
    (found : w.domainFile? uri = some domainFile) (kin : SourceFile.Kin domainFile file) :
    (w.put file).domainFile? uri = some file := by
  obtain ⟨domainUri, isBound, stored⟩ := Option.bind_eq_some_iff.mp found
  have known : w.find? file.uri = some domainFile := kin.uri ▸ orderly.find?_uri stored
  have related : w.Related SourceFile.Kin (w.put file) := .put .refl known kin
  have sameKey : file.uri.key = domainUri.key := kin.uri ▸ orderly.find?_key stored
  rw [Workspace.domainFile?, (related.inFolder uri.folder).domainBinding, isBound, Option.bind_some,
    Workspace.find?_eq_stored?, Workspace.stored?_put, if_pos sameKey]

theorem at?_word {symbol : Symbol} {w' : Workspace} (found : at? w uri position = (some symbol, w')) :
    ∃ file span domainFile d meaning, w.find? uri = some file ∧ wordIn? file.document position = some span ∧
      w.domainFile? uri = some domainFile ∧ domainFile.domain? = some d ∧ meaning? file d span = some meaning ∧
      symbol = (resolve domainFile d (file.document.rangeOf span) meaning).1 ∧
      w' = w.put { domainFile with kind := .domain (resolve domainFile d (file.document.rangeOf span) meaning).2 } := by
  obtain ⟨file, offset, span, domainFile, d, meaning, known, isOffset, isSpan, isDomainFile, isDomain, isMeaning,
    isSymbol, isPut⟩ := at?_some found
  refine ⟨file, span, domainFile, d, meaning, known, ?_, isDomainFile, isDomain, isMeaning, isSymbol, isPut⟩
  have isFound : (at? w uri position).1 = some symbol := by rw [found]
  rw [at?_fst, known, isDomainFile, Option.bind_some, Option.bind_some, symbolIn?] at isFound
  obtain ⟨span', isWord, -⟩ := Option.bind_eq_some_iff.mp isFound
  rw [wordIn?, isOffset, Option.bind_some] at isWord ⊢
  split at isWord
  · cases isWord
  · rename_i uncommented
    rw [if_neg uncommented, isSpan]

theorem tear?_eq (w : Workspace) (uri : Uri) (position : Position) :
    tear? w uri position = (w.find? uri).bind fun file => (wordIn? file.document position).bind fun span =>
      (w.domainFile? uri).bind fun domainFile => domainFile.domain?.bind fun d =>
        (meaning? file d span).bind fun meaning => meaning.tear? d domainFile.document := by
  unfold tear? wordIn?
  cases w.find? uri with
  | none => rfl
  | some file =>
  cases isOffset : file.document.offset? position with
  | none => simp [isOffset]
  | some offset => by_cases commented : isCommented file.document.chars offset = true <;> simp [isOffset, commented]

theorem Meaning.tear?_resolve {domainFile : SourceFile} {d : Domain} {meaning : Meaning}
    (clear : meaning.tear? d domainFile.document = none) (range : Range) :
    meaning.tear? (resolve domainFile d range meaning).2 domainFile.document = none := by
  rcases meaning with ⟨n, var⟩ | name | action
  · exact (Domain.variableTear?_locate clear n).trans clear
  · exact (Domain.typeTear?_locateType clear name).trans clear
  · rfl

theorem Meaning.tear?_forget {meaning meaning' : Meaning} (same : meaning'.forget = meaning.forget) (d : Domain)
    (document : Document) : meaning'.tear? d document = meaning.tear? d document := by
  rcases meaning with _ | _ | _ <;> rcases meaning' with _ | _ | _ <;> simp_all [Meaning.forget, Meaning.tear?]

theorem tear?_after_at? (orderly : w.Orderly) (clear : tear? w uri position = none) :
    tear? (at? w uri position).2 uri position = none := by
  have related := (at?_sameText orderly uri position).find? uri
  cases isFound : at? w uri position with
  | mk symbol w' =>
  cases symbol with
  | none => rwa [at?_none isFound]
  | some symbol =>
    rw [isFound] at related
    obtain ⟨file, span, domainFile, d, meaning, known, isWord, isDomainFile, isDomain, isMeaning, -, isPut⟩ :=
      at?_word isFound
    rw [tear?_eq, known, Option.bind_some, isWord, Option.bind_some, isDomainFile, Option.bind_some, isDomain,
      Option.bind_some, isMeaning, Option.bind_some] at clear
    have alike : SourceFile.SameText domainFile { domainFile with
        kind := .domain (resolve domainFile d (file.document.rangeOf span) meaning).2 } := by
      simp only [SourceFile.SameText, SourceFile.forget, SourceFile.kind_of_domain? isDomain, FileKind.forget,
        forget_resolve]
    have isDomainFile' := domainFile?_put orderly isDomainFile alike.kin
    rw [known, isPut] at related
    rw [isPut]
    generalize isKnown' : Workspace.find? _ uri = known' at related
    cases related with
    | @some _ file' same =>
    have meanings := meaning?_forget file (resolve domainFile d (file.document.rangeOf span) meaning).2 span
    rw [forget_resolve, meaning?_forget, isMeaning] at meanings
    obtain ⟨meaning', isMeaning', sameMeaning⟩ := Option.map_eq_some_iff.mp meanings.symm
    rw [tear?_eq, isKnown', Option.bind_some, same.document, isWord, Option.bind_some, isDomainFile', Option.bind_some]
    simp only [SourceFile.domain?, Option.bind_some, same.sameSymbols.meaning?, isMeaning',
      Meaning.tear?_forget sameMeaning]
    exact Meaning.tear?_resolve clear _

theorem prepareRename_fst (w : Workspace) (uri : Uri) (position : Position) :
    (prepareRename w uri position).1 = ((at? w uri position).1.filter (·.kind.isRenameable)).map (·.range) := rfl

theorem mem_edits_iff (orderly : w.Orderly) {symbol : Symbol} (renameable : symbol.kind.isRenameable = true)
    {domainFile : SourceFile} {d : Domain} (found : w.find? symbol.domainUri = some domainFile)
    (isDomain : domainFile.domain? = some d) {newName : String} {other : Uri} {own : List TextEdit} :
    (other, own) ∈ editsFor (references w symbol true) newName ↔ ∃ file ∈ w.family symbol.domainUri, file.uri = other ∧
      placesWhere file.document symbol.name (isInContext symbol d file) ≠ [] ∧
      own = (placesWhere file.document symbol.name (isInContext symbol d file)).map fun range => ⟨range, newName⟩ := by
  have apart : (w.family symbol.domainUri).Pairwise fun f g => f.uri ≠ g.uri :=
    (orderly.family_apart (Workspace.isDomain_of_find? found isDomain)).imp fun differs same =>
      differs (congrArg Uri.key same)
  have only {file : SourceFile} (member : file ∈ w.family symbol.domainUri) :=
    filter_locations apart (fun f => placesWhere f.document symbol.name (isInContext symbol d f)) member
  rw [mem_editsFor, references_renameable renameable found isDomain]
  constructor
  · rintro ⟨isPlace, rfl⟩
    obtain ⟨location, isLocation, rfl⟩ := List.mem_map.mp isPlace
    obtain ⟨file, member, inFile⟩ := List.mem_flatMap.mp isLocation
    obtain ⟨range, isRange, rfl⟩ := List.mem_map.mp inFile
    refine ⟨file, member, rfl, List.ne_nil_of_mem isRange, ?_⟩
    rw [only member, List.map_map]
    rfl
  · rintro ⟨file, member, rfl, nonempty, rfl⟩
    obtain ⟨range, isRange⟩ := List.exists_mem_of_ne_nil _ nonempty
    refine ⟨List.mem_map.mpr ⟨⟨file.uri, range⟩, ?_, rfl⟩, ?_⟩
    · exact List.mem_flatMap.mpr ⟨file, member, List.mem_map_of_mem isRange⟩
    · rw [only member, List.map_map]
      rfl

/-- No identifier goes beyond the word at a range: there is no point in front of it, and behind it neither a point nor
the sign of a parameter or a keyword. -/
def StandsAlone (document : Document) (range : Range) : Prop :=
  ∀ span ∈ document.spanOf? range,
    (takeBytes span.start document.chars).getLast? ≠ some '.' ∧
      ∀ c ∈ (dropBytes span.stop document.chars).head?, c ≠ '.' ∧ c ≠ '?' ∧ c ≠ ':'

instance (document : Document) (range : Range) : Decidable (StandsAlone document range) :=
  decidable_of_iff ((document.spanOf? range).all (fun span =>
      (takeBytes span.start document.chars).getLast? != some '.' &&
        (dropBytes span.stop document.chars).head?.all fun c => c != '.' && c != '?' && c != ':') = true)
    (by simp [StandsAlone, Option.all_eq_true, and_assoc])

theorem wordIn?_eq_some {document : Document} {span : Span} (found : wordIn? document position = some span) :
    ∃ before word after, IsWord document.chars span before word after ∧ before.foldl commentedAfter false = false := by
  obtain ⟨offset, -, found⟩ := Option.bind_eq_some_iff.mp found
  split at found
  · cases found
  · rename_i uncommented
    obtain ⟨before, left, right, after, word, isTaken⟩ := wordAt?_eq_some found
    -- what lies between the start of the word and the offset is in a comment as much as the start is
    rw [Bool.not_eq_true, isCommented, isTaken, List.foldl_append, Token.commentedAfter_plain fun c member =>
      isSymbolChar_plain (word.symbols c (List.mem_append_left _ member))] at uncommented
    exact ⟨before, left ++ right, after, word, uncommented⟩

theorem mem_placesWhere_of_wordIn? {document : Document} {span : Span} (isWord : wordIn? document position = some span)
    (alone : StandsAlone document (document.rangeOf span)) {name : String}
    (same : sameName (String.ofList (slice document.chars span)) name = true) {keep : Nat → Bool}
    (kept : keep span.start = true) : document.rangeOf span ∈ placesWhere document name keep := by
  obtain ⟨before, text, after, word, uncommented⟩ := wordIn?_eq_some isWord
  obtain rfl : document = ⟨before ++ (text ++ after)⟩ := congrArg Document.mk word.whole
  obtain rfl := word.place
  have ends := dropBytes_width (before ++ text) after
  rw [width_append, List.append_assoc] at ends
  have neighbours := alone _ (Document.spanOf?_rangeOf before text after)
  rw [takeBytes_width, ends] at neighbours
  rw [slice_middle] at same
  exact List.mem_map_of_mem (List.mem_filter.mpr ⟨word.mem_occurrences uncommented neighbours same, kept⟩)

theorem isIdentifierChar_of_sameName_word {document : Document} {span : Span}
    (isWord : wordIn? document position = some span) {name : String}
    (same : sameName (String.ofList (slice document.chars span)) name = true) :
    ∀ c ∈ name.toList, isIdentifierChar c = true := by
  obtain ⟨before, text, after, word, -⟩ := wordIn?_eq_some isWord
  rw [word.whole, word.place, slice_middle, sameName_iff_map, String.toList_ofList] at same
  exact isIdentifierChar_of_map_toLower same.symm fun c member =>
    isIdentifierChar_of_isSymbolChar (word.symbols c member)

/-- The edits for a new name, in all files that they change. -/
structure IsRenaming (w : Workspace) (name newName : String) (edits : List (Uri × List TextEdit)) : Prop where
  distinct : (edits.map Prod.fst).Nodup
  replaces : ∀ changed ∈ edits, ∃ file, w.find? changed.1 = some file ∧
    Replaces file.document name newName changed.2

theorem isRenaming (orderly : w.Orderly) {symbol : Symbol} (renameable : symbol.kind.isRenameable = true)
    {domainFile : SourceFile} {d : Domain} (found : w.find? symbol.domainUri = some domainFile)
    (isDomain : domainFile.domain? = some d) (identifier : ∀ c ∈ symbol.name.toList, isIdentifierChar c = true)
    (newName : String) : IsRenaming w symbol.name newName (editsFor (references w symbol true) newName) where
  distinct := (keys_editsFor _ newName).1
  replaces := by
    rintro ⟨other, own⟩ member
    obtain ⟨file, isKnown, rfl, -, rfl⟩ := (mem_edits_iff orderly renameable found isDomain).mp member
    exact ⟨file, orderly.find?_of_mem_family isKnown, replaces_placesWhere file.document identifier newName _⟩

end

/-- What can be renamed is renamed, whatever happened before. If a range is offered, every valid name gets edits, also
after the range was looked up; one of them is at this range if the word there stands alone, and all of them replace
the name of the symbol outside comments, in each file from its top to its end. -/
theorem prepared_range_is_renamed {reader : FileReader} {operations : List Workspace.Operation} {w : Workspace}
    (isRun : w = Workspace.run { reader } operations) {uri : Uri} {file : SourceFile} (known : w.find? uri = some file)
    (bound : file.isDomain = true ∨ file.isProblem = true) {position : Position} {range : Range}
    (prepared : (prepareRename w uri position).1 = some range) {newName : String}
    (valid : isValidName newName = true) :
    ∃ symbol edits, (at? w uri position).1 = some symbol ∧ symbol.range = range ∧
      (rename w uri position newName).1 = some edits ∧
      (rename (prepareRename w uri position).2 uri position newName).1 = some edits ∧
      (tear? w uri position = none → tear? (prepareRename w uri position).2 uri position = none) ∧
      (StandsAlone file.document range → ∃ own, (file.uri, own) ∈ edits ∧ ⟨range, newName⟩ ∈ own) ∧
      IsRenaming w symbol.name newName edits := by
  have orderly : w.Orderly := isRun ▸ (Workspace.Orderly.fresh reader).run operations
  have next : (prepareRename w uri position).2 = (at? w uri position).2 := rfl
  rw [prepareRename_fst] at prepared
  obtain ⟨symbol, isSymbol, rfl⟩ := Option.map_eq_some_iff.mp prepared
  obtain ⟨isSymbol, renameable⟩ := Option.filter_eq_some_iff.mp isSymbol
  rw [next]
  have found : at? w uri position = (some symbol, (at? w uri position).2) := Prod.ext isSymbol rfl
  obtain ⟨file', span, domainFile, d, meaning, isFile, isWord, isDomainFile, isDomain, isMeaning, resolved, -⟩ :=
    at?_word found
  rw [known, Option.some.injEq] at isFile
  subst isFile
  obtain ⟨stored, -, member⟩ := orderly.mem_family_of_domainFile? known bound isDomainFile
  obtain ⟨same, inContext⟩ := symbol_of_meaning? isMeaning resolved renameable
  have isRange : symbol.range = file.document.rangeOf span := by rw [resolved]; cases meaning <;> rfl
  have isUri : symbol.domainUri = domainFile.uri := by rw [resolved]; cases meaning <;> rfl
  rw [← isUri] at stored member
  have renamed : (rename w uri position newName).1 = some (editsFor (references w symbol true) newName) := by
    rw [rename_eq orderly, if_pos valid, isSymbol, Option.filter_some, if_pos renameable, Option.map_some]
  have identifier := isIdentifierChar_of_sameName_word isWord same
  refine ⟨symbol, editsFor (references w symbol true) newName, isSymbol, rfl, renamed, ?_, tear?_after_at? orderly,
    fun alone => ?_, isRenaming orderly renameable stored isDomain identifier newName⟩
  · exact (rename_after_at? orderly uri position newName).trans renamed
  · rw [isRange] at alone ⊢
    have isPlace := mem_placesWhere_of_wordIn? isWord alone same inContext
    exact ⟨_, (mem_edits_iff orderly renameable stored isDomain).mpr
      ⟨file, member, rfl, List.ne_nil_of_mem isPlace, rfl⟩, List.mem_map_of_mem isPlace⟩

theorem prepared_range_is_renamed_either :
    let reader : FileReader := ⟨0, {}, fun _ => .error (.path .missing)⟩
    let domainUri : Uri := { scheme := "file", authority := some {}, path := "/w/d.pddl" }
    let problemUri : Uri := { scheme := "file", authority := some {}, path := "/w/p.pddl" }
    let operations : List Workspace.Operation :=
      [.upsert domainUri 1 "(define (domain d) (:types Truck) (:predicates (at ?x - truck)))".toList,
       .upsert problemUri 1 "(define (problem p) (:domain d) (:objects t - truck\nu - (either TRUCK)))".toList,
       .upsert problemUri 2
         "(define (problem p) (:domain d) (:objects t - truck\nu - (either TRUCK) ; - truck\nv - truck.x))".toList]
    let w := Workspace.run { reader } operations
    (w.find? problemUri).map (·.status) = some .dirty ∧
      (prepareRename w problemUri ⟨1, 14⟩).1 = some ⟨⟨1, 12⟩, ⟨1, 17⟩⟩ ∧
      ∃ edits, (rename w problemUri ⟨1, 14⟩ "lorry").1 = some edits ∧
        (rename (prepareRename w problemUri ⟨1, 14⟩).2 problemUri ⟨1, 14⟩ "lorry").1 = some edits ∧
        tear? (prepareRename w problemUri ⟨1, 14⟩).2 problemUri ⟨1, 14⟩ = none ∧
        (∃ own, (problemUri, own) ∈ edits ∧ ⟨⟨⟨1, 12⟩, ⟨1, 17⟩⟩, "lorry"⟩ ∈ own) ∧
        IsRenaming w "Truck" "lorry" edits := by
  intro reader domainUri problemUri operations w
  have holds : (w.find? problemUri).map (·.status) = some .dirty ∧
      (prepareRename w problemUri ⟨1, 14⟩).1 = some ⟨⟨1, 12⟩, ⟨1, 17⟩⟩ ∧ tear? w problemUri ⟨1, 14⟩ = none ∧
      (at? w problemUri ⟨1, 14⟩).1.map (·.name) = some "Truck" ∧
      (w.find? problemUri).any (fun file => file.uri == problemUri && file.isProblem &&
        decide (StandsAlone file.document ⟨⟨1, 12⟩, ⟨1, 17⟩⟩)) = true := by decide +kernel
  have isRun : w = Workspace.run { reader } operations := rfl
  clear_value w
  obtain ⟨dirty, offered, clear, isName, ready⟩ := holds
  simp only [Option.any_eq_true, Bool.and_eq_true, beq_iff_eq, decide_eq_true_eq] at ready
  obtain ⟨file, known, ⟨isUri, isProblem⟩, alone⟩ := ready
  obtain ⟨symbol, edits, isSymbol, -, renamed, renamed', stillClear, isChanged, isRenaming⟩ :=
    prepared_range_is_renamed isRun known (.inr isProblem) offered (by decide : isValidName "lorry" = true)
  have isTruck : symbol.name = "Truck" := by
    rw [isSymbol, Option.map_some, Option.some.injEq] at isName
    exact isName
  rw [isUri] at isChanged
  exact ⟨dirty, offered, edits, renamed, renamed', stillClear clear, isChanged alone, isTruck ▸ isRenaming⟩

end Symbol
end PddlAssist
