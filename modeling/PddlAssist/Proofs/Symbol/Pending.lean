import PddlAssist.Proofs.Symbol.Declaration
import PddlAssist.Proofs.Workspace.Snapshot

namespace PddlAssist

open Text

namespace Workspace

theorem Orderly.siblings_reparseDirty {w : Workspace} (orderly : w.Orderly) (uri : Uri) :
    w.reparseDirty.2.siblings uri = (w.siblings uri).map (reread w.reader) := by
  have related : w.RelatedIn (fun f f' => f' = reread w.reader f) uri.folder w.reparseDirty.2 := by
    intro name
    rw [orderly.stored?_reparseDirty]
    cases w.stored? (uri.folder, name) with
    | none => exact .none
    | some file => exact .some rfl
  have files := related.siblings
  generalize w.siblings uri = before, w.reparseDirty.2.siblings uri = after at files
  induction files with
  | nil => rfl
  | cons first _ ih => rw [first, ih, List.map_cons]

end Workspace

namespace Symbol

open Workspace

/-- A word of a file with the name of a symbol is taken for the symbol: the file is one of those that may write it, and
the tree or the characters around the word allow it. -/
def isTaken (w : Workspace) (symbol : Symbol) (file : SourceFile) (offset : Nat) : Bool :=
  (w.find? symbol.domainUri).any fun domainFile => domainFile.domain?.any fun d =>
    ((relatedFiles w symbol domainFile).map (·.uri)).contains file.uri &&
      match symbol.kind with
      | .action _ => isPlan file && precededByBracket file.document.chars offset
      | _ => isInContext symbol d file offset

/-- Where the domain of an action declares it. Other symbols are declared where a word is taken for them. -/
def declared? (w : Workspace) (symbol : Symbol) : Option Range :=
  match symbol.kind with
  | .action _ => (w.find? symbol.domainUri).bind fun domainFile =>
    (domainFile.domain?.bind (·.findAction? symbol.name)).map (Domain.actionLocation · domainFile.document)
  | _ => none

/-- Once the waiting texts are read, the same words are taken for a symbol as before. -/
def ReadsAlike (w : Workspace) (symbol : Symbol) : Prop :=
  (∀ file ∈ w.siblings symbol.domainUri, ∀ span ∈ occurrences file.document.chars ⟨0, file.document.size⟩ symbol.name,
    isTaken w.reparseDirty.2 symbol (reread w.reader file) span.start = isTaken w symbol file span.start) ∧
    declared? w.reparseDirty.2 symbol = declared? w symbol

instance (w : Workspace) (symbol : Symbol) : Decidable (ReadsAlike w symbol) :=
  inferInstanceAs (Decidable (_ ∧ _))

theorem placesWhere_eq_iff {document : Document} {name : String} {keep keep' : Nat → Bool} :
    placesWhere document name keep' = placesWhere document name keep ↔
      ∀ span ∈ occurrences document.chars ⟨0, document.size⟩ name, keep' span.start = keep span.start := by
  have kept (keep : Nat → Bool) {span : Span} (found : span ∈ occurrences document.chars ⟨0, document.size⟩ name) :
      document.rangeOf span ∈ placesWhere document name keep ↔ keep span.start = true := by
    constructor
    · intro member
      obtain ⟨other, isKept, same⟩ := List.mem_map.mp member
      obtain ⟨isFound, kept⟩ := List.mem_filter.mp isKept
      have here := Document.positionAt_inj (isBoundary_of_mem_occurrences isFound) (isBoundary_of_mem_occurrences found)
        (congrArg Range.start same)
      exact here ▸ kept
    · intro kept
      exact List.mem_map_of_mem (List.mem_filter.mpr ⟨found, kept⟩)
  constructor
  · intro same span found
    rw [Bool.eq_iff_iff, ← kept keep' found, ← kept keep found, same]
  · intro same
    rw [placesWhere, placesWhere, List.filter_congr same]

theorem placesWhere_eq_nil {document : Document} {name : String} {keep : Nat → Bool}
    (none : ∀ offset, keep offset = false) : placesWhere document name keep = [] := by
  simp [placesWhere, none]

/-- What a file adds to the references of a symbol. -/
def share (w : Workspace) (symbol : Symbol) (file : SourceFile) : List Range :=
  (if file.uri = symbol.domainUri then (declared? w symbol).toList else []) ++
    placesWhere file.document symbol.name (isTaken w symbol file)

section

variable {w : Workspace} {symbol : Symbol} {domainFile : SourceFile} {d : Domain}

theorem relatedFiles_eq (found : w.find? symbol.domainUri = some domainFile) :
    relatedFiles w symbol domainFile = w.family symbol.domainUri ++
      match symbol.kind with
      | .action _ => w.planFiles symbol.domainUri
      | _ => [] := by
  rw [Workspace.family, found]
  rfl

theorem mem_siblings_of_mem_relatedFiles (found : w.find? symbol.domainUri = some domainFile) {file : SourceFile}
    (member : file ∈ relatedFiles w symbol domainFile) : file ∈ w.siblings symbol.domainUri := by
  rw [relatedFiles_eq found, Workspace.family, found] at member
  rcases List.mem_append.mp member with inFamily | isPlan
  · rcases List.mem_append.mp inFamily with isDomainFile | isProblem
    · obtain rfl := List.mem_singleton.mp isDomainFile
      exact mem_filesIn_iff.mpr ⟨_, found⟩
    · exact (mem_problemFiles isProblem).1
  · split at isPlan
    · exact List.mem_of_mem_filter isPlan
    · cases isPlan

theorem flatMap_filter_congr {α β : Type} {l : List α} {p q : α → Bool} {g : α → List β}
    (weaker : ∀ a ∈ l, p a = true → q a = true) (empty : ∀ a ∈ l, q a = true → p a = false → g a = []) :
    (l.filter p).flatMap g = (l.filter q).flatMap g := by
  induction l with
  | nil => rfl
  | cons a rest ih =>
    obtain ⟨weaker, weakerRest⟩ := List.forall_mem_cons.mp weaker
    obtain ⟨empty, emptyRest⟩ := List.forall_mem_cons.mp empty
    have rest := ih weakerRest emptyRest
    cases isP : p a with
    | true => simp [isP, weaker isP, rest]
    | false =>
      cases isQ : q a with
      | true => simp [isP, isQ, empty isQ isP, rest]
      | false => simp [isP, isQ, rest]

theorem kind_of_isProblem {file : SourceFile} (isProblem : file.isProblem = true) : ∃ p, file.kind = .problem p := by
  unfold SourceFile.isProblem SourceFile.problem? at isProblem
  split at isProblem
  · exact ⟨_, ‹_›⟩
  · cases isProblem

theorem kind_of_isPlan {file : SourceFile} (isPlanFile : isPlan file = true) : ∃ p, file.kind = .plan p := by
  unfold isPlan at isPlanFile
  split at isPlanFile
  · exact ⟨_, ‹_›⟩
  · cases isPlanFile

/-- The files of a symbol's folder, the one that declares the symbol first. -/
def neighbours (w : Workspace) (symbol : Symbol) (domainFile : SourceFile) : List SourceFile :=
  domainFile :: (w.siblings symbol.domainUri).filter (·.uri ≠ symbol.domainUri)

/-- The file that declares a symbol, and the domain in it. -/
structure IsHome (w : Workspace) (symbol : Symbol) (domainFile : SourceFile) (d : Domain) : Prop where
  orderly : w.Orderly
  uri : domainFile.uri = symbol.domainUri
  found : w.find? symbol.domainUri = some domainFile
  domain : domainFile.domain? = some d

namespace IsHome

theorem eq_domainFile (home : IsHome w symbol domainFile d) {file : SourceFile}
    (sibling : file ∈ w.siblings symbol.domainUri) (same : file.uri = symbol.domainUri) : file = domainFile := by
  have stored := home.orderly.find?_of_mem_siblings sibling
  rw [same, home.found, Option.some.injEq] at stored
  exact stored.symm

theorem isTaken_related (home : IsHome w symbol domainFile d) {file : SourceFile}
    (related : file ∈ relatedFiles w symbol domainFile) (offset : Nat) :
    isTaken w symbol file offset = match symbol.kind with
      | .action _ => isPlan file && precededByBracket file.document.chars offset
      | _ => isInContext symbol d file offset := by
  have listed : ((relatedFiles w symbol domainFile).map (·.uri)).contains file.uri = true :=
    List.contains_iff_mem.mpr (List.mem_map_of_mem related)
  simp only [isTaken, home.found, home.domain, Option.any_some, listed, Bool.true_and]

theorem isTaken_unrelated (home : IsHome w symbol domainFile d) {file : SourceFile}
    (sibling : file ∈ w.siblings symbol.domainUri) (unrelated : file ∉ relatedFiles w symbol domainFile)
    (offset : Nat) : isTaken w symbol file offset = false := by
  have unlisted : ((relatedFiles w symbol domainFile).map (·.uri)).contains file.uri = false := by
    rw [Bool.eq_false_iff, ne_eq, List.contains_iff_mem]
    intro listed
    obtain ⟨other, related, same⟩ := List.mem_map.mp listed
    have stored := home.orderly.find?_of_mem_siblings (mem_siblings_of_mem_relatedFiles home.found related)
    rw [same, home.orderly.find?_of_mem_siblings sibling, Option.some.injEq] at stored
    exact unrelated (stored ▸ related)
  simp only [isTaken, home.found, home.domain, Option.any_some, unlisted, Bool.false_and]

theorem kind (home : IsHome w symbol domainFile d) : domainFile.kind = .domain d :=
  SourceFile.kind_of_domain? home.domain

theorem uri_ne (home : IsHome w symbol domainFile d) {file : SourceFile}
    (sibling : file ∈ w.siblings symbol.domainUri) (noDomain : ∀ d, file.kind ≠ .domain d) :
    file.uri ≠ symbol.domainUri := fun same =>
  noDomain d (home.eq_domainFile sibling same ▸ home.kind)

theorem share_related (home : IsHome w symbol domainFile d) {file : SourceFile}
    (related : file ∈ relatedFiles w symbol domainFile) : share w symbol file = placesIn symbol d file := by
  have taken : isTaken w symbol file = _ := funext (home.isTaken_related related)
  have sibling := mem_siblings_of_mem_relatedFiles home.found related
  rcases isKind : symbol.kind with kind | _ | kind
  · have bound := bound_of_mem_family (isDomain_of_find? home.found home.domain)
      (by simpa [isKind, relatedFiles_eq home.found] using related)
    rw [placesIn_renameable (by rw [isKind]; rfl) bound, share, taken]
    simp [declared?, isKind]
  · have bound := bound_of_mem_family (isDomain_of_find? home.found home.domain)
      (by simpa [isKind, relatedFiles_eq home.found] using related)
    rw [placesIn_renameable (by rw [isKind]; rfl) bound, share, taken]
    simp [declared?, isKind]
  · rw [share, taken]
    simp only [declared?, isKind, home.found, home.domain, Option.bind_some]
    rcases List.mem_append.mp related with known | isPlanFile
    · rcases List.mem_cons.mp known with rfl | isProblem
      · rw [if_pos home.uri]
        simp [placesIn, isKind, home.kind, isPlan, placesWhere, Option.toList_map]
      · obtain ⟨problem, isProblem⟩ := kind_of_isProblem (mem_problemFiles isProblem).2
        have other := home.uri_ne sibling (by simp [isProblem])
        simp [placesIn, isKind, isProblem, isPlan, placesWhere, other]
    · rw [isKind] at isPlanFile
      obtain ⟨plan, isPlanFile⟩ := kind_of_isPlan (Bool.and_eq_true_iff.mp (List.mem_filter.mp isPlanFile).2).1
      have other := home.uri_ne sibling (by simp [isPlanFile])
      simp [placesIn, isKind, isPlanFile, isPlan, other]

theorem share_unrelated (home : IsHome w symbol domainFile d) {file : SourceFile}
    (sibling : file ∈ w.siblings symbol.domainUri) (unrelated : file ∉ relatedFiles w symbol domainFile) :
    share w symbol file = [] := by
  have other : file.uri ≠ symbol.domainUri := fun same =>
    unrelated (home.eq_domainFile sibling same ▸ List.mem_cons_self)
  rw [share, if_neg other, List.nil_append, placesWhere_eq_nil (home.isTaken_unrelated sibling unrelated)]

theorem share_problem (home : IsHome w symbol domainFile d) {kind : ActionKind} (isAction : symbol.kind = .action kind)
    {file : SourceFile} (sibling : file ∈ w.siblings symbol.domainUri) (isProblem : file.isProblem = true) :
    share w symbol file = [] := by
  by_cases related : file ∈ relatedFiles w symbol domainFile
  · obtain ⟨problem, isProblem⟩ := kind_of_isProblem isProblem
    simp [home.share_related related, placesIn, isAction, isProblem]
  · exact home.share_unrelated sibling related

theorem flatMap_share (home : IsHome w symbol domainFile d) {p : SourceFile → Bool}
    (noDomain : ∀ f ∈ w.siblings symbol.domainUri, p f = true → ∀ d, f.kind ≠ .domain d)
    (empty : ∀ f ∈ w.siblings symbol.domainUri, f ≠ domainFile → p f = false → share w symbol f = []) :
    ((w.siblings symbol.domainUri).filter p).flatMap (fun f => (share w symbol f).map (Location.mk f.uri)) =
      ((w.siblings symbol.domainUri).filter (·.uri ≠ symbol.domainUri)).flatMap fun f =>
        (share w symbol f).map (Location.mk f.uri) := by
  refine flatMap_filter_congr (fun f sibling isKept => ?_) fun f sibling other isLeft => ?_
  · exact decide_eq_true (home.uri_ne sibling (noDomain f sibling isKept))
  · rw [empty f sibling (fun same => of_decide_eq_true other (same ▸ home.uri)) isLeft, List.map_nil]

theorem problemFiles_eq (home : IsHome w symbol domainFile d) : w.problemFiles symbol.domainUri =
    (w.siblings symbol.domainUri).filter fun f => f.problem?.any (·.isForDomain d.name) := by
  simp only [problemFiles, home.found, Option.bind_some, home.domain]

theorem flatMap_problems (home : IsHome w symbol domainFile d)
    (noPlans : relatedFiles w symbol domainFile = domainFile :: w.problemFiles symbol.domainUri) :
    (w.problemFiles symbol.domainUri).flatMap (fun f => (share w symbol f).map (Location.mk f.uri)) =
      ((w.siblings symbol.domainUri).filter (·.uri ≠ symbol.domainUri)).flatMap fun f =>
        (share w symbol f).map (Location.mk f.uri) := by
  rw [home.problemFiles_eq]
  refine home.flatMap_share (fun f sibling isFor => ?_) fun f sibling other isLeft => home.share_unrelated sibling ?_
  · have isProblem : f ∈ w.problemFiles symbol.domainUri := home.problemFiles_eq ▸ List.mem_filter.mpr ⟨sibling, isFor⟩
    obtain ⟨problem, isProblem⟩ := kind_of_isProblem (mem_problemFiles isProblem).2
    simp [isProblem]
  · rw [noPlans, List.mem_cons, home.problemFiles_eq, List.mem_filter, isLeft]
    simpa using other

theorem flatMap_plans (home : IsHome w symbol domainFile d) {kind : ActionKind}
    (isAction : symbol.kind = .action kind) :
    (w.planFiles symbol.domainUri).flatMap (fun f => (share w symbol f).map (Location.mk f.uri)) =
      ((w.siblings symbol.domainUri).filter (·.uri ≠ symbol.domainUri)).flatMap fun f =>
        (share w symbol f).map (Location.mk f.uri) := by
  refine home.flatMap_share (fun f _ isBound => ?_) fun f sibling other isLeft => ?_
  · obtain ⟨plan, isPlanFile⟩ := kind_of_isPlan (Bool.and_eq_true_iff.mp isBound).1
    simp [isPlanFile]
  · by_cases isProblem : f ∈ w.problemFiles symbol.domainUri
    · exact home.share_problem isAction sibling (mem_problemFiles isProblem).2
    · refine home.share_unrelated sibling ?_
      simp only [relatedFiles, isAction, List.cons_append, List.mem_cons, List.mem_append, isProblem, false_or, not_or]
      refine ⟨other, fun member => ?_⟩
      rw [(List.mem_filter.mp member).2] at isLeft
      cases isLeft

/-- The references, file by file. Problems do not write actions, and plans write nothing else, so that the files other
than the domain's can be taken in the order of their addresses. -/
theorem references_eq (home : IsHome w symbol domainFile d) :
    references w symbol true =
      (neighbours w symbol domainFile).flatMap fun f => (share w symbol f).map (Location.mk f.uri) := by
  have all : references w symbol true =
      (relatedFiles w symbol domainFile).flatMap fun f => (share w symbol f).map (Location.mk f.uri) := by
    simp only [references, home.found, home.domain, if_true]
    exact List.flatMap_congr fun f related => by rw [home.share_related related]
  rw [all, relatedFiles, neighbours, List.cons_append, List.flatMap_cons, List.flatMap_cons]
  congr 1
  rcases isKind : symbol.kind with kind | _ | kind
  · simpa only [List.append_nil] using home.flatMap_problems (by simp [relatedFiles, isKind])
  · simpa only [List.append_nil] using home.flatMap_problems (by simp [relatedFiles, isKind])
  · have noProblems : (w.problemFiles symbol.domainUri).flatMap
        (fun f => (share w symbol f).map (Location.mk f.uri)) = [] := by
      refine List.flatMap_eq_nil_iff.mpr fun f member => ?_
      rw [home.share_problem isKind (mem_problemFiles member).1 (mem_problemFiles member).2, List.map_nil]
    rw [List.flatMap_append, noProblems, List.nil_append]
    exact home.flatMap_plans isKind

end IsHome

theorem flatMap_locations_iff {files : List SourceFile} (apart : files.Pairwise fun f g => f.uri ≠ g.uri)
    (places places' : SourceFile → List Range) :
    (files.flatMap fun f => (places' f).map (Location.mk f.uri)) =
      (files.flatMap fun f => (places f).map (Location.mk f.uri)) ↔ ∀ f ∈ files, places' f = places f := by
  constructor
  · intro same file member
    have own := filter_locations apart places' member
    rw [same, filter_locations apart places member] at own
    exact (List.map_injective_iff.mpr fun _ _ same => (Location.mk.inj same).2) own.symm
  · intro same
    exact List.flatMap_congr fun file member => by rw [same file member]

theorem editsFor_locations_iff {files : List SourceFile} (apart : files.Pairwise fun f g => f.uri ≠ g.uri)
    (places places' : SourceFile → List Range) (newName : String) :
    editsFor (files.flatMap fun f => (places' f).map (Location.mk f.uri)) newName =
      editsFor (files.flatMap fun f => (places f).map (Location.mk f.uri)) newName ↔
      ∀ f ∈ files, places' f = places f := by
  constructor
  · intro same file member
    have own := congrArg (editsOf · file.uri) same
    simp only [editsOf_editsFor, filter_locations apart places' member, filter_locations apart places member,
      List.map_map] at own
    exact (List.map_injective_iff.mpr fun _ _ same => (TextEdit.mk.inj same).1) own
  · intro same
    rw [(flatMap_locations_iff apart places places').mpr same]

theorem IsHome.neighbours_apart (home : IsHome w symbol domainFile d) :
    (neighbours w symbol domainFile).Pairwise fun f g => f.uri ≠ g.uri := by
  refine .cons (fun file member same => ?_) ?_
  · exact of_decide_eq_true (List.mem_filter.mp member).2 (same ▸ home.uri)
  · exact ((home.orderly.filesIn_apart symbol.domainUri.folder).sublist List.filter_sublist).imp fun apart same =>
      apart (congrArg Uri.key same)

theorem IsHome.mem_neighbours_iff (home : IsHome w symbol domainFile d) {file : SourceFile} :
    file ∈ neighbours w symbol domainFile ↔ file ∈ w.siblings symbol.domainUri := by
  rw [neighbours, List.mem_cons, List.mem_filter]
  constructor
  · rintro (rfl | ⟨sibling, _⟩)
    · exact mem_filesIn_iff.mpr ⟨_, home.found⟩
    · exact sibling
  · intro sibling
    by_cases same : file.uri = symbol.domainUri
    · exact .inl (home.eq_domainFile sibling same)
    · exact .inr ⟨sibling, decide_eq_true same⟩

theorem IsHome.isTaken_domainFile (home : IsHome w symbol domainFile d) {kind : ActionKind}
    (isAction : symbol.kind = .action kind) (offset : Nat) : isTaken w symbol domainFile offset = false := by
  rw [home.isTaken_related List.mem_cons_self, isAction]
  simp [isPlan, home.kind]

section

variable {d' : Domain} (home : IsHome w symbol domainFile d)
  (homeRead : IsHome w.reparseDirty.2 symbol (reread w.reader domainFile) d')
include home homeRead

theorem share_reread_iff {file : SourceFile} (sibling : file ∈ w.siblings symbol.domainUri) :
    share w.reparseDirty.2 symbol (reread w.reader file) = share w symbol file ↔
      (∀ span ∈ occurrences file.document.chars ⟨0, file.document.size⟩ symbol.name,
        isTaken w.reparseDirty.2 symbol (reread w.reader file) span.start = isTaken w symbol file span.start) ∧
      (file.uri = symbol.domainUri → declared? w.reparseDirty.2 symbol = declared? w symbol) := by
  rw [share, share, reread_uri, reread_document, ← placesWhere_eq_iff]
  by_cases same : file.uri = symbol.domainUri
  · obtain rfl := home.eq_domainFile sibling same
    rw [if_pos same, if_pos same]
    rcases isKind : symbol.kind with kind | _ | kind
    · simp [declared?, isKind]
    · simp [declared?, isKind]
    · rw [placesWhere_eq_nil (home.isTaken_domainFile isKind), placesWhere_eq_nil (homeRead.isTaken_domainFile isKind)]
      simp only [same, List.append_nil, true_and, forall_const]
      refine ⟨fun alike => ?_, congrArg Option.toList⟩
      simpa only [Option.head?_toList] using congrArg List.head? alike
  · simp [same]

theorem shares_reread_iff :
    (∀ file ∈ neighbours w symbol domainFile,
      share w.reparseDirty.2 symbol (reread w.reader file) = share w symbol file) ↔ ReadsAlike w symbol := by
  simp only [home.mem_neighbours_iff]
  constructor
  · intro same
    have alike (file : SourceFile) (sibling : file ∈ w.siblings symbol.domainUri) :=
      (share_reread_iff home homeRead sibling).mp (same file sibling)
    have isSibling := home.mem_neighbours_iff.mp List.mem_cons_self
    exact ⟨fun file sibling => (alike file sibling).1, (alike domainFile isSibling).2 home.uri⟩
  · intro alike file sibling
    exact (share_reread_iff home homeRead sibling).mpr ⟨alike.1 file sibling, fun _ => alike.2⟩

theorem references_reparseDirty : references w.reparseDirty.2 symbol true =
    (neighbours w symbol domainFile).flatMap fun f =>
      (share w.reparseDirty.2 symbol (reread w.reader f)).map (Location.mk f.uri) := by
  have files : neighbours w.reparseDirty.2 symbol (reread w.reader domainFile) =
      (neighbours w symbol domainFile).map (reread w.reader) := by
    rw [neighbours, neighbours, home.orderly.siblings_reparseDirty, List.filter_map, List.map_cons]
    simp only [Function.comp_def, reread_uri]
  rw [homeRead.references_eq, files, List.flatMap_map]
  simp only [reread_uri]

theorem references_reparseDirty_iff :
    references w.reparseDirty.2 symbol true = references w symbol true ↔ ReadsAlike w symbol := by
  rw [references_reparseDirty home homeRead, home.references_eq, flatMap_locations_iff home.neighbours_apart,
    shares_reread_iff home homeRead]

theorem edits_reparseDirty_iff (newName : String) :
    editsFor (references w.reparseDirty.2 symbol true) newName = editsFor (references w symbol true) newName ↔
      ReadsAlike w symbol := by
  rw [references_reparseDirty home homeRead, home.references_eq, editsFor_locations_iff home.neighbours_apart,
    shares_reread_iff home homeRead]

end

end

/-- What a symbol is, wherever it was asked for. -/
def identity (symbol : Symbol) : SymbolKind × String × Uri := (symbol.kind, symbol.name, symbol.domainUri)

section

variable {symbol symbol' : Symbol} (same : symbol'.identity = symbol.identity) (w : Workspace)
include same

theorem references_identity : references w symbol' true = references w symbol true := by
  have byIdentity (s : Symbol) : references w s true =
      references w ⟨s.identity.1, s.identity.2.1, default, "", none, s.identity.2.2⟩ true := rfl
  rw [byIdentity symbol', byIdentity symbol, same]

theorem readsAlike_identity : ReadsAlike w symbol' ↔ ReadsAlike w symbol := by
  have byIdentity (s : Symbol) : ReadsAlike w s =
      ReadsAlike w ⟨s.identity.1, s.identity.2.1, default, "", none, s.identity.2.2⟩ := rfl
  rw [byIdentity symbol', byIdentity symbol, same]

end

theorem isHome_of_at? {w : Workspace} (orderly : w.Orderly) {uri : Uri} {position : Position} {symbol : Symbol}
    (isSymbol : (at? w uri position).1 = some symbol) : ∃ domainFile d, IsHome w symbol domainFile d := by
  obtain ⟨file, span, domainFile, d, meaning, -, -, isDomainFile, isDomain, -, isResolved, -⟩ :=
    at?_word (Prod.ext isSymbol rfl : at? w uri position = (some symbol, (at? w uri position).2))
  obtain ⟨domainUri, -, stored⟩ := Option.bind_eq_some_iff.mp isDomainFile
  have isUri : domainFile.uri = symbol.domainUri := by
    rw [isResolved]
    cases meaning <;> rfl
  exact ⟨domainFile, d, orderly, isUri, isUri ▸ orderly.find?_uri stored, isDomain⟩

theorem IsHome.reread_of_at? {w : Workspace} {symbol symbol' : Symbol} {domainFile : SourceFile} {d : Domain}
    (home : IsHome w symbol domainFile d) (orderlyRead : w.reparseDirty.2.Orderly) {uri : Uri} {position : Position}
    (isSymbol : (at? w.reparseDirty.2 uri position).1 = some symbol') (same : symbol'.identity = symbol.identity) :
    ∃ d', IsHome w.reparseDirty.2 symbol (reread w.reader domainFile) d' := by
  obtain ⟨domainFile', d', homeRead⟩ := isHome_of_at? orderlyRead isSymbol
  have sameUri : symbol'.domainUri = symbol.domainUri := congrArg (·.2.2) same
  have found : w.reparseDirty.2.find? symbol.domainUri = some (reread w.reader domainFile) := by
    have stored := home.orderly.stored?_reparseDirty symbol.domainUri.key
    rwa [show w.stored? symbol.domainUri.key = some domainFile from home.found, Option.map_some] at stored
  have isRead : domainFile' = reread w.reader domainFile := by
    have found' := homeRead.found
    rw [sameUri, found, Option.some.injEq] at found'
    exact found'.symm
  exact ⟨d', orderlyRead, (reread_uri _ _).trans home.uri, found, isRead ▸ homeRead.domain⟩

/-- In any reachable workspace, reading the waiting texts leaves the references of a symbol and the edits that rename it
if and only if the same words are taken for the symbol before and after. The word at the position must stand for one
symbol both times. What files remember of older texts shows only where the declaration is left out of the references. -/
theorem pending_readings_leave_symbols {w : Workspace} (reachable : w.Reachable) (uri : Uri) (position : Position)
    (newName : String)
    (resolves : (at? w.reparseDirty.2 uri position).1.map identity = (at? w uri position).1.map identity) :
    (referencesAt w.reparseDirty.2 uri position true = referencesAt w uri position true ↔
      ∀ symbol, (at? w uri position).1 = some symbol → ReadsAlike w symbol) ∧
    ((rename w.reparseDirty.2 uri position newName).1 = (rename w uri position newName).1 ↔
      ∀ symbol, (at? w uri position).1 = some symbol → isValidName newName = true →
        symbol.kind.isRenameable = true → ReadsAlike w symbol) ∧
    ((at? w.reparseDirty.2 uri position).1.map (·.location) = (at? w uri position).1.map (·.location) →
      (∀ symbol, (at? w uri position).1 = some symbol → ReadsAlike w symbol) →
        referencesAt w.reparseDirty.2 uri position false = referencesAt w uri position false) := by
  have orderly := (reachable.keeps lasting_true).toOrderly
  have orderlyRead : w.reparseDirty.2.Orderly := orderly.apply .reparseDirty
  rw [rename_eq orderly, rename_eq orderlyRead, referencesAt_eq orderly, referencesAt_eq orderlyRead,
    referencesAt_eq orderly, referencesAt_eq orderlyRead]
  generalize isSymbol : (at? w uri position).1 = symbol, isSymbol' : (at? w.reparseDirty.2 uri position).1 = symbol'
    at resolves
  cases symbol with
  | none =>
    rw [Option.map_none, Option.map_eq_none_iff] at resolves
    simp [resolves]
  | some s =>
  obtain ⟨s', rfl, same⟩ := Option.map_eq_some_iff.mp resolves
  obtain ⟨domainFile, d, home⟩ := isHome_of_at? orderly isSymbol
  obtain ⟨d', homeRead⟩ := home.reread_of_at? orderlyRead isSymbol' same
  have agree := references_reparseDirty_iff home homeRead
  rw [← references_identity same] at agree
  simp only [Option.map_some, Option.some.injEq, forall_eq']
  refine ⟨agree, ?_, fun sameLocation alike => ?_⟩
  · have edits := edits_reparseDirty_iff home homeRead newName
    rw [← references_identity same] at edits
    have sameKind : s'.kind = s.kind := congrArg Prod.fst same
    by_cases valid : isValidName newName = true
    · by_cases renameable : s.kind.isRenameable = true
      · simp [Option.filter, sameKind, valid, renameable, edits]
      · simp [Option.filter, sameKind, valid, renameable]
    · simp [valid]
  · rw [references_false, references_false, agree.mpr alike, sameLocation]

theorem pending_readings_leave_symbols_longer :
    let reader : FileReader := ⟨0, {}, fun _ => .error (.path .missing)⟩
    let domainUri : Uri := { scheme := "file", authority := some {}, path := "/w/d.pddl" }
    let problemUri : Uri := { scheme := "file", authority := some {}, path := "/w/p.pddl" }
    let w := run { reader }
      [.upsert domainUri 1 "(define (domain d) (:predicates (p)))".toList,
       .upsert problemUri 1 "(define (problem a) (:domain d) (:init (p)))".toList,
       .upsert domainUri 2 "(define (domain d) (:predicates (p)) ; p\n (:derived (r) (q)))".toList,
       .upsert problemUri 2 "(define (problem b) (:domain d) (:init (p) (q)))".toList]
    w.files.map (·.status) = [.dirty, .dirty] ∧
      (rename w problemUri ⟨0, 40⟩ "s").1.map (·.map (·.2.length)) = some [1, 1] ∧
      (rename w.reparseDirty.2 problemUri ⟨0, 40⟩ "s").1 = (rename w problemUri ⟨0, 40⟩ "s").1 ∧
      referencesAt w.reparseDirty.2 problemUri ⟨0, 40⟩ false = referencesAt w problemUri ⟨0, 40⟩ false := by
  intro reader domainUri problemUri w
  have facts : (w.files.map (·.status) = [.dirty, .dirty] ∧
        (rename w problemUri ⟨0, 40⟩ "s").1.map (·.map (·.2.length)) = some [1, 1]) ∧
      (at? w problemUri ⟨0, 40⟩).1.map identity = some (.variable .predicate, "p", domainUri) ∧
      (at? w.reparseDirty.2 problemUri ⟨0, 40⟩).1.map identity = some (.variable .predicate, "p", domainUri) ∧
      (at? w.reparseDirty.2 problemUri ⟨0, 40⟩).1.map (·.location) = (at? w problemUri ⟨0, 40⟩).1.map (·.location) ∧
      ReadsAlike w ⟨.variable .predicate, "p", default, "", none, domainUri⟩ := by decide +kernel
  obtain ⟨⟨dirty, edits⟩, known, later, located, alike⟩ := facts
  have reachable : w.Reachable := ⟨reader, _, by decide, rfl⟩
  clear_value w
  obtain ⟨-, renames, refers⟩ := pending_readings_leave_symbols reachable problemUri ⟨0, 40⟩ "s"
    (later.trans known.symm)
  have readsAlike : ∀ symbol, (at? w problemUri ⟨0, 40⟩).1 = some symbol → ReadsAlike w symbol := by
    intro symbol isSymbol
    rw [isSymbol, Option.map_some, Option.some.injEq] at known
    exact (readsAlike_identity known w).mpr alike
  exact ⟨dirty, edits, renames.mpr fun symbol isSymbol _ _ => readsAlike symbol isSymbol, refers located readsAlike⟩

/-- The second text has one more predicate. The tree of the first text knows no name where the second `p`
stands now, so that it keeps its old name. -/
theorem pending_reading_hides_reference :
    let reader : FileReader := ⟨0, {}, fun _ => .error (.path .missing)⟩
    let uri : Uri := { scheme := "file", authority := some {}, path := "/w/d.pddl" }
    let w := run { reader }
      [.upsert uri 1 "(define (domain d) (:predicates (p)) (:derived (q) (p)))".toList,
       .upsert uri 2 "(define (domain d) (:predicates (p) (r)) (:derived (q) (p)))".toList]
    isValidName "s" = true ∧
      (rename w uri ⟨0, 33⟩ "s").1.map (·.map (·.2.map (·.range.start.character))) = some [[33]] ∧
      (rename w.reparseDirty.2 uri ⟨0, 33⟩ "s").1.map (·.map (·.2.map (·.range.start.character))) =
        some [[33, 56]] := by
  intro reader uri w
  exact ⟨by decide, by decide +kernel⟩

end Symbol
end PddlAssist
