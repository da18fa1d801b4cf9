import PddlAssist.Proofs.Reading.Sections
import PddlAssist.Proofs.Workspace.Run
import PddlAssist.Symbol.Tear

namespace PddlAssist

open Text

theorem Text.isBoundary_of_narrow {cs : List Char} (narrow : ∀ c ∈ cs, c.utf8Size ≤ 1) {n : Nat}
    (within : n ≤ width cs) : IsBoundary cs n := by
  rw [isBoundary_iff]
  induction cs generalizing n with
  | nil => exact (Nat.le_zero.mp within).symm
  | cons c cs ih =>
    rw [List.forall_mem_cons] at narrow
    have positive := c.utf8Size_pos
    rw [width_cons] at within
    rw [takeBytes]
    split
    · rw [width_cons, ih narrow.2 (by omega)]
      omega
    · rw [width_nil]
      omega

theorem Document.tears_eq_true_iff {document : Document} {scope : Span} : document.tears scope = true ↔
    scope.start < scope.stop ∧ scope.stop ≤ document.size ∧ ¬Fits document.chars scope := by
  have fits : Fits document.chars scope ↔ IsBoundary document.chars scope.start ∧ IsBoundary document.chars scope.stop :=
    ⟨fun fits => ⟨fits.start, fits.stop⟩, fun ends => ⟨ends.1, ends.2⟩⟩
  simp only [tears, fits, Bool.and_eq_true, decide_eq_true_eq, Bool.not_eq_true', Bool.and_eq_false_iff,
    decide_eq_false_iff_not, not_and_or, and_assoc]

variable {document : Document} {scope : Span}

namespace Domain

/-- A section of a domain that tears in a text. -/
def TearsIn (d : Domain) (document : Document) (scope : Span) : Prop :=
  scope ∈ d.sections.searched ∧ document.tears scope = true

theorem tears_of_firstTear? {name : String} {scopes : List Span} (found : firstTear? document name scopes = some scope) :
    scope ∈ scopes ∧ document.tears scope = true := by
  fun_induction firstTear? document name scopes with
  | case1 => cases found
  | case2 first rest tears =>
    cases found
    exact ⟨.head _, ((Bool.and_eq_true _ _).mp tears).2⟩
  | case3 => cases found
  | case4 first rest _ _ ih =>
    obtain ⟨member, tears⟩ := ih found
    exact ⟨.tail _ member, tears⟩

theorem tearsIn_of_variableTear? {d : Domain} {n : Nat} (found : d.variableTear? n document = some scope) :
    d.TearsIn document scope := by
  rw [variableTear?] at found
  split at found
  · cases found
  · split at found
    · cases found
    · obtain ⟨member, tears⟩ := tears_of_firstTear? found
      exact ⟨mem_searched_of_scopes member, tears⟩

theorem tearsIn_of_typeTear? {d : Domain} {name : String} (found : d.typeTear? name document = some scope) :
    d.TearsIn document scope := by
  rw [typeTear?] at found
  split at found
  · cases found
  · obtain ⟨isTypes, tears⟩ := Option.filter_eq_some_iff.mp found
    refine ⟨?_, ((Bool.and_eq_true _ _).mp tears).2⟩
    simp [DomainSections.searched, isTypes]

theorem tearsIn_of_meaning {d : Domain} {meaning : Symbol.Meaning} (found : meaning.tear? d document = some scope) :
    d.TearsIn document scope := by
  rcases meaning with ⟨n, var⟩ | name | action
  · exact tearsIn_of_variableTear? found
  · exact tearsIn_of_typeTear? found
  · cases found

theorem typeTear?_congr {name other : String} (same : lower name = lower other) (d : Domain) :
    d.typeTear? name document = d.typeTear? other document := by
  rw [typeTear?, typeTear?, same, isEmpty_of_lower same]

theorem typeTear?_locateType {d : Domain} {name : String} (clear : d.typeTear? name document = none) (other : String) :
    (d.locateType name document).2.typeTear? other document = d.typeTear? other document := by
  rw [locateType]
  split
  · rfl
  · by_cases same : lower name = lower other
    · rw [← typeTear?_congr same d, clear, typeTear?]
      simp [same]
    · have apart : (lower name == lower other) = false := beq_eq_false_iff_ne.mpr same
      simp only [typeTear?, List.any_append, List.any_cons, List.any_nil, apart, Bool.or_false]

theorem modifyVariable_append (f : Variable → Variable) (n : Nat) (left right : List Variable) :
    modifyVariable f n (left ++ right) =
      modifyVariable f n left ++ if n < left.length then right else modifyVariable f (n - left.length) right := by
  induction left generalizing n with
  | nil => simp [modifyVariable]
  | cons v left ih =>
    cases n with
    | zero => rfl
    | succ n => simp [modifyVariable, ih]

theorem getElem?_modifyVariable (f : Variable → Variable) (n m : Nat) (vs : List Variable) :
    (modifyVariable f n vs)[m]? = vs[m]?.map fun v => if m = n then f v else v := by
  fun_induction modifyVariable f n vs generalizing m with
  | case1 => rfl
  | case2 v rest => cases m <;> simp
  | case3 n v rest ih => cases m <;> simp [ih]

theorem allVariables_modify (d : Domain) (n : Nat) (f : Variable → Variable) :
    (d.modify n f).allVariables = modifyVariable f n d.allVariables := by
  simp only [allVariables, modify, modifyVariable_append, List.length_append, Nat.sub_sub]

theorem variableTear?_locate {d : Domain} {n : Nat} (clear : d.variableTear? n document = none) (m : Nat) :
    (d.locate n document).2.variableTear? m document = d.variableTear? m document := by
  rw [locate]
  split
  · rfl
  · rename_i var isVariable
    split
    · rfl
    · by_cases same : m = n
      · rw [same, clear, variableTear?, allVariables_modify, getElem?_modifyVariable, isVariable]
        simp
      · rw [variableTear?, allVariables_modify, getElem?_modifyVariable]
        simp only [same, if_false, Option.map_id_fun']
        rfl

end Domain

namespace Outline

open Domain

theorem typesTear?_eq (d : Domain) (names : List String) :
    typesTear? document d names = names.findSome? (d.typeTear? · document) := by
  induction names generalizing d with
  | nil => rfl
  | cons name rest ih =>
    rw [typesTear?, List.findSome?_cons, ih]
    cases clear : d.typeTear? name document with
    | some scope => rfl
    | none => simp only [Option.none_or, typeTear?_locateType clear]

theorem variablesTear?_eq (d : Domain) (n : Nat) (vs : List Variable) :
    variablesTear? document d n vs = (List.range' n vs.length).findSome? (d.variableTear? · document) := by
  induction vs generalizing d n with
  | nil => rfl
  | cons v rest ih =>
    rw [variablesTear?, List.length_cons, List.range'_succ, List.findSome?_cons, ih]
    cases clear : d.variableTear? n document with
    | some scope => rfl
    | none => simp only [Option.none_or, variableTear?_locate clear]

theorem variableTear?_typeItems (d : Domain) (names : List String) (n : Nat) :
    (typeItems document d names).2.variableTear? n document = d.variableTear? n document := by
  induction names generalizing d with
  | nil => rfl
  | cons name rest ih =>
    rw [typeItems, ih, locateType]
    split <;> rfl

theorem tear?_domain {file : SourceFile} {d : Domain} (isDomain : file.domain? = some d) :
    tear? file = (d.types.findSome? (d.typeTear? · file.document)).or
      ((List.range' 0 d.allVariables.length).findSome? (d.variableTear? · file.document)) := by
  rw [tear?, SourceFile.kind_of_domain? isDomain]
  simp only [typesTear?_eq, variablesTear?_eq, variableTear?_typeItems]

theorem domain_of_tear? {file : SourceFile} (found : tear? file = some scope) : ∃ d, file.domain? = some d := by
  rw [tear?] at found
  split at found
  · rename_i d isKind
    exact ⟨d, by rw [SourceFile.domain?, isKind]⟩
  · cases found

theorem tearsIn_of_tear? {file : SourceFile} {d : Domain} (isDomain : file.domain? = some d)
    (found : tear? file = some scope) : d.TearsIn file.document scope := by
  rw [tear?_domain isDomain] at found
  rcases Option.or_eq_some_iff.mp found with inTypes | ⟨_, inVariables⟩
  · obtain ⟨name, _, found⟩ := List.exists_of_findSome?_eq_some inTypes
    exact tearsIn_of_typeTear? found
  · obtain ⟨n, _, found⟩ := List.exists_of_findSome?_eq_some inVariables
    exact tearsIn_of_variableTear? found

theorem tear?_isSome_iff {file : SourceFile} {d : Domain} (isDomain : file.domain? = some d) :
    (tear? file).isSome = true ↔ (∃ name ∈ d.types, (d.typeTear? name file.document).isSome = true) ∨
      ∃ n, (d.variableTear? n file.document).isSome = true := by
  rw [tear?_domain isDomain, Option.isSome_or, Bool.or_eq_true, List.findSome?_isSome_iff, List.findSome?_isSome_iff]
  refine or_congr_right ⟨fun ⟨n, _, tears⟩ => ⟨n, tears⟩, fun ⟨n, tears⟩ => ⟨n, ?_, tears⟩⟩
  -- only a variable that is declared is searched for
  have declared : d.allVariables[n]? ≠ none := by
    intro missing
    simp [variableTear?, missing] at tears
  rw [← List.range_eq_range', List.mem_range]
  exact Nat.lt_of_not_le fun beyond => declared (List.getElem?_eq_none beyond)

theorem ask_eq_error_iff {w : Workspace} {uri : Uri} {tear : Tear} : ask w uri = .error tear ↔
    ∃ file, w.find? uri = some file ∧ tear? file = some tear.scope := by
  rw [← Option.bind_eq_some_iff, ask]
  split
  · rename_i scope found
    rw [found, Except.error.injEq, Option.some.injEq]
    exact ⟨fun same => same ▸ rfl, fun same => same ▸ rfl⟩
  · rename_i nothing
    simp [nothing]

end Outline

namespace SourceFile

/-- A section of a domain that cannot be cut out of the text of its file. The section was not read from this text, and
one of its ends falls into a character of several bytes. -/
structure BreaksAt (f : SourceFile) (scope : Span) : Prop where
  searched : ∃ d, f.domain? = some d ∧ scope ∈ d.sections.searched
  elsewhere : f.status = .dirty ∨ (Directive.ofText? f.document.chars).isSome
  within : scope.stop ≤ f.document.size
  apart : ¬Fits f.document.chars scope
  wide : ∃ c ∈ f.document.chars, 1 < c.utf8Size

theorem IsReading.ofTree? {f : SourceFile} (reading : f.IsReading)
    (plain : Directive.ofText? f.document.chars = none) {d : Domain} (isDomain : f.domain? = some d) :
    ∃ issues, Domain.ofTree? f.document (Tree.build f.document.chars) = some (d.forget, issues) := by
  obtain ⟨reader, isKind, _⟩ := reading.kind
  rw [kind_of_domain? isDomain, FileKind.forget] at isKind
  simp only [SourceFile.read] at isKind
  split at isKind
  · cases isKind
  · cases isKind
  · rw [readPddl, plain] at isKind
    simp only [classify] at isKind
    split at isKind
    · rename_i read
      cases isKind
      exact ⟨_, read⟩
    · split at isKind <;> cases isKind

theorem IsReading.fits {f : SourceFile} (reading : f.IsReading) (plain : Directive.ofText? f.document.chars = none)
    {d : Domain} (isDomain : f.domain? = some d) {scope : Span} (searched : scope ∈ d.sections.searched) :
    Fits f.document.chars scope := by
  obtain ⟨_, read⟩ := reading.ofTree? plain isDomain
  exact Domain.fits_searched read searched

theorem breaksAt_of_tearsIn {f : SourceFile} (reading : f.status ≠ .dirty → f.IsReading) {d : Domain}
    (isDomain : f.domain? = some d) {scope : Span} (tearsIn : d.TearsIn f.document scope) : f.BreaksAt scope := by
  obtain ⟨searched, tears⟩ := tearsIn
  obtain ⟨nonempty, within, apart⟩ := Document.tears_eq_true_iff.mp tears
  refine ⟨⟨d, isDomain, searched⟩, ?_, within, apart, ?_⟩
  -- a file that was read as it stands has sections that fit, and so has a text of narrow characters
  · by_contra read
    rw [not_or, Option.not_isSome_iff_eq_none] at read
    exact apart ((reading read.1).fits read.2 isDomain searched)
  · by_contra narrow
    simp only [not_exists, not_and, Nat.not_lt] at narrow
    exact apart ⟨isBoundary_of_narrow narrow (by rw [Document.size] at within; omega), isBoundary_of_narrow narrow within⟩

end SourceFile

namespace Workspace

/-- Sections can be cut out of the texts that they were read from, and questions fail only where a section cannot be cut
out of another text. -/
structure Answers (w : Workspace) : Prop where
  fits : ∀ file ∈ w.files, ∀ d, file.domain? = some d → file.status ≠ .dirty →
    Directive.ofText? file.document.chars = none → ∀ scope ∈ d.sections.searched, Fits file.document.chars scope
  symbol : ∀ uri position tear, Symbol.ask w uri position = .error tear →
    ∃ file, w.domainFile? uri = some file ∧ file.BreaksAt tear.scope
  outline : ∀ uri tear, Outline.ask w uri = .error tear → ∃ file, w.find? uri = some file ∧ file.BreaksAt tear.scope
  outline_iff : ∀ uri, (∃ tear, Outline.ask w uri = .error tear) ↔
    ∃ file d, w.find? uri = some file ∧ file.domain? = some d ∧
      ((∃ name ∈ d.types, (d.typeTear? name file.document).isSome = true) ∨
        ∃ n, (d.variableTear? n file.document).isSome = true)

/-- Questions fail only where a section was read from another text, and the outline fails exactly if the search for
something that is declared breaks off. -/
theorem questions_fail_only_in_unread_texts {w : Workspace} (reachable : w.Reachable) : Answers w := by
  have keeps := reachable.keeps lasting_isReading
  constructor
  · intro file member d isDomain clean plain scope searched
    obtain ⟨key, found⟩ := mem_files_iff.mp member
    exact (keeps.holds found clean).fits plain isDomain searched
  · intro uri position tear failed
    rw [Symbol.ask] at failed
    split at failed
    · rename_i scope found
      cases failed
      simp only [Symbol.tear?, Option.bind_eq_bind, Option.bind_eq_some_iff] at found
      obtain ⟨file, _, offset, _, found⟩ := found
      split at found
      · cases found
      · simp only [Option.bind_eq_some_iff] at found
        obtain ⟨span, _, domainFile, isDomainFile, d, isDomain, meaning, _, found⟩ := found
        obtain ⟨domainUri, _, stored⟩ := Option.bind_eq_some_iff.mp isDomainFile
        exact ⟨domainFile, isDomainFile,
          SourceFile.breaksAt_of_tearsIn (keeps.find? stored) isDomain (Domain.tearsIn_of_meaning found)⟩
    · cases failed
  · intro uri tear failed
    obtain ⟨file, stored, found⟩ := Outline.ask_eq_error_iff.mp failed
    obtain ⟨d, isDomain⟩ := Outline.domain_of_tear? found
    have tearsIn := Outline.tearsIn_of_tear? isDomain found
    exact ⟨file, stored, SourceFile.breaksAt_of_tearsIn (keeps.find? stored) isDomain tearsIn⟩
  · intro uri
    constructor
    · rintro ⟨tear, failed⟩
      obtain ⟨file, stored, found⟩ := Outline.ask_eq_error_iff.mp failed
      obtain ⟨d, isDomain⟩ := Outline.domain_of_tear? found
      exact ⟨file, d, stored, isDomain, (Outline.tear?_isSome_iff isDomain).mp (by rw [found, Option.isSome_some])⟩
    · rintro ⟨file, d, stored, isDomain, tears⟩
      obtain ⟨scope, found⟩ := Option.isSome_iff_exists.mp ((Outline.tear?_isSome_iff isDomain).mpr tears)
      exact ⟨⟨scope⟩, Outline.ask_eq_error_iff.mpr ⟨file, stored, found⟩⟩

theorem questions_fail_only_in_unread_texts_outlined :
    let reader : FileReader := ⟨0, {}, fun _ => .error (.path .missing)⟩
    let uri : Uri := { scheme := "file", authority := some {}, path := "/w/d.pddl" }
    let w := run { reader } [.upsert uri 1 "(define (domain d) ; é\n (:types t) (:predicates (p)))".toList, .outline uri]
    w.Reachable ∧ w.files.map (fun file => (file.status, file.domain?.map (·.sections.searched))) =
        [(.parsed, some [⟨25, 35⟩, ⟨36, 53⟩])] ∧
      Answers w := by
  intro reader uri w
  have reachable : w.Reachable := ⟨reader, _, by decide, rfl⟩
  exact ⟨reachable, by decide +kernel, questions_fail_only_in_unread_texts reachable⟩

/-- The name of the domain grows by a character of two bytes, on which the section of the predicates began before. The
outline that is asked for before the new text is read fails. -/
theorem outline_of_unread_text_fails :
    let reader : FileReader := ⟨0, {}, fun _ => .error (.path .missing)⟩
    let uri : Uri := { scheme := "file", authority := some {}, path := "/w/d.pddl" }
    let w := run { reader } [.upsertAndParse uri 1 "(define (domain d) (:predicates (p)))".toList,
      .upsert uri 2 "(define (domain ddé) (:predicates (p)))".toList]
    w.Reachable ∧ (∃ file ∈ w.files, ∃ d, file.domain? = some d ∧ ⟨19, 36⟩ ∈ d.sections.searched ∧
        36 ≤ file.document.size ∧ ¬IsBoundary file.document.chars 19) ∧
      Outline.ask w uri = .error ⟨⟨19, 36⟩⟩ := by
  intro reader uri w
  have holds : w.files.any (fun file => file.domain?.any (⟨19, 36⟩ ∈ ·.sections.searched) &&
      decide (36 ≤ file.document.size) && !decide (IsBoundary file.document.chars 19)) = true := by decide +kernel
  have fails : (w.find? uri).bind Outline.tear? = some ⟨19, 36⟩ := by decide +kernel
  refine ⟨⟨reader, _, by decide, rfl⟩, ?_, by rw [Outline.ask, fails]⟩
  obtain ⟨file, member, tears⟩ := List.any_eq_true.mp holds
  simp only [Bool.and_eq_true, Option.any_eq_true, decide_eq_true_eq, Bool.not_eq_true', decide_eq_false_iff_not] at tears
  obtain ⟨⟨⟨d, isDomain, searched⟩, within⟩, apart⟩ := tears
  exact ⟨file, member, d, isDomain, searched, within, apart⟩

end Workspace
end PddlAssist
