import Mathlib.Algebra.Group.Nat.Defs
import Mathlib.Data.List.Nodup
import PddlAssist.Proofs.Validation.Report
import PddlAssist.Validation.Service

namespace PddlAssist

open Text

def EndsInNumber (cs : List Char) (n : Nat) : Prop :=
  ∃ before digits, cs = before ++ digits ∧ digits ≠ [] ∧ (∀ c ∈ digits, c.isDigit = true) ∧
    (∀ c ∈ before.getLast?, c.isDigit = false) ∧ Nat.ofDigitChars 10 digits 0 = n

def lastDigits (cs : List Char) : List Char := (cs.reverse.takeWhile Char.isDigit).reverse

theorem isDigit_of_mem_lastDigits {cs : List Char} {c : Char} (member : c ∈ lastDigits cs) : c.isDigit = true :=
  List.all_eq_true.mp List.all_takeWhile c (List.mem_reverse.mp member)

theorem endsInNumber_iff {cs : List Char} {n : Nat} :
    EndsInNumber cs n ↔ lastDigits cs ≠ [] ∧ Nat.ofDigitChars 10 (lastDigits cs) 0 = n := by
  constructor
  · rintro ⟨before, digits, rfl, nonempty, isDigits, ends, value⟩
    have stops : before.reverse.takeWhile Char.isDigit = [] := by
      rw [← List.head?_reverse] at ends
      cases reversed : before.reverse with
      | nil => rfl
      | cons c rest =>
        rw [reversed] at ends
        exact List.takeWhile_cons_of_neg (by simp [ends c rfl])
    have isLast : lastDigits (before ++ digits) = digits := by
      rw [lastDigits, List.reverse_append, List.takeWhile_append_of_pos (by simpa using isDigits), stops,
        List.append_nil, List.reverse_reverse]
    rw [isLast]
    exact ⟨nonempty, value⟩
  · rintro ⟨nonempty, value⟩
    refine ⟨(cs.reverse.dropWhile Char.isDigit).reverse, _, ?_, nonempty, fun c => isDigit_of_mem_lastDigits, ?_, value⟩
    · rw [lastDigits, ← List.reverse_append, List.takeWhile_append_dropWhile, List.reverse_reverse]
    · rw [List.getLast?_reverse]
      intro c isLast
      have stop := List.head?_dropWhile_not Char.isDigit cs.reverse
      rw [Option.mem_def.mp isLast] at stop
      exact stop

theorem naturalBelow?_lastDigits (bound : Nat) (cs : List Char) :
    naturalBelow? bound (lastDigits cs) =
      if lastDigits cs ≠ [] ∧ Nat.ofDigitChars 10 (lastDigits cs) 0 < bound then
        some (Nat.ofDigitChars 10 (lastDigits cs) 0)
      else none := by
  have isDigits : ∀ c ∈ lastDigits cs, c.isDigit = true := fun c => isDigit_of_mem_lastDigits
  generalize lastDigits cs = digits at isDigits
  have all : digits.all Char.isDigit = true := List.all_eq_true.mpr isDigits
  simp only [naturalBelow?, Nat.ofDigitChars_eq_foldl]
  split
  case h_1 rest => cases isDigits '+' (.head _)
  case h_2 => simp [all]

namespace ServiceIssue

section

variable {location : String} {n : Nat} (notDomain : ¬(n = 0 ∨ sameName (trimmed location) "domain" = true))
include notDomain

theorem target_eq : target location n =
    let index := (naturalBelow? (2 ^ 64) (lastDigits (trimmed location).toList)).getD 0
    if index < n then index + 1 else 1 := by
  simp only [not_or, Bool.not_eq_true] at notDomain
  simp only [target, notDomain.1, notDomain.2, decide_false, Bool.or_false, Bool.false_eq_true, if_false]
  rfl

theorem target_numbered (fits : n ≤ 2 ^ 64) {i : Nat} (number : EndsInNumber (trimmed location).toList i)
    (inside : i < n) : target location n = i + 1 := by
  obtain ⟨nonempty, value⟩ := endsInNumber_iff.mp number
  have isNumber := naturalBelow?_lastDigits (2 ^ 64) (trimmed location).toList
  rw [if_pos ⟨nonempty, by omega⟩, value] at isNumber
  simp only [target_eq notDomain, isNumber, Option.getD_some, inside, if_true]

theorem target_first (unnumbered : ∀ i, EndsInNumber (trimmed location).toList i → n ≤ i) : target location n = 1 := by
  have isNumber := naturalBelow?_lastDigits (2 ^ 64) (trimmed location).toList
  rw [target_eq notDomain, isNumber]
  split
  case isTrue number =>
    have beyond := unnumbered _ (endsInNumber_iff.mpr ⟨number.1, rfl⟩)
    simp only [Option.getD_some, Nat.not_lt.mpr beyond, if_false]
  case isFalse => simp

end

def file? (b : ValidationBundle) (issue : ServiceIssue) : Option ValidationInput :=
  b.inputs[target issue.location b.problems.length]?

def IsAboutDomain (b : ValidationBundle) (location : String) : Prop :=
  b.problems = [] ∨ sameName (trimmed location) "domain" = true

/-- The file that a location is about. Problems are counted from zero, and the first of them stands in for all that a
location does not tell. -/
inductive GoesTo (b : ValidationBundle) (location : String) : ValidationInput → Prop where
  | domain (isDomain : IsAboutDomain b location) : GoesTo b location b.domain
  | numbered {i : Nat} {input : ValidationInput} (notDomain : ¬IsAboutDomain b location)
      (number : EndsInNumber (trimmed location).toList i) (isProblem : b.problems[i]? = some input) :
      GoesTo b location input
  | first {input : ValidationInput} (notDomain : ¬IsAboutDomain b location)
      (unnumbered : ∀ i, EndsInNumber (trimmed location).toList i → b.problems.length ≤ i)
      (isFirst : b.problems.head? = some input) : GoesTo b location input

section

variable {b : ValidationBundle} {issue : ServiceIssue} {input : ValidationInput}

theorem isAboutDomain_iff {location : String} : IsAboutDomain b location ↔
    b.problems.length = 0 ∨ sameName (trimmed location) "domain" = true := by
  rw [IsAboutDomain, List.length_eq_zero_iff]

theorem file?_domain (isDomain : IsAboutDomain b issue.location) : file? b issue = some b.domain := by
  have isZero : target issue.location b.problems.length = 0 := by
    rw [isAboutDomain_iff] at isDomain
    simp only [target]
    exact if_pos (by simpa using isDomain)
  rw [file?, isZero]
  rfl

theorem file?_numbered (notDomain : ¬IsAboutDomain b issue.location) (fits : b.problems.length ≤ 2 ^ 64) {i : Nat}
    (number : EndsInNumber (trimmed issue.location).toList i) (inside : i < b.problems.length) :
    file? b issue = b.problems[i]? := by
  rw [file?, target_numbered (mt isAboutDomain_iff.mpr notDomain) fits number inside]
  rfl

theorem file?_first (notDomain : ¬IsAboutDomain b issue.location)
    (unnumbered : ∀ i, EndsInNumber (trimmed issue.location).toList i → b.problems.length ≤ i) :
    file? b issue = b.problems.head? := by
  rw [file?, target_first (mt isAboutDomain_iff.mpr notDomain) unnumbered, List.head?_eq_getElem?]
  rfl

theorem goesTo_iff (fits : b.problems.length ≤ 2 ^ 64) : GoesTo b issue.location input ↔ file? b issue = some input := by
  constructor
  · rintro (isDomain | ⟨notDomain, number, isProblem⟩ | ⟨notDomain, unnumbered, isFirst⟩)
    · exact file?_domain isDomain
    · obtain ⟨inside, _⟩ := List.getElem?_eq_some_iff.mp isProblem
      rw [file?_numbered notDomain fits number inside, isProblem]
    · rw [file?_first notDomain unnumbered, isFirst]
  · intro isFile
    by_cases isDomain : IsAboutDomain b issue.location
    · rw [file?_domain isDomain, Option.some.injEq] at isFile
      exact isFile ▸ .domain isDomain
    · by_cases numbered : ∃ i, EndsInNumber (trimmed issue.location).toList i ∧ i < b.problems.length
      · obtain ⟨i, number, inside⟩ := numbered
        rw [file?_numbered isDomain fits number inside] at isFile
        exact .numbered isDomain number isFile
      · have unnumbered : ∀ i, EndsInNumber (trimmed issue.location).toList i → b.problems.length ≤ i :=
          fun i number => Nat.le_of_not_lt fun inside => numbered ⟨i, number, inside⟩
        rw [file?_first isDomain unnumbered] at isFile
        exact .first isDomain unnumbered isFile

theorem target_lt_length (b : ValidationBundle) (location : String) :
    target location b.problems.length < b.inputs.length := by
  simp only [target, ValidationBundle.inputs, List.length_cons]
  split
  · omega
  · rename_i notDomain
    simp only [Bool.or_eq_true, decide_eq_true_eq, not_or] at notDomain
    split <;> omega

end

def rangeIn (issue : ServiceIssue) (input : ValidationInput) : Range :=
  issue.position.elim ⟨⟨0, 0⟩, ⟨0, 0⟩⟩ fun position =>
    Validation.lineRange ⟨input.text⟩ position.line (some position.character)

def said (issue : ServiceIssue) (input : ValidationInput) : Diagnostic :=
  .own (issue.rangeIn input) (Validation.severity issue.severity.toList) (trimmed issue.message)

theorem diagnostic?_eq (b : ValidationBundle) (issue : ServiceIssue) :
    diagnostic? b issue = (file? b issue).map fun input => (input.uri, issue.said input) := rfl

section

variable {b : ValidationBundle} {issues : List ServiceIssue}

theorem pushed_eq (distinct : (b.inputs.map (·.uri.text)).Nodup) {input : ValidationInput} (member : input ∈ b.inputs) :
    ((issues.filterMap (diagnostic? b)).filter (·.1.text = input.uri.text)).map (·.2) =
      (issues.filter (file? b · = some input)).map (·.said input) := by
  induction issues with
  | nil => rfl
  | cons issue issues ih =>
    rw [List.filterMap_cons, diagnostic?_eq]
    cases isFile : file? b issue with
    | none => simpa [isFile] using ih
    | some other =>
      have same_iff : other.uri.text = input.uri.text ↔ other = input :=
        ⟨List.inj_on_of_nodup_map distinct (List.mem_of_getElem? isFile) member, fun same => same ▸ rfl⟩
      by_cases same : other = input
      · subst same
        simpa [isFile] using ih
      · simpa [isFile, same, mt same_iff.mp same] using ih

theorem isSome_empty {pair : Uri × Diagnostic} (member : pair ∈ issues.filterMap (diagnostic? b)) :
    (ValidationReport.empty b)[pair.1.text]?.isSome = true := by
  obtain ⟨issue, _, isPair⟩ := List.mem_filterMap.mp member
  rw [diagnostic?_eq, Option.map_eq_some_iff] at isPair
  obtain ⟨input, isFile, rfl⟩ := isPair
  rw [ValidationReport.getElem?_empty, if_pos (List.mem_map_of_mem (List.mem_of_getElem? isFile))]
  rfl

theorem getElem?_report (b : ValidationBundle) (issues : List ServiceIssue) (key : String) : (report b issues)[key]? =
    if key ∈ b.inputs.map (·.uri.text) then
      some ((((issues.filterMap (diagnostic? b)).filter (·.1.text = key)).map (·.2)).foldl ValidationReport.extend [])
    else none := by
  rw [report, ValidationReport.getElem?_pushAll (fun pair => isSome_empty), ValidationReport.getElem?_empty]
  split <;> rfl

theorem report_again (b : ValidationBundle) (issues : List ServiceIssue) :
    (report b (issues ++ issues)).toList = (report b issues).toList := by
  refine Std.TreeMap.equiv_iff_toList_eq.mp (.of_forall_constGet?_eq fun key => ?_)
  have nothing : Firsts [] [] := ⟨rfl, fun _ => rfl⟩
  have again := (nothing.foldl (((issues.filterMap (diagnostic? b)).filter (·.1.text = key)).map (·.2))).foldl_again
  rw [List.nil_append] at again
  rw [getElem?_report, getElem?_report, List.filterMap_append, List.filter_append, List.map_append, List.foldl_append,
    again]

/-- Every issue is about one file of its bundle, and the report has for each file of the bundle, and for no other, what
the issues say that are about it, the first of each kind. An issue that comes again changes nothing. A list in memory
has no more members than a word counts, so every bundle of files with addresses of their own is meant. -/
theorem issues_reach_their_files (distinct : (b.inputs.map (·.uri.text)).Nodup) (fits : b.problems.length ≤ 2 ^ 64)
    (issues : List ServiceIssue) :
    (∀ issue ∈ issues, target issue.location b.problems.length < b.inputs.length ∧
      ∀ input, GoesTo b issue.location input ↔ b.inputs[target issue.location b.problems.length]? = some input) ∧
    (∀ key, key ∈ (report b issues).keys ↔ key ∈ b.inputs.map (·.uri.text)) ∧
    (∀ input ∈ b.inputs, ∃ found, (report b issues)[input.uri.text]? = some found ∧
      let sent := issues.filter fun issue => b.inputs[target issue.location b.problems.length]? = some input
      found.map (fun d => (d.range, d.message)) =
          (sent.map fun issue => (issue.rangeIn input, trimmed issue.message)).eraseDups ∧
        ∀ subject, found.find? (·.subject = subject) = (sent.map (·.said input)).find? (·.subject = subject)) ∧
    (report b (issues ++ issues)).toList = (report b issues).toList := by
  refine ⟨fun issue _ => ⟨target_lt_length b issue.location, fun input => goesTo_iff fits⟩, fun key => ?_,
    fun input member => ?_, report_again b issues⟩
  · rw [Std.TreeMap.mem_keys, Std.TreeMap.mem_iff_isSome_getElem?, getElem?_report]
    split <;> simp [*]
  · have nothing : Firsts [] [] := ⟨rfl, fun _ => rfl⟩
    have firsts := nothing.foldl ((issues.filter (file? b · = some input)).map (·.said input))
    refine ⟨_, ?_, ?_, firsts.find?⟩
    · rw [getElem?_report, if_pos (List.mem_map_of_mem member), pushed_eq distinct member]
    · have subjects := firsts.subjects
      rw [List.nil_append, List.map_map] at subjects
      exact subjects

theorem issues_reach_their_files_numbered :
    let domain : ValidationInput := ⟨⟨"file", none, "/w/d.pddl", none, none⟩, "(define\n (domain d))".toList⟩
    let first : ValidationInput := ⟨⟨"file", none, "/w/p.pddl", none, none⟩, "(define)".toList⟩
    let second : ValidationInput := ⟨⟨"file", none, "/w/q.pddl", none, none⟩, []⟩
    let b : ValidationBundle := ⟨domain, [first, second]⟩
    let issues : List ServiceIssue :=
      [⟨"PROBLEM18446744073709551617", "warning", some ⟨0, 1⟩, " unused "⟩, ⟨" Domain ", "", none, "odd"⟩,
        ⟨"problem7", "error", some ⟨0, 1⟩, "unused"⟩, ⟨"", "hint", none, "bad goal"⟩, ⟨"problem01", "hint", none, "late"⟩]
    (b.inputs.map (·.uri.text)).Nodup ∧ b.problems.length ≤ 2 ^ 64 ∧
      ∃ found, (report b issues)[first.uri.text]? = some found ∧
        found.map (fun d => (d.range, d.message)) = [(⟨⟨0, 1⟩, ⟨0, 8⟩⟩, "unused"), (⟨⟨0, 0⟩, ⟨0, 0⟩⟩, "bad goal")] := by
  intro domain first second b issues
  have distinct : (b.inputs.map (·.uri.text)).Nodup := by decide
  have fits : b.problems.length ≤ 2 ^ 64 := by decide
  obtain ⟨found, isFound, subjects, _⟩ := (issues_reach_their_files distinct fits issues).2.2.1 first (by decide)
  exact ⟨distinct, fits, found, isFound, subjects.trans (by decide +kernel)⟩

end

end ServiceIssue
end PddlAssist
