import PddlAssist.Proofs.Workspace.Kinship
import PddlAssist.Proofs.Workspace.Revision

namespace PddlAssist

open Text

namespace Binding

def candidates : Binding → List Uri
  | unique uri => [uri]
  | missing => []
  | ambiguous uris => uris

theorem candidates_ofCandidates (uris : List Uri) : (ofCandidates uris).candidates = uris := by
  cases uris with
  | nil => rfl
  | cons first rest => cases rest <;> rfl

theorem ofCandidates_eq_unique_iff {uris : List Uri} {uri : Uri} : ofCandidates uris = .unique uri ↔ uris = [uri] := by
  cases uris with
  | nil => simp [ofCandidates]
  | cons first rest => cases rest <;> simp [ofCandidates]

theorem ofCandidates_eq_missing_iff {uris : List Uri} : ofCandidates uris = .missing ↔ uris = [] := by
  cases uris with
  | nil => simp [ofCandidates]
  | cons first rest => cases rest <;> simp [ofCandidates]

theorem of_ofCandidates_eq_ambiguous {uris listed : List Uri} (isAmbiguous : ofCandidates uris = .ambiguous listed) :
    listed = uris ∧ 2 ≤ uris.length := by
  cases uris with
  | nil => cases isAmbiguous
  | cons first rest =>
    cases rest with
    | nil => cases isAmbiguous
    | cons second rest =>
      cases isAmbiguous
      exact ⟨rfl, by simp⟩

theorem uri?_eq_some_iff {binding : Binding} {uri : Uri} : binding.uri? = some uri ↔ binding = .unique uri := by
  cases binding <;> simp [uri?]

end Binding

theorem SourceFile.isDomain_iff {f : SourceFile} : f.isDomain = true ↔ ∃ d, f.domain? = some d := by
  rw [isDomain, Option.isSome_iff_exists]

namespace Workspace

variable {w : Workspace}

theorem mem_domainsNamed {uri domainUri : Uri} {name : String} :
    domainUri ∈ w.domainsNamed uri name ↔
      ∃ file ∈ w.siblings uri, (∃ d, file.domain? = some d ∧ sameName d.name name = true) ∧ file.uri = domainUri := by
  simp only [domainsNamed, List.mem_map, List.mem_filter, Option.any_eq_true, Domain.isName, and_assoc]

theorem mem_problemFiles_iff {domainUri : Uri} {domainFile : SourceFile} {d : Domain}
    (found : w.find? domainUri = some domainFile) (isDomain : domainFile.domain? = some d) {file : SourceFile} :
    file ∈ w.problemFiles domainUri ↔
      file ∈ w.siblings domainUri ∧ ∃ p, file.problem? = some p ∧ sameName p.domainName d.name = true := by
  simp only [problemFiles, found, Option.bind_some, isDomain, List.mem_filter, Option.any_eq_true,
    Problem.isForDomain]

theorem isDomain_of_mem_problemFiles {domainUri : Uri} {file : SourceFile} (member : file ∈ w.problemFiles domainUri) :
    ∃ domainFile, w.find? domainUri = some domainFile ∧ domainFile.isDomain = true := by
  unfold problemFiles at member
  split at member
  · rename_i d isDomain
    obtain ⟨domainFile, found, isDomain⟩ := Option.bind_eq_some_iff.mp isDomain
    exact ⟨domainFile, found, SourceFile.isDomain_iff.mpr ⟨d, isDomain⟩⟩
  · cases member

namespace Orderly

theorem mem_siblings_iff (orderly : Orderly w) {uri other : Uri} {file : SourceFile}
    (found : w.find? other = some file) : file ∈ w.siblings uri ↔ other.folder = uri.folder := by
  have sameFolder : file.uri.folder = other.folder := congrArg Prod.fst (orderly.find?_key found)
  constructor
  · intro member
    rw [← sameFolder, orderly.folder_of_mem_siblings member]
  · intro same
    rw [find?_eq_stored?, Uri.key, same] at found
    exact mem_filesIn_iff.mpr ⟨other.text, found⟩

theorem eq_of_uri (orderly : Orderly w) {uri other : Uri} {file file' : SourceFile} (found : w.find? uri = some file)
    (found' : w.find? other = some file') (same : file.uri = file'.uri) : file = file' := by
  have here := orderly.find?_uri found
  rw [same, orderly.find?_uri found'] at here
  exact (Option.some.inj here).symm

theorem domainsNamed_sorted (orderly : Orderly w) (uri : Uri) (name : String) :
    (w.domainsNamed uri name).Pairwise fun a b => a.text < b.text := by
  rw [domainsNamed, List.pairwise_map]
  exact (orderly.filesIn_sorted uri.folder).sublist List.filter_sublist

theorem mem_problemFiles_iff_named (orderly : Orderly w) {problemUri domainUri : Uri} {problem domain : SourceFile}
    {p : Problem} (known : w.find? problemUri = some problem) (isProblem : problem.problem? = some p)
    (found : w.find? domainUri = some domain) (isDomain : domain.isDomain = true) :
    problem ∈ w.problemFiles domainUri ↔ domain.uri ∈ w.domainsNamed problemUri p.domainName := by
  obtain ⟨d, isDomain⟩ := SourceFile.isDomain_iff.mp isDomain
  rw [mem_problemFiles_iff found isDomain, mem_domainsNamed, orderly.mem_siblings_iff known]
  constructor
  · rintro ⟨sameFolder, p', isProblem', named⟩
    rw [isProblem, Option.some.injEq] at isProblem'
    subst isProblem'
    have sibling : domain ∈ w.siblings problemUri := (orderly.mem_siblings_iff found).mpr sameFolder.symm
    exact ⟨domain, sibling, ⟨d, isDomain, by rwa [sameName_comm]⟩, rfl⟩
  · rintro ⟨other, sibling, ⟨d', isDomain', named⟩, sameUri⟩
    have isSame := orderly.eq_of_uri (orderly.find?_of_mem_siblings sibling) found sameUri
    subst isSame
    rw [isDomain, Option.some.injEq] at isDomain'
    subst isDomain'
    refine ⟨((orderly.mem_siblings_iff found).mp sibling).symm, p, isProblem, ?_⟩
    rwa [sameName_comm]

end Orderly

theorem domainBinding_of_problem {problemUri : Uri} {problem : SourceFile} {p : Problem}
    (known : w.find? problemUri = some problem) (isProblem : problem.problem? = some p) :
    w.domainBinding problemUri = .ofCandidates (w.domainsNamed problemUri p.domainName) := by
  have isKind : problem.kind = .problem p := by
    unfold SourceFile.problem? at isProblem
    split at isProblem
    · rename_i p' isKind
      rw [isKind, Option.some.inj isProblem]
    · cases isProblem
  simp only [domainBinding, known, Option.map_some, isKind]

theorem eq_singleton_of_sorted {uris : List Uri} {uri : Uri} (sorted : uris.Pairwise fun a b => a.text < b.text)
    (member : uri ∈ uris) (only : ∀ other ∈ uris, other = uri) : uris = [uri] := by
  cases uris with
  | nil => cases member
  | cons first rest =>
    cases rest with
    | nil => rw [only first List.mem_cons_self]
    | cons second rest =>
      have less := List.rel_of_pairwise_cons sorted List.mem_cons_self
      rw [only first (by simp), only second (by simp)] at less
      exact absurd less (String.lt_irrefl _)

namespace Orderly

theorem domains_of_mem_domainsNamed (orderly : Orderly w) {uri domainUri : Uri} {name : String}
    (named : domainUri ∈ w.domainsNamed uri name) :
    ∃ domain, w.find? domainUri = some domain ∧ domain.uri = domainUri ∧ domain.isDomain = true := by
  obtain ⟨domain, sibling, ⟨d, isDomain, _⟩, rfl⟩ := mem_domainsNamed.mp named
  exact ⟨domain, orderly.find?_of_mem_siblings sibling, rfl, SourceFile.isDomain_iff.mpr ⟨d, isDomain⟩⟩

variable {problemUri : Uri} {problem : SourceFile} {p : Problem}

theorem domainsNamed_eq_singleton_iff (orderly : Orderly w) (known : w.find? problemUri = some problem)
    (isProblem : problem.problem? = some p) {domainUri : Uri} {domain : SourceFile}
    (found : w.find? domainUri = some domain) (isDomain : domain.isDomain = true) :
    w.domainsNamed problemUri p.domainName = [domain.uri] ↔
      ∀ uri, problem ∈ w.problemFiles uri ↔ uri.key = domainUri.key := by
  have listed {uri : Uri} {domain : SourceFile} (found : w.find? uri = some domain)
      (isDomain : domain.isDomain = true) := orderly.mem_problemFiles_iff_named known isProblem found isDomain
  constructor
  · intro isSingle uri
    rw [isSingle] at listed
    constructor
    · intro member
      obtain ⟨other, found', isDomain'⟩ := isDomain_of_mem_problemFiles member
      have same : other.uri = domain.uri := List.mem_singleton.mp ((listed found' isDomain').mp member)
      rw [← orderly.find?_key found', same, orderly.find?_key found]
    · intro sameKey
      rw [find?_eq_stored?, ← sameKey, ← find?_eq_stored?] at found
      exact (listed found isDomain).mpr (List.mem_singleton_self _)
  · intro only
    have member := (listed found isDomain).mp ((only domainUri).mpr rfl)
    refine eq_singleton_of_sorted (orderly.domainsNamed_sorted _ _) member fun other isNamed => ?_
    obtain ⟨domain', found', rfl, isDomain'⟩ := orderly.domains_of_mem_domainsNamed isNamed
    have sameKey := (only domain'.uri).mp ((listed found' isDomain').mpr isNamed)
    rw [find?_eq_stored?, sameKey, ← find?_eq_stored?, found] at found'
    rw [Option.some.inj found']

theorem domainsNamed_eq_nil_iff (orderly : Orderly w) (known : w.find? problemUri = some problem)
    (isProblem : problem.problem? = some p) :
    w.domainsNamed problemUri p.domainName = [] ↔ ∀ uri, problem ∉ w.problemFiles uri := by
  constructor
  · intro isEmpty uri member
    obtain ⟨domain, found, isDomain⟩ := isDomain_of_mem_problemFiles member
    have named := (orderly.mem_problemFiles_iff_named known isProblem found isDomain).mp member
    rw [isEmpty] at named
    cases named
  · intro none
    refine List.eq_nil_iff_forall_not_mem.mpr fun uri isNamed => ?_
    obtain ⟨domain, found, rfl, isDomain⟩ := orderly.domains_of_mem_domainsNamed isNamed
    exact none domain.uri ((orderly.mem_problemFiles_iff_named known isProblem found isDomain).mpr isNamed)

theorem domainFile?_eq_some_iff (orderly : Orderly w) (known : w.find? problemUri = some problem)
    (isProblem : problem.problem? = some p) (domain : SourceFile) :
    w.domainFile? problemUri = some domain ↔
      w.find? domain.uri = some domain ∧ w.domainBinding problemUri = .unique domain.uri := by
  rw [domainFile?, Option.bind_eq_some_iff]
  simp only [Binding.uri?_eq_some_iff]
  constructor
  · rintro ⟨uri, isUnique, found⟩
    have isSingle := isUnique
    rw [domainBinding_of_problem known isProblem, Binding.ofCandidates_eq_unique_iff] at isSingle
    obtain ⟨domain', found', rfl, _⟩ :=
      orderly.domains_of_mem_domainsNamed (isSingle ▸ List.mem_singleton_self uri)
    rw [found, Option.some.injEq] at found'
    subst found'
    exact ⟨found, isUnique⟩
  · rintro ⟨found, isUnique⟩
    exact ⟨domain.uri, isUnique, found⟩

end Orderly

theorem domainBinding_of_domain {uri : Uri} {file : SourceFile} (known : w.find? uri = some file)
    (isDomain : file.isDomain = true) : w.domainBinding uri = .unique uri := by
  obtain ⟨d, isDomain⟩ := SourceFile.isDomain_iff.mp isDomain
  simp only [domainBinding, known, Option.map_some, SourceFile.kind_of_domain? isDomain]

theorem Orderly.mem_family_of_domainFile? (orderly : Orderly w) {uri : Uri} {file domainFile : SourceFile}
    (known : w.find? uri = some file) (bound : file.isDomain = true ∨ file.isProblem = true)
    (isDomainFile : w.domainFile? uri = some domainFile) :
    w.find? domainFile.uri = some domainFile ∧ domainFile.isDomain = true ∧ file ∈ w.family domainFile.uri := by
  rcases bound with isDomain | isProblem
  · rw [domainFile?, domainBinding_of_domain known isDomain, Binding.uri?, Option.bind_some, known,
      Option.some.injEq] at isDomainFile
    subst isDomainFile
    have stored := orderly.find?_uri known
    exact ⟨stored, isDomain, List.mem_append_left _ (Option.mem_toList.mpr stored)⟩
  · obtain ⟨p, isProblem⟩ := Option.isSome_iff_exists.mp isProblem
    obtain ⟨stored, isUnique⟩ := (orderly.domainFile?_eq_some_iff known isProblem domainFile).mp isDomainFile
    rw [domainBinding_of_problem known isProblem, Binding.ofCandidates_eq_unique_iff] at isUnique
    have named : domainFile.uri ∈ w.domainsNamed uri p.domainName := isUnique ▸ List.mem_singleton_self _
    obtain ⟨domain, found, _, isDomain⟩ := orderly.domains_of_mem_domainsNamed named
    rw [stored, Option.some.injEq] at found
    subst found
    have listed := (orderly.mem_problemFiles_iff_named known isProblem stored isDomain).mpr named
    exact ⟨stored, isDomain, List.mem_append_right _ listed⟩

/-- What the binding of a problem and the lists of problems of the domains say about each other. -/
structure Agreement (w : Workspace) (problemUri : Uri) (problem : SourceFile) : Prop where
  domains : ∀ uri ∈ (w.domainBinding problemUri).candidates,
    ∃ domain, w.find? uri = some domain ∧ domain.uri = uri ∧ domain.isDomain = true
  listed : ∀ domainUri domain, w.find? domainUri = some domain → domain.isDomain = true →
    (problem ∈ w.problemFiles domainUri ↔ domain.uri ∈ (w.domainBinding problemUri).candidates)
  unique : ∀ domainUri domain, w.find? domainUri = some domain → domain.isDomain = true →
    (w.domainBinding problemUri = .unique domain.uri ↔
      ∀ uri, problem ∈ w.problemFiles uri ↔ uri.key = domainUri.key)
  missing : w.domainBinding problemUri = .missing ↔ ∀ uri, problem ∉ w.problemFiles uri
  ambiguous : ∀ uris, w.domainBinding problemUri = .ambiguous uris →
    2 ≤ uris.length ∧ uris.Pairwise fun a b => a.text < b.text
  file : ∀ domain, w.domainFile? problemUri = some domain ↔
    w.find? domain.uri = some domain ∧ w.domainBinding problemUri = .unique domain.uri

/-- After any run, a domain is among those to choose from for a problem just if the problem is among its problems;
a binding is unique, missing or ambiguous just if one, no or several domains list the problem. -/
theorem bindings_agree (reader : FileReader) (operations : List Operation) {problemUri : Uri} {problem : SourceFile}
    (known : (run { reader } operations).find? problemUri = some problem) (isProblem : problem.isProblem = true) :
    Agreement (run { reader } operations) problemUri problem := by
  have orderly := (Orderly.fresh reader).run operations
  generalize run { reader } operations = w at known orderly
  obtain ⟨p, isProblem⟩ := Option.isSome_iff_exists.mp isProblem
  have isBinding := domainBinding_of_problem known isProblem
  refine ⟨?domains, ?listed, ?unique, ?missing, ?ambiguous, orderly.domainFile?_eq_some_iff known isProblem⟩
  case domains =>
    rw [isBinding, Binding.candidates_ofCandidates]
    exact fun uri named => orderly.domains_of_mem_domainsNamed named
  case listed =>
    rw [isBinding, Binding.candidates_ofCandidates]
    exact fun _ _ found isDomain => orderly.mem_problemFiles_iff_named known isProblem found isDomain
  case unique =>
    rw [isBinding]
    intro domainUri domain found isDomain
    rw [Binding.ofCandidates_eq_unique_iff]
    exact orderly.domainsNamed_eq_singleton_iff known isProblem found isDomain
  case missing =>
    rw [isBinding, Binding.ofCandidates_eq_missing_iff]
    exact orderly.domainsNamed_eq_nil_iff known isProblem
  case ambiguous =>
    intro uris isAmbiguous
    rw [isBinding] at isAmbiguous
    obtain ⟨rfl, several⟩ := Binding.of_ofCandidates_eq_ambiguous isAmbiguous
    exact ⟨several, orderly.domainsNamed_sorted problemUri p.domainName⟩

theorem bindings_agree_ambiguous :
    let reader : FileReader := ⟨0, {}, fun _ => .error (.path .missing)⟩
    let uri (path : String) : Uri := { scheme := "file", authority := some {}, path }
    let operations : List Operation :=
      [.upsert (uri "/w/p.pddl") 1 "(define (problem p) (:domain ROVER))".toList,
       .upsert (uri "/w/e.pddl") 1 "(define (domain Rover))".toList,
       .upsert (uri "/w/d.pddl") 1 "(define (domain rover))".toList,
       .upsert (uri "/v/d.pddl") 1 "(define (domain rover))".toList,
       .upsert (uri "/w/d.pddl") 2 "(define (domain lander))".toList]
    ∃ problem, (run { reader } operations).find? (uri "/w/p.pddl") = some problem ∧ problem.isProblem = true ∧
      (run { reader } operations).domainBinding (uri "/w/p.pddl") = .ambiguous [uri "/w/d.pddl", uri "/w/e.pddl"] ∧
      Agreement (run { reader } operations) (uri "/w/p.pddl") problem := by
  intro reader uri operations
  have isKnown : ((run { reader } operations).find? (uri "/w/p.pddl")).any (·.isProblem) = true := by
    decide +kernel
  obtain ⟨problem, known, isProblem⟩ := Option.any_eq_true _ _ |>.mp isKnown
  exact ⟨problem, known, isProblem, by decide +kernel, bindings_agree reader operations known isProblem⟩

end Workspace
end PddlAssist
