import Mathlib.Data.List.Forall2
import Mathlib.Data.List.Sort
import PddlAssist.Proofs.Workspace.Storage
import PddlAssist.Workspace.Binding

namespace PddlAssist

open Std (TreeMap)

theorem forall₂_snd {α β : Type} {R : β → β → Prop} {entries entries' : List (α × β)}
    (keys : entries.map Prod.fst = entries'.map Prod.fst)
    (related : ∀ key value value', (key, value) ∈ entries → (key, value') ∈ entries' → R value value') :
    List.Forall₂ R (entries.map Prod.snd) (entries'.map Prod.snd) := by
  induction entries generalizing entries' with
  | nil =>
    rw [List.map_nil, eq_comm, List.map_eq_nil_iff] at keys
    subst keys
    exact .nil
  | cons first rest ih =>
    cases entries' with
    | nil => cases keys
    | cons first' rest' =>
      obtain ⟨same, sameRest⟩ := List.cons.inj keys
      obtain ⟨key, value⟩ := first
      obtain ⟨key', value'⟩ := first'
      cases same
      refine .cons (related key value value' List.mem_cons_self List.mem_cons_self) (ih sameRest ?_)
      intro k v v' inRest inRest'
      exact related k v v' (List.mem_cons_of_mem _ inRest) (List.mem_cons_of_mem _ inRest')

theorem forall₂_imp_of_mem {α : Type} {R S : α → α → Prop} {left right : List α}
    (related : List.Forall₂ R left right) (imp : ∀ a b, a ∈ left → R a b → S a b) : List.Forall₂ S left right := by
  induction related with
  | nil => exact .nil
  | cons first _ ih =>
    refine .cons (imp _ _ List.mem_cons_self first) (ih fun a b member => ?_)
    exact imp a b (List.mem_cons_of_mem _ member)

theorem values_rel {β : Type} {R : β → β → Prop} {t t' : TreeMap String β}
    (related : ∀ key : String, Option.Rel R t[key]? t'[key]?) : List.Forall₂ R t.values t'.values := by
  have antisymmetric : Std.Antisymm fun a b : String => compare a b = .lt :=
    ⟨fun a b less more => by
      have swapped : compare a b = (compare b a).swap := Std.OrientedCmp.eq_swap
      rw [more, less] at swapped
      cases swapped⟩
  have irreflexive : Std.Irrefl fun a b : String => compare a b = .lt :=
    ⟨fun a less => by
      have self : compare a a = .eq := Std.ReflCmp.compare_self
      rw [self] at less
      cases less⟩
  have keys : t.keys = t'.keys := by
    refine TreeMap.ordered_keys.eq_of_mem_iff TreeMap.ordered_keys fun key => ?_
    rw [TreeMap.mem_keys, TreeMap.mem_keys, TreeMap.mem_iff_isSome_getElem?, TreeMap.mem_iff_isSome_getElem?]
    have same := related key
    generalize t[key]? = left, t'[key]? = right at same
    cases same <;> simp
  rw [values_eq_map_toList, values_eq_map_toList]
  refine forall₂_snd ?_ ?_
  · rw [TreeMap.map_fst_toList_eq_keys, TreeMap.map_fst_toList_eq_keys, keys]
  · intro key value value' inLeft inRight
    have same := related key
    rw [TreeMap.mem_toList_iff_getElem?_eq_some.mp inLeft, TreeMap.mem_toList_iff_getElem?_eq_some.mp inRight] at same
    cases same with
    | some same => exact same

/-- Kinds that are bound alike. -/
inductive FileKind.Kin : FileKind → FileKind → Prop where
  | domain {d d' : Domain} (name : d'.name = d.name) : Kin (.domain d) (.domain d')
  | problem {p p' : Problem} (name : p'.name = p.name) (domainName : p'.domainName = p.domainName) :
    Kin (.problem p) (.problem p')
  | plan (plan : Plan) : Kin (.plan plan) (.plan plan)
  | happenings (first second : List Happening) : Kin (.happenings first) (.happenings second)
  | unknown : Kin .unknown .unknown

theorem FileKind.Kin.refl (kind : FileKind) : Kin kind kind := by
  cases kind with
  | domain d => exact .domain rfl
  | problem p => exact .problem rfl rfl
  | plan p => exact .plan p
  | happenings hs => exact .happenings hs hs
  | unknown => exact .unknown

theorem FileKind.Kin.trans {first second third : FileKind} (left : Kin first second) (right : Kin second third) :
    Kin first third := by
  cases left with
  | domain name =>
    cases right with
    | domain name' => exact .domain (name'.trans name)
  | problem name domainName =>
    cases right with
    | problem name' domainName' => exact .problem (name'.trans name) (domainName'.trans domainName)
  | plan => exact right
  | happenings first _ =>
    cases right with
    | happenings _ third => exact .happenings first third
  | unknown => exact right

namespace SourceFile

structure Kin (f f' : SourceFile) : Prop where
  uri : f'.uri = f.uri
  kind : FileKind.Kin f.kind f'.kind

theorem Kin.refl (f : SourceFile) : Kin f f := ⟨rfl, .refl f.kind⟩

theorem Kin.trans {f g h : SourceFile} (left : Kin f g) (right : Kin g h) : Kin f h :=
  ⟨right.uri.trans left.uri, left.kind.trans right.kind⟩

theorem Kin.domain? {f f' : SourceFile} (kin : Kin f f') :
    Option.Rel (fun d d' : Domain => d'.name = d.name) f.domain? f'.domain? := by
  obtain ⟨_, kind⟩ := kin
  simp only [SourceFile.domain?]
  generalize f.kind = left, f'.kind = right at kind
  cases kind with
  | domain name => exact .some name
  | problem | plan | happenings | unknown => exact .none

theorem Kin.problem? {f f' : SourceFile} (kin : Kin f f') :
    Option.Rel (fun p p' : Problem => p'.name = p.name ∧ p'.domainName = p.domainName) f.problem? f'.problem? := by
  obtain ⟨_, kind⟩ := kin
  simp only [SourceFile.problem?]
  generalize f.kind = left, f'.kind = right at kind
  cases kind with
  | problem name domainName => exact .some ⟨name, domainName⟩
  | domain | plan | happenings | unknown => exact .none

theorem Kin.isDomain {f f' : SourceFile} (kin : Kin f f') : f'.isDomain = f.isDomain := by
  have known := kin.domain?
  rw [SourceFile.isDomain, SourceFile.isDomain]
  generalize f.domain? = left, f'.domain? = right at known
  cases known <;> rfl

theorem Kin.isPlan {f f' : SourceFile} (kin : Kin f f') : Workspace.isPlan f' = Workspace.isPlan f := by
  obtain ⟨_, kind⟩ := kin
  simp only [Workspace.isPlan]
  generalize f.kind = left, f'.kind = right at kind
  cases kind <;> rfl

end SourceFile

namespace Workspace

open SourceFile

def Related (R : SourceFile → SourceFile → Prop) (w w' : Workspace) : Prop :=
  ∀ key, Option.Rel R (w.stored? key) (w'.stored? key)

def RelatedIn (R : SourceFile → SourceFile → Prop) (folder : String) (w w' : Workspace) : Prop :=
  ∀ name, Option.Rel R (w.stored? (folder, name)) (w'.stored? (folder, name))

/-- The file of a domain and the files of its problems. -/
def family (w : Workspace) (domainUri : Uri) : List SourceFile :=
  (w.find? domainUri).toList ++ w.problemFiles domainUri

namespace Related

variable {R : SourceFile → SourceFile → Prop} {w w' : Workspace}

theorem refl (reflexive : ∀ f, R f f) (w : Workspace) : Related R w w := by
  intro key
  cases w.stored? key with
  | none => exact .none
  | some file => exact .some (reflexive file)

theorem trans (transitive : ∀ f g h, R f g → R g h → R f h) {w'' : Workspace} (left : Related R w w')
    (right : Related R w' w'') : Related R w w'' := by
  intro key
  have first := left key
  have second := right key
  generalize w.stored? key = a, w'.stored? key = b, w''.stored? key = c at first second
  cases first with
  | none => exact second
  | some first =>
    cases second with
    | some second => exact .some (transitive _ _ _ first second)

theorem imp {S : SourceFile → SourceFile → Prop} (related : Related R w w') (weaker : ∀ f f', R f f' → S f f') :
    Related S w w' := by
  intro key
  have first := related key
  generalize w.stored? key = a, w'.stored? key = b at first
  cases first with
  | none => exact .none
  | some first => exact .some (weaker _ _ first)

theorem put (reflexive : ∀ f, R f f) {current file : SourceFile} (found : w.find? file.uri = some current)
    (related : R current file) : Related R w (w.put file) := by
  intro key
  rw [stored?_put]
  split
  case isTrue same =>
    subst same
    rw [← find?_eq_stored?, found]
    exact .some related
  case isFalse => exact refl reflexive w key

theorem inFolder (related : Related R w w') (folder : String) : RelatedIn R folder w w' := fun name =>
  related (folder, name)

theorem find? (related : Related R w w') (uri : Uri) : Option.Rel R (w.find? uri) (w'.find? uri) := related uri.key

end Related

namespace RelatedIn

variable {R : SourceFile → SourceFile → Prop} {w w' : Workspace} {uri : Uri}

theorem of_eq (reflexive : ∀ f, R f f) {folder : String}
    (same : ∀ name, w'.stored? (folder, name) = w.stored? (folder, name)) : RelatedIn R folder w w' := by
  intro name
  rw [same]
  cases w.stored? (folder, name) with
  | none => exact .none
  | some file => exact .some (reflexive file)

theorem imp {S : SourceFile → SourceFile → Prop} {folder : String} (related : RelatedIn R folder w w')
    (weaker : ∀ f f', R f f' → S f f') : RelatedIn S folder w w' := by
  intro name
  have first := related name
  generalize w.stored? (folder, name) = a, w'.stored? (folder, name) = b at first
  cases first with
  | none => exact .none
  | some first => exact .some (weaker _ _ first)

theorem find? (related : RelatedIn R uri.folder w w') : Option.Rel R (w.find? uri) (w'.find? uri) := related uri.text

theorem siblings (related : RelatedIn R uri.folder w w') :
    List.Forall₂ R (w.siblings uri) (w'.siblings uri) := by
  refine values_rel fun name => ?_
  have same := related name
  simpa only [stored?, TreeMap.get?_eq_getElem?] using same

theorem filter_siblings (related : RelatedIn R uri.folder w w') {p q : SourceFile → Bool}
    (same : ∀ f f', R f f' → q f' = p f) :
    List.Forall₂ R ((w.siblings uri).filter p) ((w'.siblings uri).filter q) := by
  refine List.rel_filter ?_ related.siblings
  intro f f' alike
  simp only [same f f' alike]

theorem problemFiles (related : RelatedIn R uri.folder w w') (kin : ∀ f f', R f f' → SourceFile.Kin f f') :
    List.Forall₂ R (w.problemFiles uri) (w'.problemFiles uri) := by
  have found := related.find?
  simp only [Workspace.problemFiles]
  generalize w.find? uri = left, w'.find? uri = right at found
  cases found with
  | none => exact .nil
  | @some f f' alike =>
    have known := (kin f f' alike).domain?
    simp only [Option.bind_some]
    generalize f.domain? = left, f'.domain? = right at known
    cases known with
    | none => exact .nil
    | some name =>
      refine related.filter_siblings fun g g' alike => ?_
      have known := (kin g g' alike).problem?
      generalize g.problem? = left, g'.problem? = right at known
      cases known with
      | none => rfl
      | some names => simp only [Option.any_some, Problem.isForDomain, names.2, name]

theorem family (related : RelatedIn R uri.folder w w') (kin : ∀ f f', R f f' → SourceFile.Kin f f') :
    List.Forall₂ R (w.family uri) (w'.family uri) := by
  have found := related.find?
  simp only [Workspace.family]
  generalize w.find? uri = left, w'.find? uri = right at found
  cases found with
  | none => exact related.problemFiles kin
  | some alike => exact .cons alike (related.problemFiles kin)

theorem map_uri {files files' : List SourceFile} (alike : List.Forall₂ SourceFile.Kin files files') :
    files'.map (·.uri) = files.map (·.uri) := by
  induction alike with
  | nil => rfl
  | cons first _ ih => rw [List.map_cons, List.map_cons, first.uri, ih]

theorem domainsNamed (kin : RelatedIn SourceFile.Kin uri.folder w w') (name : String) :
    w'.domainsNamed uri name = w.domainsNamed uri name := by
  refine map_uri (kin.filter_siblings fun f f' alike => ?_)
  have known := alike.domain?
  generalize f.domain? = left, f'.domain? = right at known
  cases known with
  | none => rfl
  | some name => simp only [Option.any_some, Domain.isName, name]

theorem domainBinding (kin : RelatedIn SourceFile.Kin uri.folder w w') : w'.domainBinding uri = w.domainBinding uri := by
  have found := kin.find?
  simp only [Workspace.domainBinding]
  generalize w.find? uri = left, w'.find? uri = right at found
  cases found with
  | none => rfl
  | @some f f' alike =>
    have kind := alike.kind
    simp only [Option.map_some]
    generalize f.kind = left, f'.kind = right at kind
    cases kind with
    | domain => rfl
    | problem _ domainName => simp only [domainName, kin.domainsNamed]
    | plan plan =>
      have all := map_uri (kin.filter_siblings (p := (·.isDomain)) fun _ _ alike => alike.isDomain)
      simp only [kin.domainsNamed, all]
    | happenings | unknown => rfl

end RelatedIn

theorem Orderly.folder_of_mem_siblings {w : Workspace} (orderly : Orderly w) {uri : Uri} {file : SourceFile}
    (member : file ∈ w.siblings uri) : file.uri.folder = uri.folder := by
  obtain ⟨name, found⟩ := mem_filesIn_iff.mp member
  exact congrArg Prod.fst (orderly.keyed found)

theorem Orderly.find?_of_mem_siblings {w : Workspace} (orderly : Orderly w) {uri : Uri} {file : SourceFile}
    (member : file ∈ w.siblings uri) : w.find? file.uri = some file := by
  obtain ⟨name, found⟩ := mem_filesIn_iff.mp member
  exact orderly.find?_of_stored? found

theorem RelatedIn.planFiles {R : SourceFile → SourceFile → Prop} {w w' : Workspace} {uri : Uri} (orderly : Orderly w)
    (related : RelatedIn R uri.folder w w') (kin : ∀ f f', R f f' → SourceFile.Kin f f') :
    List.Forall₂ R (w.planFiles uri) (w'.planFiles uri) := by
  have alike : List.Forall₂ (fun f f' => R f f' ∧ f.uri.folder = uri.folder) (w.siblings uri) (w'.siblings uri) :=
    forall₂_imp_of_mem related.siblings fun f f' member alike => ⟨alike, orderly.folder_of_mem_siblings member⟩
  unfold Workspace.planFiles
  refine (List.rel_filter ?_ alike).imp fun _ _ both => both.1
  rintro f f' ⟨alike, inFolder⟩
  have kinIn := related.imp kin
  rw [← inFolder] at kinIn
  simp only [(kin f f' alike).isPlan, (kin f f' alike).uri, kinIn.domainBinding]

theorem mem_of_ofCandidates {uris : List Uri} {uri : Uri} (isUnique : (Binding.ofCandidates uris).uri? = some uri) :
    uri ∈ uris := by
  unfold Binding.ofCandidates at isUnique
  split at isUnique
  · cases isUnique
  · cases isUnique
    exact List.mem_singleton_self _
  · cases isUnique

theorem Orderly.folder_of_domainBinding {w : Workspace} (orderly : Orderly w) {uri domainUri : Uri}
    (isBound : (w.domainBinding uri).uri? = some domainUri) : domainUri.folder = uri.folder := by
  have unique {p : SourceFile → Bool}
      (isUnique : (Binding.ofCandidates (((w.siblings uri).filter p).map (·.uri))).uri? = some domainUri) :
      domainUri.folder = uri.folder := by
    obtain ⟨file, isCandidate, rfl⟩ := List.mem_map.mp (mem_of_ofCandidates isUnique)
    exact orderly.folder_of_mem_siblings (List.mem_filter.mp isCandidate).1
  unfold Workspace.domainBinding at isBound
  split at isBound
  · cases isBound
    rfl
  · exact unique isBound
  · split at isBound
    · exact unique isBound
    · exact unique isBound
  · cases isBound

theorem RelatedIn.domainFile? {R : SourceFile → SourceFile → Prop} {w w' : Workspace} {uri : Uri}
    (orderly : Orderly w) (related : RelatedIn R uri.folder w w') (kin : ∀ f f', R f f' → SourceFile.Kin f f') :
    Option.Rel R (w.domainFile? uri) (w'.domainFile? uri) := by
  unfold Workspace.domainFile?
  rw [(related.imp kin).domainBinding]
  cases isBound : (w.domainBinding uri).uri? with
  | none => exact .none
  | some domainUri =>
    have inFolder := orderly.folder_of_domainBinding isBound
    rw [← inFolder] at related
    exact related.find?

theorem RelatedIn.problemBinding_congr {w w' : Workspace} {uri : Uri}
    (kin : RelatedIn SourceFile.Kin uri.folder w w')
    (bound : ∀ other, other = uri ∨ other ∈ (w.siblings uri).map (·.uri) → w'.domainBinding other = w.domainBinding other) :
    w'.problemBinding uri = w.problemBinding uri := by
  have found := kin.find?
  simp only [Workspace.problemBinding]
  generalize w.find? uri = left, w'.find? uri = right at found
  cases found with
  | none => rfl
  | @some f f' alike =>
    have kind := alike.kind
    simp only [Option.map_some]
    generalize f.kind = left, f'.kind = right at kind
    cases kind with
    | plan plan =>
      have alike : List.Forall₂ (fun g g' => SourceFile.Kin g g' ∧ g.uri ∈ (w.siblings uri).map (·.uri))
          (w.siblings uri) (w'.siblings uri) :=
        forall₂_imp_of_mem kin.siblings fun g g' member alike => ⟨alike, List.mem_map_of_mem member⟩
      refine congrArg Binding.ofCandidates (RelatedIn.map_uri ((List.rel_filter ?_ alike).imp fun _ _ both => both.1))
      rintro g g' ⟨alike, member⟩
      have known := alike.problem?
      simp only [alike.uri, bound g.uri (.inr member), bound uri (.inl rfl)]
      generalize g.problem? = left, g'.problem? = right at known
      cases known with
      | none => rfl
      | some names => simp only [Option.any_some, names.1]
    | domain | problem | happenings | unknown => rfl

theorem RelatedIn.problemBinding {w w' : Workspace} {uri : Uri} (orderly : Orderly w)
    (kin : RelatedIn SourceFile.Kin uri.folder w w') : w'.problemBinding uri = w.problemBinding uri := by
  refine kin.problemBinding_congr fun other isOther => ?_
  have inFolder : other.folder = uri.folder := by
    rcases isOther with rfl | member
    · rfl
    · obtain ⟨file, sibling, rfl⟩ := List.mem_map.mp member
      exact orderly.folder_of_mem_siblings sibling
  rw [← inFolder] at kin
  exact kin.domainBinding

def Kin : Workspace → Workspace → Prop := Related SourceFile.Kin

namespace Kin

variable {w w' : Workspace}

theorem refl (w : Workspace) : Kin w w := Related.refl SourceFile.Kin.refl w

theorem trans {w'' : Workspace} (left : Kin w w') (right : Kin w' w'') : Kin w w'' :=
  Related.trans (fun _ _ _ first second => first.trans second) left right

theorem put {current file : SourceFile} (found : w.find? file.uri = some current)
    (alike : SourceFile.Kin current file) : Kin w (w.put file) := Related.put SourceFile.Kin.refl found alike

theorem domainBinding (kin : Kin w w') (uri : Uri) : w'.domainBinding uri = w.domainBinding uri :=
  (kin.inFolder uri.folder).domainBinding

theorem problemBinding (kin : Kin w w') (uri : Uri) : w'.problemBinding uri = w.problemBinding uri :=
  (kin.inFolder uri.folder).problemBinding_congr fun other _ => kin.domainBinding other

end Kin

theorem Orderly.filesIn_sorted {w : Workspace} (orderly : Orderly w) (folder : String) :
    (w.filesIn folder).Pairwise fun f g => f.uri.text < g.uri.text := by
  rw [filesIn, values_eq_map_toList, List.pairwise_map]
  refine TreeMap.ordered_keys_toList.imp_of_mem ?_
  intro first second isFirst isSecond less
  have keyOf {entry : String × SourceFile} (member : entry ∈ (w.folders.getD folder ∅).toList) :
      entry.2.uri.key = (folder, entry.1) :=
    orderly.keyed (TreeMap.mem_toList_iff_getElem?_eq_some.mp member)
  have isText := congrArg Prod.snd (keyOf isFirst)
  have isText' := congrArg Prod.snd (keyOf isSecond)
  simp only [Uri.key] at isText isText'
  rw [isText, isText']
  exact compareOfLessAndEq_eq_lt.mp less

theorem Orderly.filesIn_apart {w : Workspace} (orderly : Orderly w) (folder : String) :
    (w.filesIn folder).Pairwise fun f g => f.uri.key ≠ g.uri.key := by
  refine (orderly.filesIn_sorted folder).imp fun {f g} less same => ?_
  rw [show f.uri.text = g.uri.text from congrArg Prod.snd same] at less
  exact String.lt_irrefl _ less

theorem mem_problemFiles {w : Workspace} {domainUri : Uri} {file : SourceFile}
    (member : file ∈ w.problemFiles domainUri) : file ∈ w.siblings domainUri ∧ file.isProblem = true := by
  simp only [problemFiles] at member
  split at member
  · obtain ⟨isSibling, isFor⟩ := List.mem_filter.mp member
    refine ⟨isSibling, ?_⟩
    obtain ⟨problem, isProblem, _⟩ := Option.any_eq_true _ _ |>.mp isFor
    rw [SourceFile.isProblem, isProblem, Option.isSome_some]
  · cases member

end Workspace
end PddlAssist
