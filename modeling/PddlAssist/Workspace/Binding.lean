import PddlAssist.Workspace

namespace PddlAssist

open Text

inductive Binding where
  | unique (uri : Uri)
  | missing
  | ambiguous (uris : List Uri)
  deriving DecidableEq, Repr, Inhabited

namespace Binding

def ofCandidates : List Uri → Binding
  | [] => .missing
  | [uri] => .unique uri
  | uris => .ambiguous uris

def uri? : Binding → Option Uri
  | unique uri => some uri
  | _ => none

end Binding

namespace Workspace

def siblings (w : Workspace) (uri : Uri) : List SourceFile := w.filesIn uri.folder

def domainsNamed (w : Workspace) (uri : Uri) (name : String) : List Uri :=
  ((w.siblings uri).filter fun f => f.domain?.any (·.isName name)).map (·.uri)

/-- The domain that a file belongs to. A plan that names no domain may belong to any. -/
def domainBinding (w : Workspace) (uri : Uri) : Binding :=
  match (w.find? uri).map SourceFile.kind with
  | some (.domain _) => .unique uri
  | some (.problem problem) => .ofCandidates (w.domainsNamed uri problem.domainName)
  | some (.plan plan) =>
    match plan.domainName with
    | some name => .ofCandidates (w.domainsNamed uri name)
    | none => .ofCandidates (((w.siblings uri).filter (·.isDomain)).map (·.uri))
  | _ => .missing

def domainFile? (w : Workspace) (uri : Uri) : Option SourceFile := (w.domainBinding uri).uri?.bind w.find?

def problemFiles (w : Workspace) (domainUri : Uri) : List SourceFile :=
  match (w.find? domainUri).bind (·.domain?) with
  | some domain => (w.siblings domainUri).filter fun f => f.problem?.any (·.isForDomain domain.name)
  | none => []

def isPlan (f : SourceFile) : Bool :=
  match f.kind with
  | .plan _ => true
  | _ => false

def planFiles (w : Workspace) (domainUri : Uri) : List SourceFile :=
  (w.siblings domainUri).filter fun f =>
    isPlan f && (w.domainBinding f.uri).uri? == some domainUri

/-- The problem that a plan solves: it has the name that the plan declares, if it declares one, and
belongs to the same domain. -/
def problemBinding (w : Workspace) (uri : Uri) : Binding :=
  match (w.find? uri).map SourceFile.kind with
  | some (.plan plan) =>
    let isCandidate (f : SourceFile) : Bool :=
      f.problem?.any fun problem =>
        plan.problemName.all (sameName problem.name ·) && w.domainBinding f.uri == w.domainBinding uri
    .ofCandidates (((w.siblings uri).filter isCandidate).map (·.uri))
  | _ => .missing

end Workspace
end PddlAssist
