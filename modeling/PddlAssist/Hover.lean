import PddlAssist.Domain

namespace PddlAssist.Hover

open Text

def sanitize (s : String) : String :=
  String.ofList ((trim s.toList).flatMap fun c =>
    if c = '|' then ['\\', '|'] else if c = '\n' then ['<', 'b', 'r', '>'] else [c])

def orNone (values : List String) : String :=
  if values.isEmpty then "(none)" else ", ".intercalate (values.map sanitize)

def documented (lines : List String) (documentation : Option String) : String :=
  "\n".intercalate (lines ++ documentation.elim [] fun doc => ["", sanitize doc])

def ofVariable (v : Variable) : String :=
  documented
    ["**" ++ v.kind.label ++ ":** " ++ sanitize v.name, "- Declaration: `(" ++ v.declaredName ++ ")`"]
    v.documentation

def ofType (domain : Domain) (name : String) : String :=
  documented
    ["**Type:** " ++ sanitize name, "- Parents: " ++ orNone (domain.hierarchy.parents name),
     "- Subtypes: " ++ orNone (domain.hierarchy.inheriting name)]
    none

def ofAction (a : Action) : String :=
  documented
    ["**" ++ a.kind.keyword ++ ":** " ++ sanitize a.name,
     "- Parameters: " ++
       if a.parameters.isEmpty then "(none)" else sanitize (Parameter.render a.parameters)]
    a.documentation

end PddlAssist.Hover
