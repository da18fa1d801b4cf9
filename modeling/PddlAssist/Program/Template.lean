import PddlAssist.Program
import PddlAssist.Text.Blank
import PddlAssist.Text.Replace

namespace PddlAssist.Template

open Text

def domainMark : String := "$(domain)"

def problemMark : String := "$(problem)"

/-- The words of a template with the paths filled in. Words that name a problem are left out when
there is none. -/
def expand (template : String) (domain : String) (problem : Option String) : List String :=
  let fillProblem (word : String) : Option String :=
    if occursIn problemMark.toList word.toList then problem.map (replaced word problemMark)
    else some word
  ((wordsOf template).filterMap fillProblem).map (replaced · domainMark domain)

def sixDigits (n : Nat) : String :=
  let digits := Nat.toDigits 10 n
  String.ofList (List.replicate (6 - digits.length) '0' ++ digits)

/-- The path of a copy; different numbers give different paths. -/
def copyPath (role : String) (n : Nat) : String := "/tmp/" ++ role ++ sixDigits n ++ ".pddl"

def command? (arguments : List String) (files : List (String × Bytes)) : Option Command :=
  match arguments with
  | [] => none
  | program :: arguments => some { program, arguments, files }

end PddlAssist.Template
