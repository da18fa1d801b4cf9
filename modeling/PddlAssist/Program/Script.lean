import PddlAssist.Program.Shell.Run
import PddlAssist.Text.Replace

namespace PddlAssist

open Text

structure Script where
  output : String := ""
  errors : String := ""
  commands : String := ""
  status : Nat := 0
  deriving Repr, Inhabited

namespace Script

def programName : String := "\x7bscript\x7d"

def lastPart (path : String) : String :=
  String.ofList (path.toList.reverse.takeWhile (· != '/')).reverse

def fill (arguments : List String) (text : String) : String :=
  let first := arguments.headD ""
  let second := (arguments.drop 1).headD ""
  let marks := [("argc", toString arguments.length), ("1", first), ("2", second),
    ("1b", lastPart first), ("2b", lastPart second)]
  marks.foldl (fun text (name, value) => replaced text ("\x7b" ++ name ++ "\x7d") value) text

def run (script : Script) (command : Command) : Outcome :=
  let start : Shell.Machine :=
    { name := programName
      arguments := command.arguments
      files := Shell.withTools command.files
      output := Tool.textBytes (fill command.arguments script.output)
      errors := Tool.textBytes (fill command.arguments script.errors) }
  let done := Shell.runScript Shell.maxDepth start script.commands.toList
  { done.outcome with status := done.ended.getD (.code script.status) }

def host (script : Script) (others : Host) : Host := fun command =>
  if command.hasZeroCharacter then .error .zeroCharacter
  else if command.program = programName then .ok (script.run command)
  else others command

end Script
end PddlAssist
