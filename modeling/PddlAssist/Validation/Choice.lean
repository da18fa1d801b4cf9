import PddlAssist.Validation.Command
import PddlAssist.Validation.Service

namespace PddlAssist

open Text

def configured? (setting : Option String) : Option String :=
  (setting.map trimmed).filter (!·.isEmpty)

def Validation.choose (settings : ValidatorSettings) (host : Host) :
    Except ValidationError (Option Validator) :=
  match configured? settings.executable, configured? settings.url with
  | some template, _ =>
    (CommandValidator.of template settings.patterns settings.timeoutSecs).map fun v =>
      some (v.validator host)
  | none, some url => .ok (some (service url settings.timeoutSecs))
  | none, none => .ok none

end PddlAssist
