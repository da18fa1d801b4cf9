import PddlAssist.Text.Utf8

namespace PddlAssist

open Text

inductive ExitStatus where
  | code (n : Nat)
  | signal (n : Nat)
  deriving DecidableEq, Repr, Inhabited

namespace ExitStatus

def isSuccess : ExitStatus → Bool
  | code n => n == 0
  | signal _ => false

def signalNames : List (Nat × String) :=
  [(1, "SIGHUP"), (2, "SIGINT"), (3, "SIGQUIT"), (4, "SIGILL"), (5, "SIGTRAP"), (6, "SIGABRT"),
   (7, "SIGBUS"), (8, "SIGFPE"), (9, "SIGKILL"), (10, "SIGUSR1"), (11, "SIGSEGV"),
   (12, "SIGUSR2"), (13, "SIGPIPE"), (14, "SIGALRM"), (15, "SIGTERM"), (16, "SIGSTKFLT"),
   (17, "SIGCHLD"), (18, "SIGCONT"), (19, "SIGSTOP"), (20, "SIGTSTP"), (21, "SIGTTIN"),
   (22, "SIGTTOU"), (23, "SIGURG"), (24, "SIGXCPU"), (25, "SIGXFSZ"), (26, "SIGVTALRM"),
   (27, "SIGPROF"), (28, "SIGWINCH"), (29, "SIGIO"), (30, "SIGPWR"), (31, "SIGSYS")]

def message : ExitStatus → String
  | code n => "exit status: " ++ toString n
  | signal n => "signal: " ++ toString n ++ ((signalNames.lookup n).elim "" fun name => " (" ++ name ++ ")")

end ExitStatus

structure Command where
  program : String
  arguments : List String
  folder : Option String := none
  input : Bytes := []
  files : List (String × Bytes) := []
  deriving Repr, Inhabited

def Command.line (c : Command) : String := " ".intercalate (c.program :: c.arguments)

def Command.hasZeroCharacter (c : Command) : Bool :=
  (c.program :: c.arguments).any fun word => word.toList.contains '\x00'

structure Outcome where
  status : ExitStatus
  output : Bytes
  errors : Bytes
  elapsed : Nat := 0
  deriving Repr, Inhabited

inductive PathError where
  | missing
  | denied
  | notFolder
  | isFolder
  | nameTooLong
  deriving DecidableEq, Repr, Inhabited

namespace PathError

def number : PathError → Nat
  | missing => 2
  | denied => 13
  | notFolder => 20
  | isFolder => 21
  | nameTooLong => 36

def message : PathError → String
  | missing => "No such file or directory"
  | denied => "Permission denied"
  | notFolder => "Not a directory"
  | isFolder => "Is a directory"
  | nameTooLong => "File name too long"

end PathError

inductive StartError where
  | zeroCharacter
  | path (e : PathError)
  deriving DecidableEq, Repr, Inhabited

def StartError.message : StartError → String
  | zeroCharacter => "nul byte found in provided data"
  | path e => e.message ++ " (os error " ++ toString e.number ++ ")"

/-- What a program does is not known here: a host says what each command yields. -/
abbrev Host := Command → Except StartError Outcome

end PddlAssist
