import PddlAssist.Decimal.Numeral
import PddlAssist.Program.Shell
import PddlAssist.Program.Tool.Cat
import PddlAssist.Program.Tool.Printf
import PddlAssist.Program.Tool.Tail

namespace PddlAssist.Shell

open Text
open Tool (textBytes)

structure Machine where
  name : String := "sh"
  arguments : List String := []
  /-- The values of variables; the last one given comes first. -/
  bindings : List (String × String) := []
  files : Files := []
  input : Bytes := []
  output : Bytes := []
  errors : Bytes := []
  elapsed : Nat := 0
  last : Nat := 0
  inner : Nat := 0
  isStrict : Bool := false
  line : Nat := 1
  ended : Option ExitStatus := none
  deriving Inhabited

namespace Machine

def say (m : Machine) (bytes : Bytes) : Machine := { m with output := m.output ++ bytes, last := 0 }

def complain (m : Machine) (text : String) (status : Nat) : Machine :=
  { m with
    errors := m.errors ++ textBytes (m.name ++ ": " ++ toString m.line ++ ": " ++ text ++ "\n")
    last := status }

def stop (m : Machine) (status : ExitStatus) : Machine := { m with ended := some status }

def status (m : Machine) : ExitStatus := m.ended.getD (.code m.last)

def outcome (m : Machine) : Outcome :=
  { status := m.status, output := m.output, errors := m.errors, elapsed := m.elapsed }

def statusNumber (m : Machine) : Nat :=
  match m.status with
  | .code n => n
  | .signal n => 128 + n

end Machine

def ownProcess : String := "$$"

def value (m : Machine) (name : String) : String :=
  match name with
  | "$" => ownProcess
  | "#" => toString m.arguments.length
  | "?" => toString m.last
  | "@" | "*" => " ".intercalate m.arguments
  | "0" => m.name
  | _ =>
    if !name.isEmpty && name.toList.all Char.isDigit then
      (m.arguments[Decimal.digitsValue name.toList - 1]?).getD ""
    else (m.bindings.lookup name).getD ""

structure Fields where
  done : List String := []
  current : Option (List Char) := none

namespace Fields

def put (f : Fields) (cs : List Char) : Fields := { f with current := some (f.current.getD [] ++ cs) }

def divide (f : Fields) : Fields :=
  match f.current with
  | none => f
  | some cs => { done := String.ofList cs :: f.done }

def putDivided (f : Fields) (cs : List Char) : Fields :=
  cs.foldl (fun f c => if isBlank c then f.divide else f.put [c]) f

def putAll (f : Fields) : List String → Fields
  | [] => f
  | [last] => f.put last.toList
  | text :: rest => putAll (f.put text.toList).divide rest

def toList (f : Fields) : List String := f.divide.done.reverse

end Fields

abbrev Runner := Machine → List Char → Machine

/-- The output of a script without the line breaks at its end. The script is a process of its own. -/
def outputOf (run : Runner) (m : Machine) (line : Nat) (script : List Char) :
    Machine × List Char :=
  let after := run { m with output := [], line } script
  let text := ((decodeLossy after.output).reverse.dropWhile (· == '\n')).reverse
  ({ m with
      input := after.input, errors := after.errors, elapsed := after.elapsed
      files := after.files, inner := after.statusNumber }, text)

def addPart (run : Runner) (state : Machine × Fields) (part : Part) : Machine × Fields :=
  let (m, f) := state
  match part with
  | .text cs _ => (m, f.put cs)
  | .parameter name isQuoted =>
    if isQuoted then
      (m, if name = "@" then f.putAll m.arguments else f.put (value m name).toList)
    else (m, f.putDivided (value m name).toList)
  | .output script line isQuoted =>
    let (m, text) := outputOf run m line script
    (m, if isQuoted then f.put text else f.putDivided text)

def expand (run : Runner) (m : Machine) (w : Word) : Machine × List String :=
  let (m, f) := w.foldl (addPart run) (m, {})
  (m, f.toList)

def expandText (run : Runner) (m : Machine) (w : Word) : Machine × String :=
  let (m, texts) := expand run m w
  (m, " ".intercalate texts)

def expandAll (run : Runner) (m : Machine) : List Word → Machine × List String
  | [] => (m, [])
  | w :: rest =>
    let (m, texts) := expand run m w
    let (m, more) := expandAll run m rest
    (m, texts ++ more)

def assignment? : Word → Option (String × Word)
  | .text cs false :: rest =>
    let name := cs.takeWhile isNameChar
    match name, cs.drop name.length with
    | c :: _, '=' :: value =>
      if c.isDigit then none else some (String.ofList name, .text value false :: rest)
    | _, _ => none
  | _ => none

def natOf? (s : String) : Option Nat :=
  if !s.isEmpty && s.toList.all Char.isDigit then some (Decimal.digitsValue s.toList) else none

def milliseconds (s : String) : Nat :=
  match Decimal.numeral? s with
  | some x => (x * 1000).toUInt64.toNat
  | none => 0

def exit (m : Machine) : List String → Machine
  | [] => m.stop (.code m.last)
  | text :: _ =>
    match natOf? text with
    | some n => m.stop (.code (n % 256))
    | none => (m.complain ("exit: Illegal number: " ++ text) 2).stop (.code 2)

def signal? (s : String) : Option Nat :=
  match natOf? s with
  | some n => if n ≤ 64 then some n else none
  | none => (ExitStatus.signalNames.find? fun (_, name) => name == "SIG" ++ s).map (·.1)

/-- Signals that end no process which does not ask for it. -/
def isHarmless (signal : Nat) : Bool := [0, 17, 18, 23, 28].contains signal

def sendSignal (m : Machine) (signal : Nat) : Machine :=
  if isHarmless signal then { m with last := 0 } else m.stop (.signal signal)

def killUsage : String :=
  "kill: Usage: kill [-s sigspec | -signum | -sigspec] [pid | job]... or\nkill -l [exitstatus]"

def kill (m : Machine) : List String → Machine
  | [] => m.complain killUsage 2
  | [target] =>
    if target = ownProcess then sendSignal m 15
    else if target.toList.head? == some '-' then m.complain killUsage 2
    else m.complain "kill: No such process\n" 1
  | "-s" :: name :: _ =>
    match signal? name with
    | some signal => sendSignal m signal
    | none => m.complain ("kill: invalid signal number or name: " ++ name) 2
  | flag :: _ =>
    match signal? (String.ofList flag.toList.tail) with
    | some signal => sendSignal m signal
    | none => m.complain ("kill: Illegal option -" ++ String.ofList (flag.toList.tail.take 1)) 2

def intOf? (s : String) : Option Int :=
  match s.toList with
  | '-' :: rest => (natOf? (String.ofList rest)).map fun n => -(n : Int)
  | _ => (natOf? s).map Int.ofNat

def condition? (files : Files) : List String → Option Bool
  | [] => some false
  | [text] => some (text != "")
  | ["!", text] => some (text == "")
  | [test, text] =>
    match test with
    | "-z" => some (text == "")
    | "-n" => some (text != "")
    | "-e" => some (Place.find files text).toBool
    | "-f" => some (Place.read files text).toBool
    | "-d" => some ((Place.find files text).toOption == some .folder)
    | _ => none
  | ["!", test, text] => (condition? files [test, text]).map (!·)
  | [a, test, b] =>
    let compare (holds : Int → Int → Bool) : Option Bool := do return holds (← intOf? a) (← intOf? b)
    match test with
    | "=" => some (a == b)
    | "!=" => some (a != b)
    | "-eq" => compare (· == ·)
    | "-ne" => compare (· != ·)
    | "-lt" => compare (· < ·)
    | "-le" => compare (· ≤ ·)
    | "-gt" => compare (· > ·)
    | "-ge" => compare (· ≥ ·)
    | _ => none
  | _ => none

def test (m : Machine) (name : String) (words : List String) : Machine :=
  match condition? m.files words with
  | some holds => { m with last := if holds then 0 else 1 }
  | none => m.complain (name ++ ": " ++ words.headD "" ++ ": unexpected operator") 2

/-- A line and what stands after it, or `none` if the line does not end. Unless the line is raw, a
backslash takes the meaning from the next character, and a line that ends in one goes on. -/
def splitLine (isRaw : Bool) : Bytes → Bytes × Option Bytes
  | [] => ([], none)
  | [b] => if b = 10 then ([], some []) else if b = 92 && !isRaw then ([], none) else ([b], none)
  | a :: b :: rest =>
    if a = 10 then ([], some (b :: rest))
    else if a = 92 && !isRaw then
      let (line, after) := splitLine isRaw rest
      (if b = 10 then line else b :: line, after)
    else
      let (line, after) := splitLine isRaw (b :: rest)
      (a :: line, after)

def readLine (m : Machine) (words : List String) : Machine :=
  let (line, rest) := splitLine (words.head? == some "-r") m.input
  let text := String.ofList (trim (decodeLossy line))
  let names := words.filter (· != "-r")
  { m with
    input := rest.getD []
    bindings := (names.head?.map (·, text)).toList ++ m.bindings
    last := if rest.isNone then 1 else 0 }

def printf (m : Machine) : List String → Machine
  | [] => m.complain "printf: usage: printf format [arg ...]" 2
  | pattern :: arguments =>
    let (written, wrong) := Tool.Printf.write pattern arguments
    let said := m.say written
    wrong.foldl (fun m text => m.complain ("printf: " ++ text ++ ": expected numeric value") 1) said

def builtin? (m : Machine) : List String → Option Machine
  | "echo" :: words => some (m.say (Tool.Echo.builtin words))
  | "printf" :: words => some (printf m words)
  | "exit" :: words | "return" :: words => some (exit m words)
  | "kill" :: words => some (kill m words)
  | "true" :: _ | ":" :: _ | "export" :: _ | "wait" :: _ | "umask" :: _ => some { m with last := 0 }
  | "false" :: _ => some { m with last := 1 }
  | "set" :: "-e" :: _ => some { m with isStrict := true, last := 0 }
  | "shift" :: _ => some { m with arguments := m.arguments.tail, last := 0 }
  | "read" :: names => some (readLine m names)
  | "test" :: words => some (test m "test" words)
  | "[" :: words =>
    some (if words.getLast? == some "]" then test m "[" words.dropLast else m.complain "[: missing ]" 2)
  | _ => none

def toolNames : List String :=
  ["cat", "echo", "printf", "head", "tail", "sleep", "true", "false", "sh", "dash"]

def toolFolders : List String := ["/bin/", "/usr/bin/"]

def toolOf? (program : String) : Option String :=
  (toolNames.find? (· == program)).or <|
    toolNames.find? fun tool => toolFolders.any fun folder => program == folder ++ tool

def withTools (files : Files) : Files :=
  files ++ toolFolders.flatMap fun folder => toolNames.map fun tool => (folder ++ tool, [])

def Machine.take (m : Machine) (r : Tool.Result) : Machine :=
  { m with
    input := r.input
    output := m.output ++ r.output
    errors := m.errors ++ r.errors
    last := r.status }

structure Call where
  isScript : Bool := false
  isStrict : Bool := false
  words : List String := []

def shellLetters : List Char :=
  ['a', 'b', 'C', 'c', 'e', 'E', 'f', 'I', 'i', 'm', 'n', 's', 'u', 'V', 'v', 'x']

def readCall (call : Call) : List String → Except Char Call
  | [] => .ok call
  | word :: rest =>
    match word.toList with
    | ['-', '-'] | ['-'] => .ok { call with words := rest }
    | '-' :: letters =>
      match letters.find? (!shellLetters.contains ·) with
      | some c => .error c
      | none =>
        readCall { call with
          isScript := call.isScript || letters.contains 'c'
          isStrict := call.isStrict || letters.contains 'e' } rest
    | _ => .ok { call with words := word :: rest }

def runShell (run : Runner) (m : Machine) (name : String) (arguments : List String) : Machine :=
  let fail (text : String) : Machine := ({ m with name, line := 0 }.complain text 2).stop (.code 2)
  match readCall {} arguments with
  | .error c => fail ("Illegal option -" ++ String.singleton c)
  | .ok call =>
    let start := { m with name, isStrict := call.isStrict, line := 1, bindings := [] }
    match call.isScript, call.words with
    | true, [] => fail "-c requires an argument"
    | true, script :: rest =>
      run { start with name := rest.headD name, arguments := rest.drop 1 } script.toList
    | false, [] => run { start with input := [], arguments := [] } (decodeLossy m.input)
    | false, path :: rest =>
      match Place.read m.files path with
      | .ok bytes => run { start with name := path, arguments := rest } (decodeLossy bytes)
      | .error _ => fail ("cannot open " ++ path ++ ": No such file")

def runTool (run : Runner) (m : Machine) (tool program : String) (arguments : List String) : Machine :=
  match tool with
  | "cat" => m.take (Tool.Cat.run program arguments m.files m.input)
  | "tail" => m.take (Tool.Tail.run program arguments m.files m.input)
  | "head" => m.take (Tool.Head.run program arguments m.files m.input)
  | "echo" => m.say (Tool.Echo.program false true arguments)
  | "printf" => m.say (Tool.Printf.write (arguments.headD "") arguments.tail).1
  | "sleep" => { m with elapsed := m.elapsed + milliseconds (arguments.headD ""), last := 0 }
  | "false" => { m with last := 1 }
  | "sh" | "dash" => runShell run m program arguments
  | _ => { m with last := 0 }

/-- A program that a script runs is another process: what ends it does not end the script. -/
def runProgram (run : Runner) (m : Machine) (tool program : String) (arguments : List String) :
    Machine :=
  let after := runTool run m tool program arguments
  { m with
    input := after.input, output := after.output, errors := after.errors, elapsed := after.elapsed
    files := after.files, last := after.statusNumber }

def runWords (run : Runner) (m : Machine) (words : List String) : Machine :=
  match words with
  | [] => { m with last := m.inner }
  | "exec" :: program :: arguments =>
    match toolOf? program with
    | some tool =>
      let after := runProgram run m tool program arguments
      after.stop (.code after.last)
    | none => (m.complain ("exec: " ++ program ++ ": not found") 127).stop (.code 127)
  | "eval" :: words => run { m with line := 1 } (" ".intercalate words).toList
  | program :: arguments =>
    match builtin? m words, toolOf? program with
    | some after, _ => after
    | none, some tool => runProgram run m tool program arguments
    | none, none =>
      if program.toList.contains '/' && (Place.find m.files program).toBool then
        m.complain (program ++ ": Permission denied") 126
      else m.complain (program ++ ": not found") 127

def splitAssignments : List Word → List (String × Word) × List Word
  | [] => ([], [])
  | w :: rest =>
    match assignment? w with
    | some pair =>
      let (pairs, words) := splitAssignments rest
      (pair :: pairs, words)
    | none => ([], w :: rest)

def assign (run : Runner) (m : Machine) : List (String × Word) → Machine
  | [] => m
  | (name, w) :: rest =>
    let (m, text) := expandText run m w
    assign run { m with bindings := (name, text) :: m.bindings } rest

inductive Target where
  | output
  | errors
  | file (path : String) (isAppended : Bool)
  deriving DecidableEq, Repr, Inhabited

structure Streams where
  output : Target := .output
  errors : Target := .errors
  input : Option Bytes := none

def canCreate (files : Files) (path : String) : Bool :=
  match Place.find files path with
  | .ok (.file _) => true
  | .ok .folder => false
  | .error _ =>
    let folder := (path.toList.reverse.dropWhile (· != '/')).reverse
    folder.isEmpty || (Place.find files (String.ofList folder)).toBool

def streams (m : Machine) (s : Streams) : List (Nat × Redirection × String) → Except String Streams
  | [] => .ok s
  | (stream, kind, text) :: rest =>
    if kind = .input then
      match Place.read m.files text with
      | .ok bytes => streams m { s with input := some bytes } rest
      | .error _ => .error ("cannot open " ++ text ++ ": No such file")
    else
      let target? : Except String Target :=
        if text = "&1" then .ok s.output
        else if text = "&2" then .ok s.errors
        else if canCreate m.files text then .ok (.file text (kind = .append))
        else .error ("cannot create " ++ text ++ ": Directory nonexistent")
      match target? with
      | .error e => .error e
      | .ok target => streams m (if stream = 2 then { s with errors := target }
          else { s with output := target }) rest

def expandTargets (run : Runner) (m : Machine) :
    List (Nat × Redirection × Word) → Machine × List (Nat × Redirection × String)
  | [] => (m, [])
  | (stream, kind, w) :: rest =>
    let (m, text) := expandText run m w
    let (m, more) := expandTargets run m rest
    (m, (stream, kind, text) :: more)

def writeFile (files : Files) (path : String) (isAppended : Bool) (bytes : Bytes) : Files :=
  let old := if isAppended then (files.lookup path).getD [] else []
  if path = "/dev/null" then files else (path, old ++ bytes) :: files.filter (·.1 != path)

def send (m : Machine) (target : Target) (bytes : Bytes) : Machine :=
  match target with
  | .output => { m with output := m.output ++ bytes }
  | .errors => { m with errors := m.errors ++ bytes }
  | .file path isAppended => { m with files := writeFile m.files path isAppended bytes }

/-- Runs a command with its redirections. Values that variables get in front of words are theirs only
while the command runs. -/
def runStep (run : Runner) (m : Machine) (step : Step) : Machine :=
  let (pairs, words) := splitAssignments step.words
  let (m, fields) := expandAll run { m with line := step.line, inner := 0 } words
  let (m, redirects) := expandTargets run m step.redirects
  match streams m {} redirects with
  | .error e => m.complain e 2
  | .ok s =>
    let before := m
    let m := assign run m pairs
    let start := { m with output := [], errors := [], input := s.input.getD m.input }
    let after := runWords run start fields
    let keepsValues := pairs.isEmpty || fields.isEmpty
    let done :=
      { after with output := m.output, errors := m.errors,
                   input := if s.input.isSome then m.input else after.input,
                   bindings := if keepsValues then after.bindings else before.bindings }
    send (send done s.output after.output) s.errors after.errors

def runPipe (run : Runner) (m : Machine) : List Step → Machine
  | [] => m
  | [step] =>
    let after := runStep run m step
    { after with ended := none, last := after.statusNumber, bindings := m.bindings }
  | step :: rest =>
    let after := runStep run { m with output := [] } step
    let next := runPipe run
      { m with input := after.output, errors := after.errors, files := after.files
               elapsed := after.elapsed } rest
    { next with input := after.input }

def negated? (steps : List Step) : Option (List Step) :=
  match steps with
  | step :: rest =>
    match step.words with
    | [.text ['!'] false] :: words => some ({ step with words } :: rest)
    | _ => none
  | [] => none

def runPipeline (run : Runner) (m : Machine) (steps : List Step) : Machine :=
  let go (steps : List Step) : Machine :=
    match steps with
    | [step] => runStep run m step
    | several => runPipe run m several
  match negated? steps with
  | some steps =>
    let after := go steps
    { after with last := if after.last = 0 then 1 else 0 }
  | none => go steps

/-- Runs pipelines one after the other, as far as the ends before them ask for it. -/
def runAll (run : Runner) (m : Machine) : List Pipeline → Machine
  | [] => m
  | p :: rest =>
    let isSkipped := (p.connector == "&&" && m.last != 0) || (p.connector == "||" && m.last == 0)
    if m.ended.isSome then m
    else if isSkipped then runAll run m rest
    else
      let after := runPipeline run m p.steps
      let isTested := (rest.head?.any fun next => next.connector != ";") || (negated? p.steps).isSome
      if after.isStrict && after.last != 0 && !isTested && after.ended.isNone then
        after.stop (.code after.last)
      else runAll run after rest

def runScript : (depth : Nat) → Runner
  | 0, m, _ => m
  | depth + 1, m, script =>
    let program := readScript m.line script
    let after := runAll (runScript depth) m program.pipelines
    match program.complaint with
    | some (line, complaint) =>
      if after.ended.isSome then after
      else ({ after with line }.complain complaint 2).stop (.code 2)
    | none => after

def maxDepth : Nat := 64

def startError (files : Files) (program : String) : StartError :=
  if program.toList.contains '/' then
    match Place.find files program with
    | .ok _ => .path .denied
    | .error e => .path e
  else if Place.isTooLong program then .path .nameTooLong
  else if program = "." || program = ".." then .path .denied
  else .path .missing

/-- The files that a command can name: those of the machine, and those in its own folder also by their
names there. -/
def visible (command : Command) (files : Files) : Files :=
  let folder := command.folder.getD ""
  let here := files.filterMap fun (path, bytes) =>
    if !folder.isEmpty && folder.toList.isPrefixOf path.toList then
      some (String.ofList (path.toList.drop folder.toList.length), bytes)
    else none
  withTools (command.files ++ files ++ here)

/-- A machine with the given files, on which the tools are the programs. -/
def host (files : Files) : Host := fun command =>
  let files := visible command files
  if command.hasZeroCharacter then .error .zeroCharacter
  else
    match toolOf? command.program with
    | none => .error (startError files command.program)
    | some tool =>
      let start : Machine := { files, input := command.input }
      .ok (runTool (runScript maxDepth) start tool command.program command.arguments).outcome

end PddlAssist.Shell
