import PddlAssist.Regex

namespace PddlAssist.Regex

inductive Instruction where
  | char (set : CharSet)
  | look (condition : Look)
  | mark (slot : Nat)
  | jump (distance : Int)
  | fork (first second : Int)
  | accept
  deriving Inhabited

/-- Into what follows, or past it; `greedy` prefers the former. -/
def branch (greedy : Bool) (past : Nat) : Instruction :=
  if greedy then .fork 1 past else .fork past 1

def oneOrMore (greedy : Bool) (code : List Instruction) : List Instruction :=
  let back : Int := -(code.length : Int)
  code ++ [if greedy then .fork back 1 else .fork 1 back]

def upTo (greedy : Bool) (code : List Instruction) : Nat → List Instruction
  | 0 => []
  | n + 1 => branch greedy ((n + 1) * (code.length + 1)) :: (code ++ upTo greedy code n)

def repeatCode (greedy : Bool) (code : List Instruction) (low : Nat) : Option Nat → List Instruction
  | some high => (List.replicate low code).flatten ++ upTo greedy code (high - low)
  | none =>
    match low with
    | 0 => branch greedy (code.length + 2) :: oneOrMore greedy code
    | n + 1 => (List.replicate n code).flatten ++ oneOrMore greedy code

def code : Regex → List Instruction
  | empty => []
  | char set => [.char set]
  | look condition => [.look condition]
  | group index inner => .mark (2 * index) :: (code inner ++ [.mark (2 * index + 1)])
  | seq first second => code first ++ code second
  | alt first second =>
    let a := code first
    let b := code second
    .fork 1 (a.length + 2) :: (a ++ .jump (b.length + 1) :: b)
  | repeated greedy inner low high => repeatCode greedy (code inner) low high

abbrev Program := Array Instruction

def program (r : Regex) : Program := (code (.group 0 r) ++ [Instruction.accept]).toArray

abbrev Marks := List (Nat × Nat)

structure Thread where
  next : Nat := 0
  marks : Marks := []
  deriving Inhabited

def Thread.move (t : Thread) (distance : Int) : Thread :=
  { t with next := ((t.next : Int) + distance).toNat }

/-- Follows threads up to the instructions that wait for a character or accept. A thread that comes to
an instruction where a preferred one has been is dropped; `left` counts the instructions that no
thread has reached. -/
def follow (p : Program) (before after : Option Char) (place : Nat) (left : Nat)
    (reached : Array Bool) (waiting : List Thread) : List Thread → List Thread
  | [] => waiting.reverse
  | t :: rest =>
    match reached[t.next]? with
    | some false =>
      match left with
      | 0 => waiting.reverse
      | left + 1 =>
        let reached := reached.set! t.next true
        match p[t.next]? with
        | some (.look condition) =>
          if condition.holds before after then
            follow p before after place left reached waiting (t.move 1 :: rest)
          else follow p before after place left reached waiting rest
        | some (.mark slot) =>
          let noted : Thread := { t.move 1 with marks := (slot, place) :: t.marks }
          follow p before after place left reached waiting (noted :: rest)
        | some (.jump distance) =>
          follow p before after place left reached waiting (t.move distance :: rest)
        | some (.fork first second) =>
          follow p before after place left reached waiting (t.move first :: t.move second :: rest)
        | _ => follow p before after place left reached (t :: waiting) rest
    | _ => follow p before after place left reached waiting rest
termination_by threads => (left, threads.length)

/-- The threads that go past a character, up to the first that accepts, and what that one noted. -/
def consume (p : Program) (c : Option Char) (past : List Thread) :
    List Thread → List Thread × Option Marks
  | [] => (past.reverse, none)
  | t :: rest =>
    match p[t.next]? with
    | some .accept => (past.reverse, some t.marks)
    | some (.char set) =>
      consume p c (if c.any set.contains then t.move 1 :: past else past) rest
    | _ => consume p c past rest

/-- The leftmost match. As long as there is none a new thread begins at each place, and it is the least
preferred there; `found` is the best match so far. -/
def searchFrom (p : Program) (threads : List Thread) (found : Option Marks)
    (before : Option Char) (place : Nat) : List Char → Option Marks
  | [] =>
    let threads := if found.isNone then threads ++ [{}] else threads
    let ready := follow p before none place p.size (Array.replicate p.size false) [] threads
    (consume p none [] ready).2.or found
  | c :: rest =>
    let threads := if found.isNone then threads ++ [{}] else threads
    let ready := follow p before (some c) place p.size (Array.replicate p.size false) [] threads
    let (threads, accepted) := consume p (some c) [] ready
    let found := accepted.or found
    if threads.isEmpty && found.isSome then found
    else searchFrom p threads found (some c) (place + 1) rest

def Marks.place? (m : Marks) (slot : Nat) : Option Nat := m.lookup slot

def Marks.span? (m : Marks) (index : Nat) : Option (Nat × Nat) :=
  match m.place? (2 * index), m.place? (2 * index + 1) with
  | some start, some stop => some (start, stop)
  | _, _ => none

/-- All matches from left to right, at `place` after the character `before`. Matches do not overlap,
and an empty match does not follow another match directly; `touching` says that a match ended here. -/
def matchesFrom (p : Program) (touching : Bool) (before : Option Char) (place : Nat)
    (cs : List Char) : List Marks :=
  match searchFrom p [] none before place cs with
  | none => []
  | some found =>
    let length := ((found.span? 0).elim place (·.2)) - place
    match cs with
    | [] => if touching then [] else [found]
    | c :: rest =>
      if length = 0 then
        let others := matchesFrom p false (some c) (place + 1) rest
        if touching then others else found :: others
      else
        found :: matchesFrom p true ((c :: rest)[length - 1]?) (place + length) (rest.drop (length - 1))
termination_by cs.length
decreasing_by
  · simp only [List.length_cons]
    omega
  · simp only [List.length_cons, List.length_drop]
    omega

def matchesIn (p : Program) (cs : List Char) : List Marks := matchesFrom p false none 0 cs

end PddlAssist.Regex
