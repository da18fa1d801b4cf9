import PddlAssist.Regex

namespace PddlAssist.Regex

abbrev ByteRanges := List (Nat × Nat)

def byteCount (n : Nat) : Nat :=
  if n < 0x80 then 1 else if n < 0x800 then 2 else if n < 0x10000 then 3 else 4

def codeBytes (n : Nat) : List Nat :=
  match byteCount n with
  | 1 => [n]
  | 2 => [0xC0 + n / 64, 0x80 + n % 64]
  | 3 => [0xE0 + n / 4096, 0x80 + n / 64 % 64, 0x80 + n % 64]
  | _ => [0xF0 + n / 262144, 0x80 + n / 4096 % 64, 0x80 + n / 64 % 64, 0x80 + n % 64]

/-- Where a range of code points is cut first so that its parts have simple bytes: at a change of the
number of bytes, and where trailing bytes do not run through all their values. -/
def cut? (low high : Nat) : Option Nat :=
  let byLength := [0x7F, 0x7FF, 0xFFFF].find? fun m => low ≤ m && m < high
  let byTrail := [64, 4096, 262144].findSome? fun block =>
    if low / block = high / block then none
    else if low % block ≠ 0 then some (low / block * block + block - 1)
    else if high % block ≠ block - 1 then some (high / block * block - 1)
    else none
  byLength.or (if high < 0x80 then none else byTrail)

def byteRanges (fuel : Nat) (low high : Nat) : List ByteRanges :=
  match fuel with
  | 0 => []
  | fuel + 1 =>
    match cut? low high with
    | some m => byteRanges fuel low m ++ byteRanges fuel (m + 1) high
    | none => [(codeBytes low).zip (codeBytes high)]

def maxCuts : Nat := 16

def setBytes (s : CharSet) : List ByteRanges :=
  s.ranges.flatMap fun (low, high) => byteRanges maxCuts low high

def common : ByteRanges → ByteRanges → Nat
  | a :: as, b :: bs => if a = b then common as bs + 1 else 0
  | _, _ => 0

def sharedStates (previous : ByteRanges) : List ByteRanges → Nat
  | [] => 0
  | s :: rest => s.length - common previous s + sharedStates s rest

abbrev States := List (List (Nat × Nat × Nat) × Nat)

def stateFor (states : States) (ways : List (Nat × Nat × Nat)) : Nat × States :=
  match states.lookup ways with
  | some n => (n, states)
  | none => (states.length + 1, (ways, states.length + 1) :: states)

def splitFirst (first : Nat × Nat) : List ByteRanges → List ByteRanges × List ByteRanges
  | (a :: as) :: rest =>
    if a = first then
      let (same, others) := splitFirst first rest
      (as :: same, others)
    else ([], (a :: as) :: rest)
  | rest => ([], rest)

mutual

/-- The state from which some sequences lead to the end, state 0. Equal states are one. -/
def minimalState (fuel : Nat) (states : States) (seqs : List ByteRanges) : Nat × States :=
  match fuel with
  | 0 => (0, states)
  | fuel + 1 =>
    match seqs with
    | [] | [] :: _ => (0, states)
    | seqs =>
      let (ways, states) := minimalWays fuel states [] seqs
      stateFor states ways

def minimalWays (fuel : Nat) (states : States) (ways : List (Nat × Nat × Nat))
    (seqs : List ByteRanges) : List (Nat × Nat × Nat) × States :=
  match fuel with
  | 0 => (ways.reverse, states)
  | fuel + 1 =>
    match seqs with
    | (first :: _) :: _ =>
      let (same, others) := splitFirst first seqs
      let (next, states) := minimalState fuel states same
      minimalWays fuel states ((first.1, first.2, next) :: ways) others
    | _ => (ways.reverse, states)

end

def backwardSet (s : CharSet) : Nat :=
  let seqs := setBytes s
  32 * (sharedStates [] seqs + 2) + 4 * seqs.length

def forwardSet (s : CharSet) : Nat :=
  let seqs := setBytes s
  let (_, states) := minimalState (6 * seqs.length + 6) [] seqs
  32 * (states.length + 1) + 8 * (states.map fun (ways, _) => ways.length).foldl (· + ·) 0

/-- The room of a set: a single character takes its bytes, and a set of ASCII characters one state. -/
def setRoom (wide : CharSet → Nat) (s : CharSet) : Nat :=
  match s.ranges with
  | [(low, high)] =>
    if low = high then 32 * byteCount low else if high < 0x80 then 64 else wide s
  | ranges => if s.isAscii then 64 + 8 * ranges.length else wide s

def alternativeSet? : Regex → Option CharSet
  | char s => some s
  | alt a b =>
    match alternativeSet? a, alternativeSet? b with
    | some s, some t => some (s.union t)
    | _, _ => none
  | _ => none

structure Layout where
  wide : CharSet → Nat
  group : Nat

mutual

def room (l : Layout) : Regex → Nat
  | empty => 0
  | char s => setRoom l.wide s
  | look _ => 32
  | group _ inner => l.group + inside l inner
  | seq a b => room l a + room l b
  | alt a b =>
    match alternativeSet? (alt a b) with
    | some s => setRoom l.wide s
    | none => 64 + 4 + inside l a + branches l b
  | repeated _ inner low high =>
    match high with
    | some high =>
      let once := inside l inner
      if low = high then low * once
      else low * once + 32 + (high - low) * (once + 40)
    | none => (max low 1) * inside l inner + 40 + if low = 0 then 72 else 0

def inside (l : Layout) : Regex → Nat
  | empty => 32
  | r => room l r

def branches (l : Layout) : Regex → Nat
  | alt a b => 4 + inside l a + branches l b
  | r => 4 + inside l r

end

def maxRoom : Nat := 10 * 1048576

def frame (l : Layout) : Nat := 104 + l.group + 32

/-- A state takes 32 bytes, a byte range of a state with several 8 bytes, and a way out of a fork 4
bytes. States that are one take no more room than states that share their starts, so it need not be
asked which are one when there is room for all. -/
def fits (r : Regex) : Bool :=
  let backward : Layout := ⟨backwardSet, 0⟩
  let cautious : Layout := ⟨backwardSet, 64⟩
  let forward : Layout := ⟨forwardSet, 64⟩
  let within (l : Layout) : Bool := frame l + inside l r ≤ maxRoom
  within cautious || (within backward && within forward)

end PddlAssist.Regex
