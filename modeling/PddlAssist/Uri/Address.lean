import PddlAssist.Decimal.Numeral
import PddlAssist.Json

namespace PddlAssist.Uri

def splitAll (mark : Char) : List Char → List (List Char)
  | [] => [[]]
  | c :: cs =>
    if c = mark then [] :: splitAll mark cs
    else
      match splitAll mark cs with
      | [] => [[c]]
      | part :: rest => (c :: part) :: rest

def digitsInBase? (base : Nat) (cs : List Char) : Option Nat :=
  cs.foldl (fun sum c => do
    let n ← sum
    let d ← Json.hexDigit? c
    if d < base then some (base * n + d) else none) (some 0)

structure Ipv4 where
  value : Nat
  deriving DecidableEq, Repr, Inhabited

namespace Ipv4

/-- A number that is decimal, octal behind a zero, or hexadecimal behind `0x`. -/
def number? : List Char → Option Nat
  | [] => none
  | '0' :: 'x' :: rest | '0' :: 'X' :: rest => digitsInBase? 16 rest
  | ['0'] => some 0
  | '0' :: rest => digitsInBase? 8 rest
  | cs => digitsInBase? 10 cs

/-- The parts between dots; a dot at the end is not followed by a part. -/
def parts (cs : List Char) : List (List Char) :=
  let all := splitAll '.' cs
  if 1 < all.length && all.getLast? == some [] then all.dropLast else all

def isMeant (cs : List Char) : Bool :=
  (parts cs).getLast?.any fun last =>
    (!last.isEmpty && last.all Char.isDigit) || (number? last).isSome

def ofNumbers? : (room : Nat) → List Nat → Option Nat
  | room, [last] => if last < Nat.pow 256 room then some last else none
  | room + 1, n :: rest =>
    if n < 256 then (ofNumbers? room rest).map (n * Nat.pow 256 room + ·) else none
  | _, _ => none

def ofText? (cs : List Char) : Option Ipv4 := do
  let numbers ← (parts cs).mapM number?
  if numbers.length ≤ 4 then (ofNumbers? 4 numbers).map (⟨·⟩) else none

def text (a : Ipv4) : List Char :=
  ['.'].intercalate ([3, 2, 1, 0].map fun i => Nat.toDigits 10 (a.value / Nat.pow 256 i % 256))

end Ipv4

structure Ipv6 where
  groups : List Nat
  deriving DecidableEq, Repr, Inhabited

namespace Ipv6

/-- A byte in decimal digits without needless zeros. -/
def byte? (cs : List Char) : Option Nat :=
  let n := Decimal.digitsValue cs
  let isPlain := cs == ['0'] || (!cs.isEmpty && cs.head? != some '0')
  if cs.all Char.isDigit && isPlain && n < 256 then some n else none

def dotted? (cs : List Char) : Option (List Nat) := do
  match ← (splitAll '.' cs).mapM byte? with
  | [a, b, c, d] => some [256 * a + b, 256 * c + d]
  | _ => none

def group? (cs : List Char) : Option Nat :=
  if cs.isEmpty || 4 < cs.length then none else digitsInBase? 16 cs

/-- The groups of a text; only the last one may be written with dots. -/
def groupsOf? : List (List Char) → Option (List Nat)
  | [] => some []
  | [last] => if last.contains '.' then dotted? last else (group? last).map ([·])
  | part :: rest => do return (← group? part) :: (← groupsOf? rest)

def side? (cs : List Char) : Option (List Nat) :=
  if cs.isEmpty then some [] else groupsOf? (splitAll ':' cs)

def splitGap? : List Char → Option (List Char × List Char)
  | ':' :: ':' :: rest => some ([], rest)
  | c :: rest => (splitGap? rest).map fun (before, after) => (c :: before, after)
  | [] => none

def ofText? (cs : List Char) : Option Ipv6 :=
  match splitGap? cs with
  | none => do
    let groups ← side? cs
    if groups.length = 8 then some ⟨groups⟩ else none
  | some (before, after) => do
    if before.contains '.' then none
    let first ← side? before
    let last ← side? after
    let known := first.length + last.length
    if known < 8 then some ⟨first ++ List.replicate (8 - known) 0 ++ last⟩ else none

def leadingZeros (groups : List Nat) : Nat := (groups.takeWhile (· = 0)).length

def longestZeros (groups : List Nat) : Nat × Nat :=
  (List.range groups.length).foldl (fun best i =>
    let n := leadingZeros (groups.drop i)
    if best.2 < n then (i, n) else best) (0, 0)

def groupsText (groups : List Nat) : List Char :=
  [':'].intercalate (groups.map (Nat.toDigits 16))

/-- A single zero is written, a longer run is left out. -/
def text (a : Ipv6) : List Char :=
  let (start, length) := longestZeros a.groups
  if length < 2 then groupsText a.groups
  else
    groupsText (a.groups.take start) ++ [':', ':'] ++ groupsText (a.groups.drop (start + length))

end Ipv6
end PddlAssist.Uri
