namespace PddlAssist.HostName.Punycode

def base : Nat := 36

def digitChar (d : Nat) : Char := Char.ofNat (if d < 26 then 97 + d else 22 + d)

def digitValue? (c : Char) : Option Nat :=
  if c.isLower then some (c.toNat - 97)
  else if c.isUpper then some (c.toNat - 65)
  else if c.isDigit then some (c.toNat - 22)
  else none

/-- The least digit at a place after which a number goes on. -/
def threshold (place bias : Nat) : Nat := max 1 (min 26 (place - bias))

theorem threshold_pos (place bias : Nat) : 0 < threshold place bias := by
  unfold threshold
  omega

def scaleDown (distance count : Nat) : Nat × Nat :=
  if 455 < distance then scaleDown (distance / 35) (count + 1) else (distance, count)
termination_by distance
decreasing_by exact Nat.div_lt_self (by omega) (by omega)

def adapt (distance length : Nat) (isFirst : Bool) : Nat :=
  let halved := if isFirst then distance / 700 else distance / 2
  let (small, count) := scaleDown (halved + halved / length) 0
  base * count + base * small / (small + 38)

def writeNumber (bias place n : Nat) : List Char :=
  let t := threshold place bias
  if n < t then [digitChar n]
  else digitChar (t + (n - t) % (base - t)) :: writeNumber bias (place + base) ((n - t) / (base - t))
termination_by n
decreasing_by
  have positive := threshold_pos place bias
  exact Nat.lt_of_le_of_lt (Nat.div_le_self _ _) (by omega)

def readNumber? (bias : Nat) : (place weight sum : Nat) → List Char → Option (Nat × List Char)
  | _, _, _, [] => none
  | place, weight, sum, c :: rest =>
    (digitValue? c).bind fun d =>
      let t := threshold place bias
      if d < t then some (sum + d * weight, rest)
      else readNumber? bias (place + base) (weight * (base - t)) (sum + d * weight) rest

theorem length_readNumber? (bias place weight sum : Nat) (cs : List Char) (n : Nat)
    (rest : List Char) (read : readNumber? bias place weight sum cs = some (n, rest)) :
    rest.length < cs.length := by
  induction cs generalizing place weight sum with
  | nil => cases read
  | cons c cs ih =>
    unfold readNumber? at read
    cases digit : digitValue? c with
    | none => rw [digit] at read; cases read
    | some d =>
      rw [digit, Option.bind_some] at read
      by_cases small : d < threshold place bias
      · rw [if_pos small] at read
        cases read
        exact Nat.lt_succ_self _
      · rw [if_neg small] at read
        exact Nat.lt_succ_of_lt (ih _ _ _ read)

/-- What is known while the characters beyond ASCII are written. -/
structure Writer where
  text : List Char := []
  distance : Nat := 0
  bias : Nat := 72
  length : Nat

def Writer.pass (asciiLength code : Nat) (w : Writer) (n : Nat) : Writer :=
  if n < code then { w with distance := w.distance + 1 }
  else if n = code then
    { text := w.text ++ writeNumber w.bias base w.distance
      distance := 0
      bias := adapt w.distance (w.length + 1) (w.length = asciiLength)
      length := w.length + 1 }
  else w

/-- Writes the characters with the codes `todo`, in ascending order; `next` is the first code that is
not written. -/
def Writer.run (codes : List Nat) (asciiLength next : Nat) (w : Writer) : List Nat → Writer
  | [] => w
  | code :: todo =>
    let w := { w with distance := w.distance + (code - next) * (w.length + 1) }
    let w := codes.foldl (pass asciiLength code) w
    Writer.run codes asciiLength (code + 1) { w with distance := w.distance + 1 } todo

def encode (codes : List Nat) : List Char :=
  let ascii := codes.filter (· < 0x80)
  let others := ((codes.filter (0x80 ≤ ·)).mergeSort (· ≤ ·)).eraseDups
  ascii.map Char.ofNat ++ (if ascii.isEmpty then [] else ['-']) ++
    (Writer.run codes ascii.length 0x80 { length := ascii.length } others).text

/-- Puts the characters that a text describes into `known`; `code` and `place` say where the last one
went. -/
def insertAll? (bias code place : Nat) (known : List Nat) (cs : List Char) : Option (List Nat) :=
  match cs with
  | [] => some known
  | c :: rest =>
    match read : readNumber? bias base 1 place (c :: rest) with
    | none => none
    | some (sum, left) =>
      let length := known.length + 1
      let code := code + sum / length
      let next := sum % length
      if code.isValidChar then
        insertAll? (adapt (sum - place) length (place = 0)) code (next + 1)
          (known.insertIdx next code) left
      else none
termination_by cs.length
decreasing_by exact length_readNumber? _ _ _ _ _ _ _ read

/-- The ASCII characters of a written text, and the text that tells of the others. A dash in front
divides nothing. -/
def parts (cs : List Char) : List Char × List Char :=
  let tail := (cs.reverse.takeWhile (· != '-')).reverse
  let head := cs.take (cs.length - tail.length - 1)
  if head.isEmpty then ([], cs) else (head, tail)

def decode? (cs : List Char) : Option (List Nat) :=
  let (ascii, others) := parts cs
  if ascii.all (·.toNat < 0x80) then insertAll? 72 0x80 0 (ascii.map Char.toNat) others else none

end PddlAssist.HostName.Punycode
