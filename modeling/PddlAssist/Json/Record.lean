import PddlAssist.Json

namespace PddlAssist.Json

structure Record where
  fields : List (Option Json)
  /-- The record was written as an array, and so has nothing to say about fields at its end. -/
  positional : Bool

def valuesFor (keys : List String) (entries : List (String × Json)) : List Json :=
  (entries.filter (keys.contains ·.1)).map (·.2)

def record? (fields : List (List String)) : Json → Option Record
  | obj entries =>
    let given := fields.map (valuesFor · entries)
    if given.any (·.length > 1) then none else some ⟨given.map List.head?, false⟩
  | arr items =>
    if items.length > fields.length then none
    else some ⟨(List.range fields.length).map (items[·]?), true⟩
  | _ => none

namespace Record

def get? (r : Record) (n : Nat) : Option Json := (r.fields[n]?).join

def required {α : Type} (r : Record) (n : Nat) (read : Json → Option α) : Option α :=
  (r.get? n).bind read

def withDefault {α : Type} (r : Record) (n : Nat) (default : α) (read : Json → Option α) : Option α :=
  match r.get? n with
  | some j => read j
  | none => some default

end Record

def optional? {α : Type} (read : Json → Option α) : Json → Option (Option α)
  | null => some none
  | j => (read j).map some

def str? : Json → Option String
  | str s => some s
  | _ => none

def bool? : Json → Option Bool
  | bool b => some b
  | _ => none

def natBelow? (bound : Nat) : Json → Option Nat
  | int n => if 0 ≤ n ∧ n < bound then some n.toNat else none
  | _ => none

def word64? (j : Json) : Option Nat := natBelow? (Nat.pow 2 64) j

def word32? (j : Json) : Option Nat := natBelow? (Nat.pow 2 32) j

def float? : Json → Option Float
  | int n => some (Decimal.nearest (n < 0) ⟨n.natAbs, 1⟩)
  | float x => some x
  | _ => none

def list? {α : Type} (read : Json → Option α) : Json → Option (List α)
  | arr items => items.mapM read
  | _ => none

end PddlAssist.Json
