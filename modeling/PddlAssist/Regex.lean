import PddlAssist.CharSet
import PddlAssist.Regex.Look

namespace PddlAssist

inductive Regex where
  | empty
  | char (set : CharSet)
  | look (condition : Regex.Look)
  | group (index : Nat) (inner : Regex)
  | seq (first second : Regex)
  | alt (first second : Regex)
  /-- From `low` times up to `high` times, or without end; as often or as seldom as possible. -/
  | repeated (greedy : Bool) (inner : Regex) (low : Nat) (high : Option Nat)
  deriving Inhabited

namespace Regex

def onlyEmpty : Regex → Bool
  | empty | look _ => true
  | char _ => false
  | group _ inner => inner.onlyEmpty
  | seq a b | alt a b => a.onlyEmpty && b.onlyEmpty
  | repeated _ inner _ high => high == some 0 || inner.onlyEmpty

/-- A repetition. What matches the empty text only is repeated at most once. -/
def times (greedy : Bool) (inner : Regex) (low : Nat) (high : Option Nat) : Regex :=
  if inner.onlyEmpty then repeated greedy inner (min low 1) (some (min (high.getD 1) 1))
  else repeated greedy inner low high

def seqOf : List Regex → Regex
  | [] => empty
  | [r] => r
  | r :: rest => seq r (seqOf rest)

def altOf : List Regex → Regex
  | [] => char {}
  | [r] => r
  | r :: rest => alt r (altOf rest)

end Regex
end PddlAssist
