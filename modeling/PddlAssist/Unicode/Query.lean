import PddlAssist.Unicode.Age
import PddlAssist.Unicode.Property
import PddlAssist.Unicode.Script

namespace PddlAssist.Unicode

/-- A name in lower case, without blanks, dashes and underscores, and without `is` in front. The names
`isc` and `c` are different. -/
def looseName (cs : List Char) : String :=
  let plain (cs : List Char) : List Char :=
    (cs.filter fun c => c.toNat < 0x80 && c != ' ' && c != '_' && c != '-').map Char.toLower
  match cs with
  | a :: b :: rest =>
    if a.toLower = 'i' ∧ b.toLower = 's' then
      if plain rest = ['c'] then "isc" else String.ofList (plain rest)
    else String.ofList (plain cs)
  | _ => String.ofList (plain cs)

def valued : List String := ["age", "gc", "script", "scx", "block", "blk", "ccc", "name", "na"]

/-- The set that a name alone stands for: a property before a category, and a category before a
script. The names `cf`, `sc` and `lc` are categories. -/
def named? (cs : List Char) : Option CharSet :=
  let name := looseName cs
  if valued.contains name then none
  else
    (Property.named? name).or <|
      (Category.named? name).or <| (Script.find? name).map Script.members

def valued? (property value : List Char) : Option CharSet :=
  let value := looseName value
  match looseName property with
  | "gc" | "generalcategory" => Category.named? value
  | "sc" | "script" => (Script.find? value).map Script.members
  | "scx" | "scriptextensions" => (Script.find? value).map Script.extended
  | "age" => age? value
  | _ => none

end PddlAssist.Unicode
