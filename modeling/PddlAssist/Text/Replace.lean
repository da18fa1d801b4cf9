namespace PddlAssist.Text

/-- `passing` counts the characters of the last occurrence that are still to pass. -/
def replaceFrom (wanted value : List Char) (passing : Nat) : List Char → List Char
  | [] => []
  | c :: cs =>
    if passing > 0 then replaceFrom wanted value (passing - 1) cs
    else if wanted.isPrefixOf (c :: cs) then
      value ++ replaceFrom wanted value (wanted.length - 1) cs
    else c :: replaceFrom wanted value 0 cs

def replaced (s : String) (wanted value : String) : String :=
  String.ofList (replaceFrom wanted.toList value.toList 0 s.toList)

def occursIn (wanted : List Char) : List Char → Bool
  | [] => wanted.isEmpty
  | c :: cs => wanted.isPrefixOf (c :: cs) || occursIn wanted cs

end PddlAssist.Text
