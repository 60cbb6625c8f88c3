/-!
Sets of runes that a reader can be asked to accept.
-/

namespace RuneScan

inductive RuneSet where
  | ofText (text : String)
  | single (rune : Char)
  | ofList (runes : List Char)
  | between (first last : Char)
deriving DecidableEq, Repr

def RuneSet.contains : RuneSet → Char → Bool
  | .ofText text, rune => text.toList.contains rune
  | .single member, rune => rune == member
  | .ofList members, rune => members.contains rune
  | .between first last, rune => first ≤ rune && rune ≤ last

end RuneScan
