/-!
Lines and columns, both counted from one. A column counts runes, whatever their width in bytes.
-/

namespace RuneScan

structure Position where
  line : Nat
  column : Nat
deriving DecidableEq, Repr

namespace Position

def start : Position := ⟨1, 1⟩

/-- The position after a rune: a newline begins the next line. -/
def advance (position : Position) (rune : Char) : Position :=
  if rune = '\n' then ⟨position.line + 1, 1⟩ else ⟨position.line, position.column + 1⟩

def Precedes (earlier later : Position) : Prop :=
  earlier.line < later.line ∨ (earlier.line = later.line ∧ earlier.column < later.column)

instance : LT Position := ⟨Precedes⟩

instance (earlier later : Position) : Decidable (earlier < later) :=
  inferInstanceAs (Decidable (_ ∨ _))

def order (left right : Position) : Ordering :=
  if left < right then .lt else if right < left then .gt else .eq

def latest (left right : Position) : Position :=
  if left < right then right else left

def render (position : Position) : String :=
  toString position.line ++ ":" ++ toString position.column

end Position
end RuneScan
