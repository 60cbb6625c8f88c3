import RuneScan.Position
import RuneScan.Text.Quoted

/-!
A token's bytes with the position of its first rune. Malformed bytes are kept as they came.
-/

namespace RuneScan

structure Lexeme where
  text : List UInt8
  position : Position
deriving DecidableEq, Repr

def Lexeme.render (lexeme : Lexeme) : String :=
  Text.quote lexeme.text ++ " at " ++ lexeme.position.render

end RuneScan
