import RuneScan.Unicode.Class
import RuneScan.Utf8.Segment

/-!
Byte text in quotes, with everything spelled out that would not be seen as itself: control
characters, malformed bytes, and characters that leave no mark of their own.
-/

namespace RuneScan.Text

def hexDigit (value : Nat) : Char :=
  Nat.digitChar (value % 16)

def escapeByte (byte : UInt8) : List Char :=
  ['\\', 'x', hexDigit (byte.toNat / 16), hexDigit byte.toNat]

def escapePoint (char : Char) : List Char :=
  ['\\', 'u', '\x7b'] ++ Nat.toDigits 16 char.toNat ++ ['\x7d']

/-- ASCII has its own escapes: short ones where they are customary, and the byte value for the other
control characters. -/
def quoteAscii (char : Char) : List Char :=
  if char = Char.ofNat 0 then ['\\', '0']
  else if char = '\t' then ['\\', 't']
  else if char = '\r' then ['\\', 'r']
  else if char = '\n' then ['\\', 'n']
  else if char = '\'' || char = '"' || char = '\\' then ['\\', char]
  else if char.toNat < 0x20 || char.toNat = 0x7F then escapeByte (UInt8.ofNat char.toNat)
  else [char]

def quoteChar (char : Char) : List Char :=
  if char.toNat < 0x80 then quoteAscii char
  else if char = Utf8.replacement || Unicode.standsAlone char then [char]
  else escapePoint char

def quoteSegment : Utf8.Segment → List Char
  | .scalar char => quoteChar char
  | .malformed bytes => bytes.flatMap escapeByte

def quote (bytes : List UInt8) : String :=
  String.ofList (['"'] ++ (Utf8.segments bytes).flatMap quoteSegment ++ ['"'])

end RuneScan.Text
