import RuneScan.Unicode.Class
import RuneScan.Utf8.Decode

/-!
Tests on runes. The verdict on a rune may depend on the runes that the same test has been shown
before, which is all that a test with a memory can go by.
-/

namespace RuneScan

/-- From the runes shown before, in order, and the rune at hand, a verdict. -/
abbrev RuneTest := Array Char → Char → Bool

namespace RuneTest

def ofClass (member : Char → Bool) : RuneTest :=
  fun _ rune => member rune

def first (limit : Nat) : RuneTest :=
  fun shown _ => shown.size < limit

/-- Fails on every rune whose turn is a multiple of `period`. -/
def exceptEvery (period : Nat) : RuneTest :=
  fun shown _ => period = 0 || (shown.size + 1) % period ≠ 0

def negate (test : RuneTest) : RuneTest :=
  fun shown rune => !test shown rune

end RuneTest

inductive RuneClass where
  | any
  | none
  | even
  | ascii
  | newline
  | replacement
  | asciiDigit
  | asciiHexDigit
  | asciiAlphabetic
  | asciiPunctuation
  | alphabetic
  | alphanumeric
  | whitespace
  | lowercase
  | uppercase
deriving DecidableEq, Repr

def isAsciiDigit (rune : Char) : Bool :=
  '0' ≤ rune && rune ≤ '9'

def isAsciiLetter (rune : Char) : Bool :=
  ('a' ≤ rune && rune ≤ 'z') || ('A' ≤ rune && rune ≤ 'Z')

def isAsciiAlphanumeric (rune : Char) : Bool :=
  isAsciiLetter rune || isAsciiDigit rune

def isAsciiHexDigit (rune : Char) : Bool :=
  isAsciiDigit rune || ('a' ≤ rune && rune ≤ 'f') || ('A' ≤ rune && rune ≤ 'F')

def isAsciiPunctuation (rune : Char) : Bool :=
  '!' ≤ rune && rune ≤ '~' && !isAsciiAlphanumeric rune

def RuneClass.contains : RuneClass → Char → Bool
  | .any, _ => true
  | .none, _ => false
  | .even, rune => rune.toNat % 2 = 0
  | .ascii, rune => rune.toNat < 128
  | .newline, rune => rune == '\n'
  | .replacement, rune => rune == Utf8.replacement
  | .asciiDigit, rune => isAsciiDigit rune
  | .asciiHexDigit, rune => isAsciiHexDigit rune
  | .asciiAlphabetic, rune => isAsciiLetter rune
  | .asciiPunctuation, rune => isAsciiPunctuation rune
  | .alphabetic, rune => Unicode.isAlphabetic rune
  | .alphanumeric, rune => Unicode.isAlphanumeric rune
  | .whitespace, rune => Unicode.isWhitespace rune
  | .lowercase, rune => Unicode.isLowercase rune
  | .uppercase, rune => Unicode.isUppercase rune

end RuneScan
