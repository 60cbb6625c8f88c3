import RuneScan.Unicode.Alphabetic
import RuneScan.Unicode.Numeric
import RuneScan.Unicode.Lowercase
import RuneScan.Unicode.Uppercase
import RuneScan.Unicode.GraphemeExtend
import RuneScan.Unicode.Unprintable

/-!
Classes of characters over the whole of Unicode.
-/

namespace RuneScan.Unicode

def whitespace : PointSet := ⟨[
    0x9, 0xE, 0x20, 0x21, 0x85, 0x86, 0xA0, 0xA1, 0x1680, 0x1681, 0x2000, 0x200B, 0x2028, 0x202A,
    0x202F, 0x2030, 0x205F, 0x2060, 0x3000, 0x3001]⟩

def isWhitespace (char : Char) : Bool :=
  whitespace.contains char

def isAlphabetic (char : Char) : Bool :=
  alphabetic.contains char

def isAlphanumeric (char : Char) : Bool :=
  alphabetic.contains char || numeric.contains char

def isLowercase (char : Char) : Bool :=
  lowercase.contains char

def isUppercase (char : Char) : Bool :=
  uppercase.contains char

/-- The letters with the property Grapheme_Extend: the halfwidth katakana voicing marks. They take
up a place of their own, as other letters do. -/
def voicingMarks : PointSet := ⟨[0xFF9E, 0xFFA0]⟩

/-- The letters with the property Default_Ignorable_Code_Point: the Hangul fillers. Of all code
points with that property, they alone are in neither `graphemeExtend` nor `unprintable`. -/
def fillers : PointSet := ⟨[0x115F, 0x1161, 0x3164, 0x3165, 0xFFA0, 0xFFA1]⟩

def joinsPrevious (char : Char) : Bool :=
  graphemeExtend.contains char && !voicingMarks.contains char

def isInvisible (char : Char) : Bool :=
  unprintable.contains char || fillers.contains char

def standsAlone (char : Char) : Bool :=
  !joinsPrevious char && !isInvisible char

end RuneScan.Unicode
