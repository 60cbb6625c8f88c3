import RuneScan.Utf8.Segment

/-!
Byte text shown with each malformed stretch replaced by one U+FFFD.
-/

namespace RuneScan.Text

def lossy (bytes : List UInt8) : String :=
  String.ofList <| (Utf8.segments bytes).map fun
    | .scalar char => char
    | .malformed _ => Utf8.replacement

end RuneScan.Text
