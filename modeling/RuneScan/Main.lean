import RuneScan.Lexer.Listing

/-!
The command line: lists the tokens of standard input.
-/

namespace RuneScan

/-- Everything that a stream has to give. -/
partial def readToEnd (stream : IO.FS.Stream) (before : ByteArray) : IO ByteArray := do
  let bytes ← stream.read 65536
  if bytes.isEmpty then pure before else readToEnd stream (before ++ bytes)

end RuneScan

def main : IO UInt32 := do
  let bytes ← RuneScan.readToEnd (← IO.getStdin) .empty
  let report := RuneScan.Lexer.Listing.report (.ofBytes bytes.toList)
  (← IO.getStdout).putStr report.output
  pure report.exitCode
