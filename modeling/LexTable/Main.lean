import LexTable.Cli.Run

/-!
# Entry point
-/

namespace LexTable.Cli

def ReadError.ofError : IO.Error → ReadError
  | .noFileOrDirectory .. => .notFound
  | .inappropriateType _ 21 _ => .isDirectory
  | .inappropriateType .. => .notDirectory
  | .permissionDenied _ 13 _ => .permissionDenied
  | error => .other (toString error)

/-- Reads a stream to its end, after the given bytes. -/
partial def readAfter (bytes : ByteArray) (stream : IO.FS.Stream) : IO ByteArray := do
  let more ← stream.read 65536
  if more.isEmpty then return bytes else readAfter (bytes ++ more) stream

def readInput (path : Option String) : IO (Except ReadError ByteArray) := do
  try
    match path with
    | none => return .ok (← readAfter .empty (← IO.getStdin))
    | some path => return .ok (← IO.FS.readBinFile path)
  catch error =>
    return .error (ReadError.ofError error)

end LexTable.Cli

def main (arguments : List String) : IO UInt32 := do
  let outcome ← LexTable.Cli.run LexTable.Cli.readInput arguments
  (← IO.getStderr).putStr outcome.errors
  (← IO.getStdout).putStr outcome.output
  return outcome.code.toUInt32
