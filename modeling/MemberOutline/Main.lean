import MemberOutline.CommandLine.Arguments

/-!
# The program

The command line on the files and the standard streams of the system.
-/

namespace MemberOutline.Program

/-- What a failed read says of the name. -/
def faultOf : IO.Error → Fault
  | .noFileOrDirectory .. => .notFound
  | .inappropriateType .. => .isDirectory
  | e => .other (toString e)

/-- The text that bytes hold. -/
def textOf (bytes : ByteArray) : Except Fault Text :=
  match String.fromUTF8? bytes with
  | some s => .ok s.toList
  | none => .error .notText

/-- All bytes left in a stream, after those read before. -/
partial def readAll (stream : IO.FS.Stream) (bytes : ByteArray) : IO ByteArray := do
  let chunk ← stream.read 65536
  if chunk.isEmpty then return bytes else readAll stream (bytes ++ chunk)

/-- Whether the system has something of this kind under a name. -/
def isThere (path : String) (kind : IO.FS.FileType → Bool) : IO Bool := do
  match ← (System.mkFilePath [path]).metadata.toBaseIO with
  | .ok metadata => return kind metadata.type
  | .error _ => return false

/-- The host that the system is. -/
def systemHost : Host IO where
  pathExists path := isThere path fun _ => true
  isFile path := isThere path (· == .file)
  readFile path := do
    match ← (IO.FS.readBinFile path).toBaseIO with
    | .ok bytes => return textOf bytes
    | .error e => return .error (faultOf e)
  readInput := do return textOf (← readAll (← IO.getStdin) ByteArray.empty)
  workingDirectory := do
    match ← IO.currentDir.toBaseIO with
    | .ok directory => return .ok (toString directory)
    | .error e => return .error (faultOf e)

end MemberOutline.Program

/-- Runs the program with these arguments. -/
def main (arguments : List String) : IO UInt32 := do
  let outcome ←
    MemberOutline.CommandLine.run MemberOutline.CommandLine.programReaders
      MemberOutline.Program.systemHost arguments
  (← IO.getStdout).putStr (String.ofList outcome.output)
  for line in outcome.errors do
    IO.eprintln line
  return UInt32.ofNat outcome.code
