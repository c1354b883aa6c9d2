import ProtoClass.Command.Run

/-!
# The program

The command line program on the files of the machine.
-/

namespace ProtoClass

/-- The fault that an error of the machine reports. -/
private def faultOf : IO.Error → FileFault
  | .noFileOrDirectory .. => .notFound
  | .alreadyExists .. => .alreadyExists
  | e => .other (toString e)

private def attempt {α : Type} (action : IO α) : IO (Except FileFault α) := do
  try
    return .ok (← action)
  catch e =>
    return .error (faultOf e)

instance : FileStore IO where
  readFile path := attempt (IO.FS.readBinFile path)
  createDirs path := attempt (if path.isEmpty then pure () else IO.FS.createDirAll path)
  writeFile path content := attempt (IO.FS.writeBinFile path content)

end ProtoClass

def main (args : List String) : IO UInt32 := do
  let outcome ← ProtoClass.Command.execute (m := IO) args
  IO.print outcome.output
  IO.eprint outcome.errors
  return outcome.exitCode.toUInt32
