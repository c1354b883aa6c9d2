/-!
# Access to files

The three things the program does with files, whatever holds them, and the ways in which they fail.
-/

namespace ProtoClass

/-- Why a file operation failed. -/
inductive FileFault where
  | notFound
  | alreadyExists
  | notADirectory
  | isADirectory
  /-- the content of a text file is not UTF-8 -/
  | invalidText
  | other (reason : String)
  deriving DecidableEq

def FileFault.message : FileFault → String
  | notFound => "No such file or directory (os error 2)"
  | alreadyExists => "File exists (os error 17)"
  | notADirectory => "Not a directory (os error 20)"
  | isADirectory => "Is a directory (os error 21)"
  | invalidText => "stream did not contain valid UTF-8"
  | other reason => reason

/-- Something that holds files. -/
class FileStore (m : Type → Type) where
  /-- the content of a file -/
  readFile : String → m (Except FileFault ByteArray)
  /-- creates a directory and those around it, as far as they are missing -/
  createDirs : String → m (Except FileFault Unit)
  /-- creates or replaces a file in an existing directory -/
  writeFile : String → ByteArray → m (Except FileFault Unit)

/-- The text in a file. -/
def readText {m : Type → Type} [Monad m] [FileStore m] (path : String) : m (Except FileFault String) := do
  let content ← FileStore.readFile path
  return content.bind fun bytes =>
    match String.fromUTF8? bytes with
    | some text => .ok text
    | none => .error .invalidText

end ProtoClass
