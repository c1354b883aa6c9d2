import ProtoClass.Files.Store
import ProtoClass.Module.Path

/-!
# File trees

A file tree as a value.  A path is a list of names from the root; relative paths start at the working directory.
`FileTree` is an instance of `FileStore`, so that everything that works on files also works on trees.

A tree takes every text without slashes as a name, also those that file systems refuse: names with a NUL character and
names of more than 255 bytes.
-/

namespace ProtoClass

/-- What stands at a path. -/
inductive FileNode where
  | directory
  | file (content : ByteArray)

def FileNode.isDirectory : FileNode → Bool
  | directory => true
  | file _ => false

/-- A tree of files below the root, with a working directory. -/
structure FileTree where
  workDir : List String
  nodes : List (List String × FileNode)

namespace FileTree

/-- A tree that holds only its working directory. -/
def empty : FileTree := ⟨["work"], [(["work"], .directory)]⟩

/-- What stands at a full path; the root is a directory. -/
def node? (tree : FileTree) (path : List String) : Option FileNode :=
  if path.isEmpty then some .directory else tree.nodes.lookup path

/-- Puts a node at a full path. -/
def put (tree : FileTree) (path : List String) (node : FileNode) : FileTree :=
  { tree with nodes := tree.nodes.filter (·.1 != path) ++ [(path, node)] }

/-- The directory a path starts from. -/
def origin (tree : FileTree) (path : String) : List String :=
  if path.toList.head? = some '/' then [] else tree.workDir

/-- The names in a path; empty ones and single dots do not count. -/
def names (path : String) : List String :=
  (ModulePath.segments path).filter fun s => !(s.isEmpty || s == ".")

/-- A path that can only lead to a directory. -/
def endsInSlash (path : String) : Bool :=
  match (ModulePath.segments path).getLast? with
  | some last => last.isEmpty || last == "."
  | none => false

/-- Goes down, or up at two dots, from one directory to another. -/
def walk (tree : FileTree) (dir : List String) : List String → Except FileFault (List String)
  | [] => .ok dir
  | name :: rest =>
    if name = ".." then tree.walk dir.dropLast rest
    else
      match tree.node? (dir ++ [name]) with
      | none => .error .notFound
      | some (.file _) => .error .notADirectory
      | some .directory => tree.walk (dir ++ [name]) rest

/-- The full path to which names lead from a directory; all but the last must be directories.  There is none if the
last name is missing or goes up. -/
def locate (tree : FileTree) (dir : List String) (names : List String) :
    Except FileFault (Option (List String)) :=
  match names.getLast? with
  | none => .ok none
  | some last => do
    let parent ← tree.walk dir names.dropLast
    return if last = ".." then none else some (parent ++ [last])

def readFile (tree : FileTree) (path : String) : Except FileFault ByteArray :=
  if path.isEmpty then .error .notFound
  else do
    match ← tree.locate (tree.origin path) (names path) with
    | none => throw .isADirectory
    | some full =>
      match tree.node? full with
      | none => throw .notFound
      | some .directory => throw .isADirectory
      | some (.file content) => if endsInSlash path then throw .notADirectory else return content

/-- Creates one directory. -/
def createDir (tree : FileTree) (dir : List String) (names : List String) : Except FileFault FileTree := do
  match ← tree.locate dir names with
  | none => throw .alreadyExists
  | some full => if (tree.node? full).isSome then throw .alreadyExists else return tree.put full .directory

/-- The names lead to a directory. -/
def isDir (tree : FileTree) (dir : List String) (names : List String) : Bool :=
  match tree.walk dir names with
  | .ok _ => true
  | .error _ => false

/-- Creates a directory whose names are given from the last to the first, and the directories around it as far as they
are missing. -/
def createDirsFrom (dir : List String) : List String → FileTree → Except FileFault Unit × FileTree
  | [], tree => (.ok (), tree)
  | name :: outer, tree =>
    let path := (name :: outer).reverse
    let settle (tree : FileTree) (fault : FileFault) : Except FileFault Unit × FileTree :=
      if tree.isDir dir path then (.ok (), tree) else (.error fault, tree)
    match tree.createDir dir path with
    | .ok tree => (.ok (), tree)
    | .error .notFound =>
      match createDirsFrom dir outer tree with
      | (.error fault, tree) => (.error fault, tree)
      | (.ok (), tree) =>
        match tree.createDir dir path with
        | .ok tree => (.ok (), tree)
        | .error fault => settle tree fault
    | .error fault => settle tree fault

def createDirs (tree : FileTree) (path : String) : Except FileFault Unit × FileTree :=
  createDirsFrom (tree.origin path) (names path).reverse tree

def writeFile (tree : FileTree) (path : String) (content : ByteArray) : Except FileFault FileTree :=
  if path.isEmpty then .error .notFound
  else do
    match ← tree.locate (tree.origin path) (names path) with
    | none => throw .isADirectory
    | some full =>
      if (tree.node? full).any (·.isDirectory) || endsInSlash path then throw .isADirectory
      else return tree.put full (.file content)

/-- The files below the working directory, with their paths from there. -/
def files (tree : FileTree) : List (String × ByteArray) :=
  tree.nodes.filterMap fun (path, node) =>
    match node with
    | .file content =>
      if tree.workDir.isPrefixOf path then
        some (Text.joinWith "/" (path.drop tree.workDir.length), content)
      else none
    | .directory => none

end FileTree

instance : FileStore (StateM FileTree) where
  readFile path := do return (← get).readFile path
  createDirs path := modifyGet fun tree => tree.createDirs path
  writeFile path content := modifyGet fun tree =>
    match tree.writeFile path content with
    | .ok tree => (.ok (), tree)
    | .error fault => (.error fault, tree)

end ProtoClass
