import ApiCatalog.Text.Split

/-!
# File trees

Files and directories below a working directory, with the operations that a program performs on them
by relative paths. Paths from the root of all files are left out: no tree holds what they name, and
every operation on them fails.
-/

namespace ApiCatalog

/-- Why an operation on files fails. -/
inductive FileFailure where
  /-- Nothing is there. -/
  | notFound
  /-- Something is already there. -/
  | alreadyExists
  /-- Something on the way is no directory. -/
  | notDirectory
  /-- A directory is there. -/
  | isDirectory
  deriving DecidableEq, Repr

/-- A failure in words. -/
def FileFailure.describe : FileFailure → String
  | .notFound => "No such file or directory (os error 2)"
  | .alreadyExists => "File exists (os error 17)"
  | .notDirectory => "Not a directory (os error 20)"
  | .isDirectory => "Is a directory (os error 21)"

/-- The names that lead from the working directory to a file or directory. -/
abbrev Location := List String

/-- Files and directories. -/
structure FileTree where
  /-- The files with their contents. -/
  files : List (Location × List UInt8)
  /-- The directories below the working directory. -/
  directories : List Location
  deriving DecidableEq, Repr

namespace FileTree

/-- The parts of a path. -/
def parts (path : String) : List String :=
  (Text.splitOn '/' path.toList).map String.ofList

/-- Whether a part of a path stays at its place. -/
def isIdle (part : String) : Bool :=
  part == "" || part == "."

/-- Whether a directory is at a location. -/
def hasDirectory (tree : FileTree) (location : Location) : Bool :=
  location.isEmpty || tree.directories.contains location

/-- Whether a file is at a location. -/
def hasFile (tree : FileTree) (location : Location) : Bool :=
  (tree.files.lookup location).isSome

/-- The tree of some files. -/
def ofFiles (files : List (Location × List UInt8)) : FileTree :=
  let parents (location : Location) : List Location :=
    (List.range (location.length - 1)).map fun count => location.take (count + 1)
  ⟨files, (files.flatMap fun (location, _) => parents location).eraseDups⟩

/-- The directory where parts of a path lead from a directory. -/
def walk (tree : FileTree) : Location → List String → Except FileFailure Location
  | location, [] => .ok location
  | location, part :: rest =>
      if isIdle part then walk tree location rest
      else if part == ".." then
        if location.isEmpty then .error .notFound else walk tree location.dropLast rest
      else
        let next := location ++ [part]
        if tree.hasDirectory next then walk tree next rest
        else if tree.hasFile next then .error .notDirectory
        else .error .notFound

/-- The location that a relative path names last, in a directory that exists. A path that names no
new place leads to a directory. Only relative paths are modelled: one that starts at the root of all
files leads nowhere, as a tree holds nothing outside the working directory. -/
def locate (tree : FileTree) (parts : List String) : Except FileFailure (Location ⊕ Location) :=
  match parts.reverse.dropWhile (· == "") with
  | [] => .error .notFound
  | last :: before =>
      if parts.head? == some "" then .error .notFound
      else if last == "." || last == ".." then .inl <$> tree.walk [] parts
      else do return .inr ((← tree.walk [] before.reverse) ++ [last])

/-- The content of a file. -/
def read? (tree : FileTree) (path : String) : Option (List UInt8) :=
  match tree.locate (parts path) with
  | .ok (.inr location) =>
      if (parts path).getLast? == some "" then none else tree.files.lookup location
  | _ => none

/-- Creates a directory in one that exists. -/
def createDirectory (tree : FileTree) (parts : List String) : Except FileFailure FileTree := do
  match ← tree.locate parts with
  | .inl _ => throw .alreadyExists
  | .inr location =>
      if tree.hasDirectory location || tree.hasFile location then throw .alreadyExists
      else return { tree with directories := tree.directories ++ [location] }

/-- Whether a path leads to a directory. -/
def isDirectory (tree : FileTree) (parts : List String) : Bool :=
  match tree.walk [] parts with
  | .ok _ => true
  | .error _ => false

/-- Creates a directory and those on the way to it, for a path of at most as many parts as given. -/
def createDirectories : Nat → List String → FileTree → Except FileFailure FileTree
  | 0, _, tree => .ok tree
  | count + 1, parts, tree =>
      if parts.isEmpty then .ok tree
      else
        let create (tree : FileTree) (missing : Except FileFailure FileTree) :
            Except FileFailure FileTree :=
          match tree.createDirectory parts with
          | .ok next => .ok next
          | .error .notFound => missing
          | .error failure => if tree.isDirectory parts then .ok tree else .error failure
        create tree <| do
          let next ← createDirectories count parts.dropLast tree
          create next (.error .notFound)

/-- The parts of the path of the directory that holds what a path names. -/
def parentParts (path : String) : List String :=
  match parts path with
  | first :: rest => (first :: rest.filter fun part => !isIdle part).dropLast
  | [] => []

/-- Writes a file into a directory that exists. -/
def writeFile (tree : FileTree) (path : String) (content : List UInt8) :
    Except FileFailure FileTree := do
  match ← tree.locate (parts path) with
  | .inl _ => throw .isDirectory
  | .inr location =>
      if (parts path).getLast? == some "" || tree.hasDirectory location then throw .isDirectory
      else
        let others := tree.files.filter fun file => file.1 != location
        return { tree with files := others ++ [(location, content)] }

/-- Writes a file. The directories on the way to it are created. -/
def write (tree : FileTree) (path : String) (content : List UInt8) :
    Except FileFailure FileTree := do
  let parent := parentParts path
  let next ← createDirectories parent.length parent tree
  next.writeFile path content

end FileTree

end ApiCatalog
