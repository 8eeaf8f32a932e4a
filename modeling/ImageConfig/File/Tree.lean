import ImageConfig.File.Error
import ImageConfig.File.Path
import ImageConfig.OrderedMap

/-!
# File trees

The directories that a session can reach, and the files with their texts. A path is followed
part by part from the root or the working directory; every part but the last has to be a
directory. Files are written and directories made where their names are free and not too long.
-/

namespace ImageConfig

/-- Where something is: the names from the root. -/
abbrev Location : Type := List String

/-- Directories, and files with their texts. -/
structure FileTree where
  /-- Directories besides the root. -/
  directories : List Location := []
  /-- Texts of the files. -/
  files : OrderedMap Location String := ∅
  /-- The directory at which relative paths begin. -/
  working : Location := []

/-- What a path names. -/
inductive Place where
  /-- A directory, by its own path. -/
  | directory
  /-- An entry of a directory, which may exist or not. -/
  | entry (parent : Location) (name : String)
deriving DecidableEq

namespace FileTree

/-- The longest name of an entry, in bytes. -/
def longestName : Nat := 255

/-- The shortest path that is too long, in bytes. -/
def tooLongPath : Nat := 4096

/-- Whether there is a directory at a location. -/
def hasDirectory (tree : FileTree) (location : Location) : Bool :=
  location.isEmpty || tree.directories.contains location

/-- Whether there is a file at a location. -/
def hasFile (tree : FileTree) (location : Location) : Bool := (tree.files.get? location).isSome

/-- Refuses names that no entry can have. -/
def checkName (name : String) : Except FileError Unit :=
  if name.utf8ByteSize ≤ longestName then return () else throw .nameTooLong

/-- Follows parts, all of which have to be directories. -/
def follow (tree : FileTree) (location : Location) : List String → Except FileError Location
  | [] => return location
  | part :: rest =>
    if part = "." then tree.follow location rest
    else if part = ".." then tree.follow location.dropLast rest
    else
      let next := location ++ [part]
      if tree.hasDirectory next then tree.follow next rest
      else if tree.hasFile next then throw .notDirectory
      else do
        checkName part
        throw .notFound

/-- Refuses texts that no path can have. -/
def checkPath (path : Path) : Except FileError Unit :=
  if path.text.toList.contains '\x00' then throw .nullCharacter
  else if path.text.isEmpty then throw .notFound
  else if tooLongPath ≤ path.text.utf8ByteSize then throw .nameTooLong
  else return ()

/-- Where the parts of a path begin. -/
def origin (tree : FileTree) (path : Path) : Location :=
  if path.isAbsolute then [] else tree.working

/-- What a path names. -/
def place (tree : FileTree) (path : Path) : Except FileError Place := do
  checkPath path
  let parent ← tree.follow (tree.origin path) path.parts.dropLast
  match path.parts.getLast? with
  | none => return .directory
  | some last =>
    if last = "." ∨ last = ".." then return .directory else return .entry parent last

/-- Whether a path names a directory that is there. -/
def isDirectory (tree : FileTree) (path : Path) : Bool :=
  match checkPath path with
  | .error _ => false
  | .ok _ => (tree.follow (tree.origin path) path.parts).toBool

/-- Where a file is, or could be made, under a path. -/
def fileLocation (tree : FileTree) (path : Path) : Except FileError Location := do
  match ← tree.place path with
  | .directory => throw .isDirectory
  | .entry parent name =>
    let location := parent ++ [name]
    if path.endsWithSlash || tree.hasDirectory location then throw .isDirectory
    else if tree.hasFile location then return location
    else
      checkName name
      return location

/-- Writes a file, over one that may be there. -/
def writeFile (tree : FileTree) (path : Path) (text : String) : Except FileError FileTree := do
  let location ← tree.fileLocation path
  return { tree with files := tree.files.insert location text }

/-- Adds a text at the end of a file. A file that is not there is made first. -/
def appendFile (tree : FileTree) (path : Path) (text : String) : Except FileError FileTree := do
  let location ← tree.fileLocation path
  let before := (tree.files.get? location).getD ""
  return { tree with files := tree.files.insert location (before ++ text) }

/-- The text of the file under a path, if there is one. -/
def readFile? (tree : FileTree) (path : Path) : Option String :=
  match tree.fileLocation path with
  | .ok location => tree.files.get? location
  | .error _ => none

/-- Makes one directory. -/
def makeDirectory (tree : FileTree) (path : Path) : Except FileError FileTree := do
  match ← tree.place path with
  | .directory => throw .exists
  | .entry parent name =>
    let location := parent ++ [name]
    if tree.hasDirectory location || tree.hasFile location then throw .exists
    else
      checkName name
      return { tree with directories := tree.directories ++ [location] }

/-- Makes a directory, or finds it there. If a directory on the way is missing, `makeParent` makes
it first. Directories that were made stay, whatever fails after them. -/
def ensureDirectory (tree : FileTree) (path : Path)
    (makeParent : FileTree → Except FileError Unit × FileTree) :
    Except FileError Unit × FileTree :=
  match tree.makeDirectory path with
  | .ok made => (.ok (), made)
  | .error .notFound =>
    match makeParent tree with
    | (.error error, made) => (.error error, made)
    | (.ok _, made) =>
      match made.makeDirectory path with
      | .ok made => (.ok (), made)
      | .error error => (if made.isDirectory path then .ok () else .error error, made)
  | .error error => (if tree.isDirectory path then .ok () else .error error, tree)

/-- Makes a directory with all directories above it; the given parts have the last one first. -/
def ensureParts (tree : FileTree) : List String → Except FileError Unit × FileTree
  | [] => (.ok (), tree)
  | part :: above =>
    tree.ensureDirectory (.ofParts (part :: above).reverse) fun tree => tree.ensureParts above

/-- Makes a directory with all directories above it. -/
def makeDirectories (tree : FileTree) (path : Path) : Except FileError Unit × FileTree :=
  tree.ensureDirectory path fun tree => tree.ensureParts path.components.dropLast.reverse

end FileTree

end ImageConfig
