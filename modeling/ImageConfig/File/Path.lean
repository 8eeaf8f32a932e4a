/-!
# Paths

A path is a text cut at slashes. Empty parts, which repeated and trailing slashes leave, name
nothing; neither does a single dot after the beginning. Two absolute paths are the same if the
parts that are left agree one by one (`Path.same`); a double dot is such a part.
-/

namespace ImageConfig

/-- The parts of a text between slashes, empty ones included. -/
def splitAtSlashes : List Char → List (List Char)
  | [] => [[]]
  | char :: rest =>
    match splitAtSlashes rest with
    | [] => [[char]]
    | part :: parts => if char = '/' then [] :: part :: parts else (char :: part) :: parts

/-- A path as written. -/
structure Path where
  /-- The path as text. -/
  text : String
deriving DecidableEq

namespace Path

/-- Whether the path begins at the root. -/
def isAbsolute (path : Path) : Bool := path.text.toList.head? == some '/'

/-- Whether the path ends with a slash. -/
def endsWithSlash (path : Path) : Bool := path.text.toList.getLast? == some '/'

/-- The parts of the path that are not empty. -/
def parts (path : Path) : List String :=
  ((splitAtSlashes path.text.toList).filter fun part => !part.isEmpty).map String.ofList

/-- The parts of the path that count when paths are compared. -/
def components (path : Path) : List String := path.parts.filter (· ≠ ".")

/-- Whether two absolute paths are the same, part by part. -/
def same (left right : Path) : Bool := left.components == right.components

/-- The path of an entry of a directory. -/
def entry (directory : Path) (name : String) : Path :=
  ⟨directory.text ++ (if directory.endsWithSlash then "" else "/") ++ name⟩

/-- The absolute path of the given parts. -/
def ofParts (parts : List String) : Path := ⟨"/" ++ String.intercalate "/" parts⟩

end Path

end ImageConfig
