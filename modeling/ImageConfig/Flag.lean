/-!
# Reflection flags

A flag asks that all members of one kind stay reachable by reflection on a class. There are
twelve, each written in configuration files under its own key.
-/

namespace ImageConfig

/-- A capability requested for a whole class. -/
inductive Flag where
  | allDeclaredConstructors
  | allPublicConstructors
  | allDeclaredMethods
  | allPublicMethods
  | allDeclaredFields
  | allPublicFields
  | allDeclaredClasses
  | allPublicClasses
  | queryAllDeclaredMethods
  | queryAllPublicMethods
  | queryAllDeclaredConstructors
  | queryAllPublicConstructors
deriving DecidableEq, Ord

namespace Flag

/-- The flags in the order in which they compare. -/
def all : List Flag :=
  [allDeclaredConstructors, allPublicConstructors, allDeclaredMethods, allPublicMethods,
    allDeclaredFields, allPublicFields, allDeclaredClasses, allPublicClasses,
    queryAllDeclaredMethods, queryAllPublicMethods, queryAllDeclaredConstructors,
    queryAllPublicConstructors]

/-- The key of the flag in configuration files. -/
def key : Flag → String
  | allDeclaredConstructors => "allDeclaredConstructors"
  | allPublicConstructors => "allPublicConstructors"
  | allDeclaredMethods => "allDeclaredMethods"
  | allPublicMethods => "allPublicMethods"
  | allDeclaredFields => "allDeclaredFields"
  | allPublicFields => "allPublicFields"
  | allDeclaredClasses => "allDeclaredClasses"
  | allPublicClasses => "allPublicClasses"
  | queryAllDeclaredMethods => "queryAllDeclaredMethods"
  | queryAllPublicMethods => "queryAllPublicMethods"
  | queryAllDeclaredConstructors => "queryAllDeclaredConstructors"
  | queryAllPublicConstructors => "queryAllPublicConstructors"

/-- Whether the flag asks for constructors that can be invoked, which counts as naming members. -/
def isConstructorAccess : Flag → Bool
  | allDeclaredConstructors | allPublicConstructors => true
  | _ => false

/-- The flag with the given key. -/
def ofKey? (key : String) : Option Flag := all.find? fun flag => flag.key == key

/-- Every flag is listed. -/
theorem mem_all (flag : Flag) : flag ∈ all := by cases flag <;> decide

/-- The key of a flag finds that flag. -/
@[simp]
theorem ofKey?_key (flag : Flag) : ofKey? flag.key = some flag := by cases flag <;> decide

end Flag

/-- The report on a key that belongs to no flag. -/
def unsupportedFlagMessage (key : String) : String := "unsupported reflection flag: " ++ key

end ImageConfig
