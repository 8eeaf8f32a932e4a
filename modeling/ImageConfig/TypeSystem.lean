import ImageConfig.Event

/-!
# The type system of the analysed program

A session never looks types up by itself: it is given a type system. The type system finds types
by dotted name, and a found type answers questions about itself. Either may answer differently
from one time to the next, so both work on a state of the type system. An absent type is a normal
outcome.
-/

namespace ImageConfig

/-- A type found in the analysed program. -/
structure FoundType (σ : Type) where
  /-- Dotted name of the type. -/
  dottedName : String
  /-- Whether the type is an interface. -/
  isInterface : σ → Bool × σ
  /-- Whether the type and its hierarchy can be loaded. -/
  verifyType : Bool → σ → Bool × σ
  /-- Whether the type has the members that an entry names. -/
  verifyMembers : ClassEntry → Bool → σ → Bool × σ

/-- The types of the analysed program, with a state of type `σ`. -/
structure TypeSystem (σ : Type) where
  /-- The type of the given name, if there is one. -/
  resolve : String → σ → Option (FoundType σ) × σ

namespace TypeSystem

variable {σ : Type}

/-- Looks a name up. -/
def find (system : TypeSystem σ) (name : String) : Traced σ (Option (FoundType σ)) := do
  let found ← Traced.query (system.resolve name)
  Traced.emit (.asked (.resolve name found.isSome))
  return found

end TypeSystem

namespace FoundType

variable {σ : Type}

/-- Asks for the dotted name. -/
def askName (type : FoundType σ) : Traced σ String := do
  Traced.emit (.asked (.dottedName type.dottedName))
  return type.dottedName

/-- Asks whether the type is an interface. -/
def askInterface (type : FoundType σ) : Traced σ Bool := do
  Traced.emit (.asked (.isInterface type.dottedName))
  Traced.query type.isInterface

/-- Asks for a check of the type itself. -/
def askType (type : FoundType σ) (debug : Bool) : Traced σ Bool := do
  Traced.emit (.asked (.verifyType type.dottedName debug))
  Traced.query (type.verifyType debug)

/-- Asks for a check of the members that `entry` names. -/
def askMembers (type : FoundType σ) (entry : ClassEntry) (debug : Bool) : Traced σ Bool := do
  Traced.emit (.asked (.verifyMembers type.dottedName entry debug))
  Traced.query (type.verifyMembers entry debug)

end FoundType

/-- The dotted names of the listed types, asked for in order. -/
def dottedNames {σ : Type} : List (FoundType σ) → Traced σ (List String)
  | [] => return []
  | type :: rest => do
    let name ← type.askName
    let names ← dottedNames rest
    return name :: names

end ImageConfig
