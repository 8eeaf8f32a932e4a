import ImageConfig.OrderedMap
import ImageConfig.Reflection
import ImageConfig.Json.Reader
import ImageConfig.Json.Compact

/-!
# Reflection configuration files

A reflection file is an array of classes. The flags of a class stand beside its name and members,
as keys whose value is `true`; empty lists and false settings are left out. A file may give a flag
`false`, which is the same as not giving it, and may give a key more than once: the flag then
stands where its key first came and has the value that came last.

Reading a class takes its name and members as they come and keeps all other members for the end.
So whatever is wrong with a name or a member is reported before a missing name, and that before
anything that is wrong with a flag.
-/

namespace ImageConfig

open Json

/-- The flags as members of an object. -/
def flagMembers (flags : OrderedSet Flag) : List (String × Tree) :=
  flags.toList.map fun flag => (flag.key, .bool true)

/-- The flags that entries of an object request, which is a class or an object of flags. A key that
belongs to no flag is a fault even where its value is false. -/
def flagsOfEntries (isOfClass : Bool) (entries : List (String × Bool)) :
    Except Fault (OrderedSet Flag) := do
  let settings ← (OrderedMap.ofList entries).entries.mapM fun entry =>
    match Flag.ofKey? entry.1 with
    | some flag => .ok (flag, entry.2)
    | none => .error (.unsupportedFlag entry.1 isOfClass)
  return .ofList ((settings.filter Prod.snd).map Prod.fst)

/-- Reads a set of flags from an object of its own. -/
def readFlags : Reader (OrderedSet Flag)
  | levels, .object members => do
    let levels ← inside levels
    let entries ← readEntries (readBool levels) members
    flagsOfEntries false entries
  | _, tree => throw (mismatch .map tree)

namespace Method

/-- The method as a value. -/
def toTree (method : Method) : Tree :=
  .ofMembers (("name", .ofString method.name) ::
    method.parameterTypes.toList.map fun types => ("parameterTypes", .ofStrings types))

/-- A method as far as it is read. -/
structure Draft where
  /-- Name. -/
  name : Option String := none
  /-- Parameter types. -/
  parameterTypes : Option (Option (List String)) := none

/-- The shape of a method. -/
def shape : Shape Draft Method where
  name := "MethodDescriptor"
  slots :=
    [.of "name" Draft.name (fun draft name => { draft with name := some name }) readString,
      .of "parameterTypes" Draft.parameterTypes
        (fun draft types => { draft with parameterTypes := some types })
        (readOptional (readStrings .sequence))]
  start := {}
  finish draft := draft.name.map fun name => ⟨name, draft.parameterTypes.getD none⟩

end Method

namespace Field

/-- The field as a value. -/
def toTree (field : Field) : Tree :=
  .ofMembers (("name", .ofString field.name) ::
    ((if field.allowWrite then [("allowWrite", .bool true)] else []) ++
      (if field.allowUnsafeAccess then [("allowUnsafeAccess", .bool true)] else [])))

/-- A field as far as it is read. -/
structure Draft where
  /-- Name. -/
  name : Option String := none
  /-- Whether it may be written. -/
  allowWrite : Option Bool := none
  /-- Whether it may be reached by its offset. -/
  allowUnsafeAccess : Option Bool := none

/-- The shape of a field. -/
def shape : Shape Draft Field where
  name := "FieldDescriptor"
  slots :=
    [.of "name" Draft.name (fun draft name => { draft with name := some name }) readString,
      .of "allowWrite" Draft.allowWrite
        (fun draft allowed => { draft with allowWrite := some allowed }) readBool,
      .of "allowUnsafeAccess" Draft.allowUnsafeAccess
        (fun draft allowed => { draft with allowUnsafeAccess := some allowed }) readBool]
  start := {}
  finish draft := draft.name.map fun name =>
    ⟨name, draft.allowWrite.getD false, draft.allowUnsafeAccess.getD false⟩

end Field

namespace ClassEntry

/-- The class as a value. -/
def toTree (entry : ClassEntry) : Tree :=
  .ofMembers (("name", .ofString entry.name) ::
    ((if entry.methods.isEmpty then []
      else [("methods", .ofList (entry.methods.map Method.toTree))]) ++
      (if entry.fields.isEmpty then []
      else [("fields", .ofList (entry.fields.map Field.toTree))]) ++
      flagMembers entry.flags))

/-- A class as far as it is read. -/
structure Draft where
  /-- Name. -/
  name : Option String := none
  /-- Methods. -/
  methods : Option (List Method) := none
  /-- Fields. -/
  fields : Option (List Field) := none
  /-- All other members, last one first. -/
  others : List (String × Tree) := []

/-- The keys of a class that are not flags. -/
def slots : List (Slot Draft) :=
  [.of "name" Draft.name (fun draft name => { draft with name := some name }) readString,
    .of "methods" Draft.methods (fun draft methods => { draft with methods := some methods })
      (readArray .sequence Method.shape.reader),
    .of "fields" Draft.fields (fun draft fields => { draft with fields := some fields })
      (readArray .sequence Field.shape.reader)]

/-- Keeps a member for the end. -/
def keepOther (levels : Nat) (draft : Draft) (key : String) (value : Tree) :
    Except Fault Draft :=
  if value.isReadable levels then return { draft with others := (key, value) :: draft.others }
  else throw .malformed

/-- The class once all is read. -/
def finish (draft : Draft) : Except Fault ClassEntry := do
  match draft.name with
  | none => throw (.missingField "name")
  | some name =>
    let entries ← draft.others.reverse.mapM fun other => do
      let value ← readBool 0 other.2
      return (other.1, value)
    let flags ← flagsOfEntries true entries
    return ⟨name, draft.methods.getD [], draft.fields.getD [], flags⟩

/-- Reads a class. -/
def reader : Reader ClassEntry
  | levels, .object members => do
    let levels ← inside levels
    let draft ← readMembers slots (keepOther levels) levels {} members
    finish draft
  | _, tree => throw (mismatch (.structure "ClassDescriptor") tree)

end ClassEntry

namespace Reflection

/-- The collection as a value. -/
def toTree (reflection : Reflection) : Tree :=
  .ofList (reflection.entries.map ClassEntry.toTree)

/-- Reads a collection; classes of one name become one. -/
def reader : Reader Reflection := fun levels tree => do
  let entries ← readArray .sequence ClassEntry.reader levels tree
  return .ofList entries

end Reflection

end ImageConfig
