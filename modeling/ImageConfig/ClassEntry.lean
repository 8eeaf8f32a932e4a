import ImageConfig.OrderedSet
import ImageConfig.Flag

/-!
# Class entries

A class entry names one type and what of it stays reachable by reflection: methods, fields and
flags. Entries of one type accumulate by `merge`, which never removes anything. An entry that is
filled in directly may list a method or a field more than once; merging adds no further repeat.
-/

namespace ImageConfig

/-- A method kept for reflection. -/
structure Method where
  /-- Simple name. -/
  name : String
  /-- Parameter types in order; `none` stands for every overload of the name. -/
  parameterTypes : Option (List String) := none
deriving DecidableEq

/-- A field kept for reflection. -/
structure Field where
  /-- Simple name. -/
  name : String
  /-- Whether the field may be written. -/
  allowWrite : Bool := false
  /-- Whether the field may be reached by its offset. -/
  allowUnsafeAccess : Bool := false
deriving DecidableEq

/-- What of one type stays reachable by reflection. -/
structure ClassEntry where
  /-- Dotted name of the type. -/
  name : String
  /-- Methods, first listed first. -/
  methods : List Method := []
  /-- Fields, first listed first. -/
  fields : List Field := []
  /-- Flags, first requested first. -/
  flags : OrderedSet Flag := ∅
deriving DecidableEq

namespace ClassEntry

/-- The entry with `flag` requested. -/
def addFlag (entry : ClassEntry) (flag : Flag) : ClassEntry :=
  { entry with flags := entry.flags.insert flag }

/-- The entry with `method` listed, at the end if it is new. -/
def addMethod (entry : ClassEntry) (method : Method) : ClassEntry :=
  { entry with methods := appendNew entry.methods method }

/-- The entry with `field` listed, at the end if it is new. -/
def addField (entry : ClassEntry) (field : Field) : ClassEntry :=
  { entry with fields := appendNew entry.fields field }

/-- Whether the entry names members that have to be checked one by one. Constructors that can be
invoked are members. -/
def membersSpecified (entry : ClassEntry) : Bool :=
  !entry.methods.isEmpty || !entry.fields.isEmpty ||
    entry.flags.toList.any Flag.isConstructorAccess

/-- Whether the entry holds nothing but its name. -/
def isMinimal (entry : ClassEntry) : Bool :=
  entry.methods.isEmpty && entry.fields.isEmpty && entry.flags.isEmpty

/-- The entry stripped to its name. -/
def toMinimal (entry : ClassEntry) : ClassEntry := { name := entry.name }

/-- The entry with all that `other`, an entry of the same type, requests besides. -/
def merge (entry other : ClassEntry) : ClassEntry where
  name := entry.name
  methods := appendAllNew entry.methods other.methods
  fields := appendAllNew entry.fields other.fields
  flags := entry.flags.union other.flags

/-- Whether two entries request the same, in whatever order the flags came. -/
def sameRequest (left right : ClassEntry) : Bool :=
  left.name == right.name && left.methods == right.methods && left.fields == right.fields &&
    left.flags.sameMembers right.flags

@[simp]
theorem merge_name (entry other : ClassEntry) : (entry.merge other).name = entry.name := rfl

@[simp]
theorem toMinimal_name (entry : ClassEntry) : entry.toMinimal.name = entry.name := rfl

/-- Merging in a stripped entry changes nothing. -/
@[simp]
theorem merge_toMinimal (entry other : ClassEntry) : entry.merge other.toMinimal = entry := rfl

/-- Only the stripped entry is minimal. -/
theorem isMinimal_iff (entry : ClassEntry) : entry.isMinimal = true ↔ entry = entry.toMinimal := by
  constructor
  · intro minimal
    obtain ⟨name, methods, fields, ⟨flags, distinct⟩⟩ := entry
    simp only [isMinimal, OrderedSet.isEmpty, Bool.and_eq_true, List.isEmpty_iff] at minimal
    obtain ⟨⟨rfl, rfl⟩, rfl⟩ := minimal
    rfl
  · intro same
    rw [same]
    rfl

end ClassEntry

end ImageConfig
