import ImageConfig.Accumulation

/-!
# Insertion-ordered sets

A set that remembers in which order its members first came: flags of a class, resource patterns,
bundles, and the names of each initialization timing are such sets. The list of members has no
repeats by construction. Two sets are equal as Lean values when they also agree on the order;
`sameMembers` is the comparison that does not look at it.
-/

namespace ImageConfig

/-- A finite set with its members in the order of their first insertion. -/
structure OrderedSet (α : Type) where
  /-- Members, first inserted first. -/
  toList : List α
  /-- No member is listed twice. -/
  nodup : toList.Nodup
deriving DecidableEq

namespace OrderedSet

variable {α : Type}

instance : EmptyCollection (OrderedSet α) := ⟨⟨[], List.nodup_nil⟩⟩

instance : Inhabited (OrderedSet α) := ⟨∅⟩

instance : Membership α (OrderedSet α) := ⟨fun set member => member ∈ set.toList⟩

@[simp]
theorem toList_empty : (∅ : OrderedSet α).toList = [] := rfl

/-- Membership is membership in the list of members. -/
theorem mem_def {set : OrderedSet α} {member : α} : member ∈ set ↔ member ∈ set.toList := Iff.rfl

/-- Sets with the same members in the same order are equal. -/
@[ext]
theorem ext_toList {left right : OrderedSet α} (same : left.toList = right.toList) :
    left = right := by
  cases left
  cases right
  cases same
  rfl

/-- Whether the set has no members. -/
def isEmpty (set : OrderedSet α) : Bool := set.toList.isEmpty

/-- How many members the set has. -/
def size (set : OrderedSet α) : Nat := set.toList.length

variable [DecidableEq α]

instance (member : α) (set : OrderedSet α) : Decidable (member ∈ set) :=
  inferInstanceAs (Decidable (member ∈ set.toList))

/-- Whether `member` is in the set. -/
def contains (set : OrderedSet α) (member : α) : Bool := decide (member ∈ set)

/-- The set with `member` in it; a new member comes last. -/
def insert (set : OrderedSet α) (member : α) : OrderedSet α :=
  ⟨appendNew set.toList member, nodup_appendNew set.nodup member⟩

/-- The set with all of `members` inserted in order. -/
def insertAll (set : OrderedSet α) (members : List α) : OrderedSet α :=
  ⟨appendAllNew set.toList members, nodup_appendAllNew set.nodup members⟩

/-- The set of the listed members, each at its first occurrence. -/
def ofList (members : List α) : OrderedSet α := insertAll ∅ members

/-- The union; members of `right` that are new come after all of `left`, in their own order. -/
def union (left right : OrderedSet α) : OrderedSet α := left.insertAll right.toList

/-- Whether two sets have the same members, in whatever order. -/
def sameMembers (left right : OrderedSet α) : Bool :=
  left.size == right.size && left.toList.all right.contains

@[simp]
theorem toList_insert (set : OrderedSet α) (member : α) :
    (set.insert member).toList = appendNew set.toList member := rfl

@[simp]
theorem toList_insertAll (set : OrderedSet α) (members : List α) :
    (set.insertAll members).toList = appendAllNew set.toList members := rfl

@[simp]
theorem toList_ofList (members : List α) : (ofList members).toList = appendAllNew [] members := rfl

@[simp]
theorem toList_union (left right : OrderedSet α) :
    (left.union right).toList = appendAllNew left.toList right.toList := rfl

@[simp]
theorem mem_insert {set : OrderedSet α} {member other : α} :
    other ∈ set.insert member ↔ other ∈ set ∨ other = member := by
  simp [mem_def]

@[simp]
theorem mem_union {left right : OrderedSet α} {member : α} :
    member ∈ left.union right ↔ member ∈ left ∨ member ∈ right := by
  simp [mem_def]

end OrderedSet

end ImageConfig
