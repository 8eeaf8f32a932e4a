import ImageConfig.Proofs.FirstFault
import ImageConfig.Proofs.History
import ImageConfig.Proofs.ReflectionFile

/-!
# Flags read from members

Flags stand among the members of a class or are the members of an object of their own. Both are read
by one rule (`readText_flags`). Each member has to give a flag a truth value (`IsSetting`), also
where that value is false. If a key comes more than once, its first member decides where the flag
stands, and its last member whether it is requested (`requestedKeys`). A map that is made of the
members has both at once: its keys are their first occurrences (`OrderedMap.keys_ofList`), with the
last values (`OrderedMap.get?_ofList`).

A class keeps the members that are not its own until all of them are there. What it keeps is all
members but the name, methods and fields, in order and wherever those stand
(`ClassEntry.others_of_readMembers`).
-/

namespace ImageConfig

open Json

/-! ## First occurrences and last values -/

/-- Searching a list at its first occurrences finds what is found in the whole list. -/
theorem findSome?_appendAllNew {α β : Type} [DecidableEq α] (find : α → Option β)
    (items others : List α) :
    (appendAllNew items others).findSome? find = (items ++ others).findSome? find := by
  induction others generalizing items with
  | nil => rw [appendAllNew_nil, List.append_nil]
  | cons head rest hyp =>
    rw [appendAllNew_cons, hyp]
    by_cases held : head ∈ items
    · rw [appendNew_of_mem held, List.findSome?_append, List.findSome?_append, List.findSome?_cons]
      cases early : items.findSome? find with
      | some found => rfl
      | none =>
        have nothing : find head = none := List.findSome?_eq_none_iff.mp early head held
        rw [nothing]
    · rw [appendNew_of_not_mem held, List.append_assoc, List.singleton_append]

namespace OrderedMap

variable {κ : Type} [DecidableEq κ]

/-- A map made of pairs has their keys at their first occurrences. -/
theorem keys_ofList {ν : Type} (pairs : List (κ × ν)) :
    (ofList pairs).keys = (pairs.map Prod.fst).eraseDups :=
  (keys_insertAll ∅ pairs).trans (appendAllNew_nil_left _)

end OrderedMap

/-! ## Settings of flags -/

/-- The fault of a member whose value is no truth value. -/
def notBoolean? (member : String × Tree) : Option Fault := (Inspection.boolean member.2).head?

/-- The fault of a member whose key belongs to no flag. -/
def noFlag? (isOfClass : Bool) (key : String) : Option Fault :=
  if (Flag.ofKey? key).isNone then some (.unsupportedFlag key isOfClass) else none

/-- Reads a member as a key with its truth value. -/
def readEntry (member : String × Tree) : Except Fault (String × Bool) := do
  let value ← readBool 0 member.2
  return (member.1, value)

/-- Reads members as flags. -/
def readSettings (isOfClass : Bool) (members : List (String × Tree)) :
    Except Fault (OrderedSet Flag) := do
  let entries ← members.mapM readEntry
  flagsOfEntries isOfClass entries

/-- Entries of an object of flags are at fault in the first key that belongs to no flag. -/
theorem fault?_flagsOfEntries (isOfClass : Bool) (entries : List (String × Bool)) :
    fault? (flagsOfEntries isOfClass entries) =
      ((entries.map Prod.fst).filterMap (noFlag? isOfClass)).head? := by
  let map := OrderedMap.ofList entries
  have keys : map.entries.findSome? (fun entry => noFlag? isOfClass entry.1) =
      (entries.map Prod.fst).findSome? (noFlag? isOfClass) := by
    change map.entries.findSome? (noFlag? isOfClass ∘ Prod.fst) = _
    rw [← List.findSome?_map]
    change map.keys.findSome? _ = _
    have listed : map.keys = appendAllNew [] (entries.map Prod.fst) :=
      OrderedMap.keys_insertAll ∅ entries
    rw [listed, findSome?_appendAllNew, List.nil_append]
  unfold flagsOfEntries
  rw [fault?_map, fault?_mapM, List.head?_filterMap, List.head?_filterMap, ← keys]
  refine congrArg (map.entries.findSome? ·) (funext fun entry => ?_)
  unfold noFlag?
  cases Flag.ofKey? entry.1 <;> rfl

/-- Members that are read as entries are those entries. -/
theorem eq_map_of_mapM_readEntry {members : List (String × Tree)} {entries : List (String × Bool)}
    (read : members.mapM readEntry = .ok entries) :
    members = entries.map fun entry => (entry.1, .bool entry.2) := by
  refine List.forall₂_eq_eq_eq ▸ List.forall₂_map_right_iff.mpr ?_
  refine (mapM_eq_ok_iff.mp read).imp fun member entry given => ?_
  obtain ⟨key, tree⟩ := member
  obtain ⟨value, boolean, whole⟩ := bind_eq_ok_iff.mp given
  cases whole
  cases tree with
  | bool held =>
    cases boolean
    rfl
  | _ => cases boolean

/-- Members read as flags are at fault in the first value that is no truth value, or else in the
first key that belongs to no flag. -/
theorem fault?_readSettings (isOfClass : Bool) (members : List (String × Tree)) :
    fault? (readSettings isOfClass members) =
      (members.filterMap notBoolean? ++
        (members.map Prod.fst).filterMap (noFlag? isOfClass)).head? := by
  have each (member : String × Tree) : fault? (readEntry member) = notBoolean? member :=
    (fault?_map (readBool 0 member.2) _).trans (readBool_reports 0 member.2)
  refine fault?_bind ?_ fun entries read => ?_
  · rw [fault?_mapM]
    simp only [each]
  · rw [fault?_flagsOfEntries, eq_map_of_mapM_readEntry read, List.map_map]
    rfl

namespace ClassEntry

/-- The keys of a class that are not flags. -/
def memberKeys : List String := ["name", "methods", "fields"]

/-- The members of a class besides its name, methods and fields. -/
def otherMembers (members : List (String × Tree)) : List (String × Tree) :=
  members.filter fun member => member.1 ∉ memberKeys

/-- A name, methods or fields are not among the other members. -/
theorem otherMembers_of_mem {key : String} (own : key ∈ memberKeys) (tree : Tree)
    (rest : List (String × Tree)) : otherMembers ((key, tree) :: rest) = otherMembers rest :=
  List.filter_cons_of_neg (by simpa using own)

/-- A member under any other key is among the other members. -/
theorem otherMembers_of_not_mem {key : String} (other : key ∉ memberKeys) (tree : Tree)
    (rest : List (String × Tree)) :
    otherMembers ((key, tree) :: rest) = (key, tree) :: otherMembers rest :=
  List.filter_cons_of_pos (by simpa using other)

/-- A key is left over exactly if it is not that of a name, methods or fields. -/
theorem find?_slots_eq_none_iff {key : String} :
    slots.find? (fun slot => slot.key == key) = none ↔ key ∉ memberKeys := by
  have keys : memberKeys = slots.map Slot.key := rfl
  rw [List.find?_eq_none, keys, List.mem_map]
  simp only [beq_iff_eq, not_exists, not_and]

/-- A class that has a name is finished with the flags of its other members. -/
theorem finish_of_named {draft : Draft} {name : String} (named : draft.name = some name) :
    finish draft = readSettings true draft.others.reverse >>= fun flags =>
      pure ⟨name, draft.methods.getD [], draft.fields.getD [], flags⟩ := by
  unfold finish readSettings
  rw [named, bind_assoc]
  rfl

/-- Reading a name, methods or fields leaves the other members alone. -/
theorem others_of_read {slot : Slot Draft} (among : slot ∈ slots) {levels : Nat}
    {draft next : Draft} {tree : Tree} (read : slot.read levels draft tree = .ok next) :
    next.others = draft.others := by
  simp only [slots, List.mem_cons, List.not_mem_nil, or_false] at among
  obtain rfl | rfl | rfl := among <;>
  · obtain ⟨value, _, filled⟩ := Slot.exists_of_read_of read
    rw [← filled]

/-- Once members are read, those that were kept for the end are all readable and in order. -/
theorem others_of_readMembers {levels : Nat} {members : List (String × Tree)}
    {draft next : Draft}
    (read : readMembers slots (keepOther levels) levels draft (.ofList members) = .ok next) :
    (∀ other ∈ otherMembers members, other.2.isReadable levels = true) ∧
      next.others = (otherMembers members).reverse ++ draft.others := by
  induction members generalizing draft with
  | nil =>
    cases read
    exact ⟨List.forall_mem_nil _, rfl⟩
  | cons member rest hyp =>
    obtain ⟨key, tree⟩ := member
    rw [Members.ofList, readMembers_member] at read
    obtain ⟨middle, first, later⟩ := bind_eq_ok_iff.mp read
    obtain ⟨readable, kept⟩ := hyp later
    unfold readMember at first
    cases found : slots.find? fun slot => slot.key == key with
    | none =>
      have other : key ∉ memberKeys := find?_slots_eq_none_iff.mp found
      simp only [found, keepOther] at first
      split at first
      case isFalse => cases first
      case isTrue whole =>
        cases first
        rw [otherMembers_of_not_mem other, kept, List.forall_mem_cons]
        exact ⟨⟨whole, readable⟩, by simp⟩
    | some slot =>
      have own : key ∈ memberKeys := by
        by_contra other
        rw [find?_slots_eq_none_iff.mpr other] at found
        cases found
      simp only [found] at first
      split at first
      case isTrue => cases first
      case isFalse =>
        rw [otherMembers_of_mem own, kept, others_of_read (List.mem_of_find?_eq_some found) first]
        exact ⟨readable, rfl⟩

/-- A class is read member by member and then finished. -/
theorem reader_ofMembers (levels : Nat) (members : List (String × Tree)) :
    reader (levels + 1) (.ofMembers members) =
      readMembers slots (keepOther levels) levels {} (.ofList members) >>= finish :=
  rfl

end ClassEntry

end ImageConfig
