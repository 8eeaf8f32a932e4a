import Mathlib.Data.List.Forall2
import ImageConfig.Json.Reader

/-!
# The fault that is reported

A reader stops at the first fault it meets. What is wrong with a value can also be told in full: an
inspection lists every fault in the order of the text and goes on after each (`Inspection`). A
reader reports an inspection if the fault it stops at is the first one listed, so it succeeds
exactly where nothing is listed (`Reader.Reports`). Readings that follow one another report the
concatenation of what each of them reports (`fault?_bind`), so the order in which a reader looks at
things is the order of its inspection.

A structure is inspected without a draft of it: a known key is a repetition if it stands among the
keys before it (`Members.faults`). The draft of the reader keeps the same account, because reading a
slot marks that slot and no other (`Describes`).
-/

namespace ImageConfig.Json

/-! ## Readings that fail -/

section Readings

variable {α β : Type}

/-- The fault of a reading, if it failed. -/
def fault? : Except Fault α → Option Fault
  | .ok _ => none
  | .error fault => some fault

/-- A reading has a fault exactly if it ended with it. -/
theorem fault?_eq_some_iff {reading : Except Fault α} {fault : Fault} :
    fault? reading = some fault ↔ reading = .error fault := by
  cases reading <;> simp [fault?]

/-- A reading has no fault exactly if it succeeded. -/
theorem fault?_eq_none_iff {reading : Except Fault α} :
    fault? reading = none ↔ ∃ value, reading = .ok value := by
  cases reading <;> simp [fault?]

/-- A reading in two stages succeeds exactly if both stages do. -/
theorem bind_eq_ok_iff {reading : Except Fault α} {next : α → Except Fault β} {result : β} :
    reading >>= next = .ok result ↔ ∃ value, reading = .ok value ∧ next value = .ok result := by
  cases reading <;> simp [bind, Except.bind]

/-- The fault of a reading in two stages is the first one of both stages in order. -/
theorem fault?_bind {reading : Except Fault α} {next : α → Except Fault β}
    {early late : List Fault} (first : fault? reading = early.head?)
    (second : ∀ value, reading = .ok value → fault? (next value) = late.head?) :
    fault? (reading >>= next) = (early ++ late).head? := by
  rw [List.head?_append, ← first]
  cases reading with
  | error fault => rfl
  | ok value => exact second value rfl

/-- What is made of a value that was read has no fault of its own. -/
theorem fault?_map (reading : Except Fault α) (make : α → β) :
    fault? (reading >>= fun value => pure (make value)) = fault? reading := by
  cases reading <;> rfl

/-- The fault of readings in a row is the first one of theirs. -/
theorem fault?_mapM (read : α → Except Fault β) (items : List α) :
    fault? (items.mapM read) = (items.filterMap fun item => fault? (read item)).head? := by
  induction items with
  | nil => rfl
  | cons head rest hyp =>
    have later (value : β) : fault? (rest.mapM read >>= fun values => pure (value :: values)) =
        (rest.filterMap fun item => fault? (read item)).head? := by
      rw [fault?_map, hyp]
    rw [List.mapM_cons, List.filterMap_cons]
    cases read head with
    | error fault => rfl
    | ok value => exact later value

/-- A reading that ends with what was found fails where nothing was. -/
theorem fault?_finished (found : Option α) (fault : Fault) :
    fault? (match found with
      | some value => pure value
      | none => throw fault) = if found.isSome then none else some fault := by
  cases found <;> rfl

/-- Readings in a row give results exactly if each of them gives its own. -/
theorem mapM_eq_ok_iff {read : α → Except Fault β} {items : List α} {results : List β} :
    items.mapM read = .ok results ↔
      List.Forall₂ (fun item result => read item = .ok result) items results := by
  induction items generalizing results with
  | nil => cases results <;> simp [pure, Except.pure]
  | cons head rest hyp =>
    rw [List.mapM_cons, bind_eq_ok_iff, List.forall₂_cons_left_iff]
    constructor
    · rintro ⟨value, first, others⟩
      obtain ⟨values, later, whole⟩ := bind_eq_ok_iff.mp others
      cases whole
      exact ⟨value, values, first, hyp.mp later, rfl⟩
    · rintro ⟨value, values, first, later, rfl⟩
      exact ⟨value, first, bind_eq_ok_iff.mpr ⟨values, hyp.mpr later, rfl⟩⟩

end Readings

/-! ## Inspections -/

/-- Everything that is wrong with a value, in the order of the text. -/
abbrev Inspection : Type := Tree → List Fault

/-- A key that a structure knows, with the inspection of the values under it. -/
structure KnownKey where
  /-- The key. -/
  key : String
  /-- What is wrong with a value under it. -/
  inspect : Inspection

/-- What is wrong with the items of an array. -/
def Items.faults (item : Inspection) : Items → List Fault
  | .close => []
  | .cut => [.malformed]
  | .item head rest => item head ++ rest.faults item

/-- What is wrong with the items of an array whose places are those of the known keys. -/
def Items.positionFaults : List KnownKey → Items → List Fault
  | [], .close | _ :: _, .close => []
  | [], _ | _ :: _, .cut => [.malformed]
  | known :: others, .item head rest => known.inspect head ++ rest.positionFaults others

/-- What is wrong with a member that comes after the `earlier` keys. A known key must not come
again; a value under a key that is not known is left to `other`. -/
def memberFaults (known : List KnownKey) (other : Inspection) (earlier : List String) (key : String)
    (value : Tree) : List Fault :=
  match known.find? fun known => known.key == key with
  | none => other value
  | some known => (if key ∈ earlier then [.duplicateField key] else []) ++ known.inspect value

/-- What is wrong with members that come after the `earlier` keys. -/
def Members.faults (known : List KnownKey) (other : Inspection) (earlier : List String) :
    Members → List Fault
  | .close => []
  | .cut | .member none _ _ => [.malformed]
  | .member (some key) value rest =>
    memberFaults known other earlier key value ++ rest.faults known other (key :: earlier)

/-- The keys of members up to the first one that has no value. -/
def Members.keys : Members → List String
  | .member (some key) _ rest => key :: rest.keys
  | _ => []

namespace Inspection

/-- What is wrong with a value in place of a string. -/
def string : Inspection
  | .string (some _) => []
  | tree => [mismatch .string tree]

/-- What is wrong with a value in place of a truth value. -/
def boolean : Inspection
  | .bool _ => []
  | tree => [mismatch .boolean tree]

/-- What is wrong with a value that may be `null`. -/
def optional (inspect : Inspection) : Inspection
  | .null => []
  | tree => inspect tree

/-- What is wrong with a value in place of an array. -/
def array (expected : Expected) (item : Inspection) : Inspection
  | .array items => items.faults item
  | tree => [mismatch expected tree]

/-- What is wrong with a value that is passed over. -/
def whole : Inspection := fun tree => if tree.isWhole then [] else [.malformed]

/-- What is wrong with a value in place of a structure with known keys, of which one is required: an
object, or the list of the values under its keys. -/
def structured (name : String) (required : KnownKey) (others : List KnownKey) : Inspection
  | .object members =>
    members.faults (required :: others) whole [] ++
      if required.key ∈ members.keys then [] else [.missingField required.key]
  | .array .close => [.wrongLength 0 name (others.length + 1)]
  | .array items => items.positionFaults (required :: others)
  | tree => [mismatch (.structure name) tree]

end Inspection

/-! ## Readable values and whole objects -/

/-- The keys of whole members. -/
theorem Members.keys_ofList (members : List (String × Tree)) :
    (ofList members).keys = members.map Prod.fst := by
  induction members with
  | nil => rfl
  | cons member rest hyp => exact congrArg (member.1 :: ·) hyp

/-- Values under keys that are not known are at fault only where they are said to be. -/
theorem Members.faults_ofList_congr {known : List KnownKey} {other another : Inspection}
    {members : List (String × Tree)} (same : ∀ member ∈ members, other member.2 = another member.2)
    (earlier : List String) :
    (ofList members).faults known other earlier =
      (ofList members).faults known another earlier := by
  induction members generalizing earlier with
  | nil => rfl
  | cons member rest hyp =>
    rw [List.forall_mem_cons] at same
    have first : memberFaults known other earlier member.1 member.2 =
        memberFaults known another earlier member.1 member.2 := by
      unfold memberFaults
      rw [same.1]
    exact congrArg₂ (· ++ ·) first (hyp same.2 _)

/-- A readable value is told by its type where another type is expected. -/
theorem mismatch_of_isReadable {levels : Nat} {tree : Tree}
    (readable : tree.isReadable levels = true) (expected : Expected) :
    ∃ found, mismatch expected tree = .wrongType found expected := by
  cases tree with
  | number number =>
    obtain ⟨value, given⟩ := Option.isSome_iff_exists.mp readable
    exact ⟨.number value, by simp only [mismatch, given]⟩
  | string value =>
    obtain ⟨text, rfl⟩ := Option.isSome_iff_exists.mp readable
    exact ⟨.string text, rfl⟩
  | broken => cases readable
  | _ => exact ⟨_, rfl⟩

/-- A readable value in place of a truth value is told by its type. -/
theorem wrongType_of_boolean {levels : Nat} {tree : Tree} (readable : tree.isReadable levels = true)
    {fault : Fault} (wrong : (Inspection.boolean tree).head? = some fault) :
    ∃ found, fault = .wrongType found .boolean := by
  cases tree with
  | bool value => cases wrong
  | _ =>
    obtain ⟨found, told⟩ := mismatch_of_isReadable readable .boolean
    exact ⟨found, (Option.some.inj wrong).symm.trans told⟩

/-- Members of a whole object can be read if their values can. -/
theorem Members.isReadable_ofList (levels : Nat) (members : List (String × Tree)) :
    (ofList members).isReadable levels = members.all fun member => member.2.isReadable levels := by
  induction members with
  | nil => rfl
  | cons member rest hyp =>
    rw [ofList, isReadable, hyp]
    rfl

/-! ## Reports -/

/-- The fault that the reader stops at is the first one that the inspection lists, if `depth` levels
are left. -/
def Reader.Reports {α : Type} (reader : Reader α) (depth : Nat) (inspect : Inspection) : Prop :=
  ∀ levels tree, fault? (reader (levels + depth) tree) = (inspect tree).head?

section Reports

variable {α : Type} {reader : Reader α} {depth : Nat} {inspect : Inspection}

/-- Levels that are not needed make no difference. -/
theorem Reader.Reports.deeper (reports : reader.Reports depth inspect) (more : Nat) :
    reader.Reports (depth + more) inspect := by
  intro levels tree
  rw [Nat.add_comm depth, ← Nat.add_assoc]
  exact reports (levels + more) tree

/-- Reading a string reports its inspection. -/
theorem readString_reports : Reader.Reports readString 0 .string := by
  intro levels tree
  cases tree with
  | string value => cases value <;> rfl
  | _ => rfl

/-- Reading a truth value reports its inspection. -/
theorem readBool_reports : Reader.Reports readBool 0 .boolean := by
  intro levels tree
  cases tree <;> rfl

/-- Reading a value that may be `null` reports its inspection. -/
theorem readOptional_reports (reports : reader.Reports depth inspect) :
    Reader.Reports (readOptional reader) depth (.optional inspect) := by
  intro levels tree
  have given := (fault?_map (reader (levels + depth) tree) some).trans (reports levels tree)
  cases tree with
  | null => rfl
  | _ => exact given

/-- Reading items reports what is wrong with them. -/
theorem fault?_readItems {item : Tree → Except Fault α}
    (each : ∀ tree, fault? (item tree) = (inspect tree).head?) (items : Items) :
    fault? (readItems item items) = (items.faults inspect).head? := by
  match items with
  | .close | .cut => rfl
  | .item head rest =>
    refine fault?_bind (each head) fun value _ => ?_
    rw [fault?_map, fault?_readItems each rest]

/-- Reading the items of a whole array reads them in a row. -/
theorem readItems_eq_mapM {α : Type} (read : Tree → Except Fault α) (trees : List Tree) :
    readItems read (.ofList trees) = trees.mapM read := by
  induction trees with
  | nil => rfl
  | cons tree rest hyp =>
    rw [List.mapM_cons, ← hyp]
    rfl

/-- Reading an array reports its inspection. -/
theorem readArray_reports (reports : reader.Reports depth inspect) (expected : Expected) :
    Reader.Reports (readArray expected reader) (depth + 1) (.array expected inspect) := by
  intro levels tree
  cases tree with
  | array items => exact fault?_readItems (reports levels) items
  | _ => rfl

end Reports

/-! ## Structures -/

section Structures

variable {σ α : Type} {levels : Nat} {slots : List (Slot σ)}
  {unknown : σ → String → Tree → Except Fault σ} {known : List KnownKey} {other : Inspection}

/-- Known keys and an inspection of all other values describe how members are read. -/
structure Describes (levels : Nat) (slots : List (Slot σ))
    (unknown : σ → String → Tree → Except Fault σ) (known : List KnownKey) (other : Inspection) :
    Prop where
  /-- There is a slot for each known key, and it reports the inspection of that key. -/
  reports : List.Forall₂ (fun slot known => slot.key = known.key ∧
    ∀ draft tree, fault? (slot.read levels draft tree) = (known.inspect tree).head?) slots known
  /-- Reading a slot marks that slot as read and no other. -/
  marks : ∀ slot ∈ slots, ∀ draft tree next, slot.read levels draft tree = .ok next →
    ∀ other ∈ slots, other.isRead next = (other.key == slot.key || other.isRead draft)
  /-- A value under a key that is not known reports the other inspection. -/
  others : ∀ draft key tree, fault? (unknown draft key tree) = (other tree).head?
  /-- A key that is not known marks no slot. -/
  keeps : ∀ draft key tree next, unknown draft key tree = .ok next →
    ∀ slot ∈ slots, slot.isRead next = slot.isRead draft

/-- A slot that fills one part of a structure has the faults of its reader. -/
theorem Slot.fault?_read_of {key : String} {part : σ → Option α} {fill : σ → α → σ}
    {reader : Reader α} (draft : σ) (tree : Tree) :
    fault? ((Slot.of key part fill reader).read levels draft tree) =
      fault? (reader levels tree) :=
  fault?_map (reader levels tree) (fill draft)

/-- A slot that fills one part of a structure leaves the structure with that part filled. -/
theorem Slot.exists_of_read_of {key : String} {part : σ → Option α} {fill : σ → α → σ}
    {reader : Reader α} {draft next : σ} {tree : Tree}
    (read : (Slot.of key part fill reader).read levels draft tree = .ok next) :
    ∃ value, reader levels tree = .ok value ∧ fill draft value = next := by
  obtain ⟨value, given, filled⟩ := bind_eq_ok_iff.mp read
  exact ⟨value, given, Except.ok.inj filled⟩

/-- A slot that fills one part of a structure reports the inspection of its reader. -/
theorem Slot.reports_of {key : String} {part : σ → Option α} {fill : σ → α → σ}
    {reader : Reader α} {depth : Nat} {inspect : Inspection}
    (reports : reader.Reports depth inspect) (draft : σ) (tree : Tree) :
    fault? ((Slot.of key part fill reader).read (levels + depth) draft tree) =
      (inspect tree).head? :=
  (Slot.fault?_read_of draft tree).trans (reports levels tree)

/-- Keys that are passed over are inspected for whole values, and mark no slot. -/
theorem Describes.of_skipUnknown
    (reports : List.Forall₂ (fun slot known => slot.key = known.key ∧
      ∀ draft tree, fault? (slot.read levels draft tree) = (known.inspect tree).head?) slots known)
    (marks : ∀ slot ∈ slots, ∀ draft tree next, slot.read levels draft tree = .ok next →
      ∀ other ∈ slots, other.isRead next = (other.key == slot.key || other.isRead draft)) :
    Describes levels slots skipUnknown known .whole where
  reports := reports
  marks := marks
  others draft key tree := by
    unfold skipUnknown Inspection.whole
    split <;> rfl
  keeps draft key tree next passed slot _ := by
    unfold skipUnknown at passed
    split at passed <;> cases passed
    rfl

/-- Reads one member. -/
def readMember (slots : List (Slot σ)) (unknown : σ → String → Tree → Except Fault σ)
    (levels : Nat) (draft : σ) (key : String) (value : Tree) : Except Fault σ :=
  match slots.find? fun slot => slot.key == key with
  | none => unknown draft key value
  | some slot =>
    if slot.isRead draft then throw (.duplicateField key) else slot.read levels draft value

/-- Members are read one after the other. -/
theorem readMembers_member (draft : σ) (key : String) (value : Tree) (rest : Members) :
    readMembers slots unknown levels draft (.member (some key) value rest) =
      readMember slots unknown levels draft key value >>= fun next =>
        readMembers slots unknown levels next rest := by
  rw [readMembers, readMember]
  cases slots.find? fun slot => slot.key == key with
  | none => rfl
  | some slot =>
    by_cases again : slot.isRead draft = true
    · simp only [again]
      rfl
    · simp only [again]
      rfl

namespace Describes

variable (describes : Describes levels slots unknown known other)
include describes

/-- A key has a slot exactly if it is known, and then the slot reports its inspection. -/
theorem find?_cases (key : String) :
    slots.find? (fun slot => slot.key == key) = none ∧
        known.find? (fun known => known.key == key) = none ∨
      ∃ slot ∈ slots, ∃ found, slots.find? (fun slot => slot.key == key) = some slot ∧
        known.find? (fun known => known.key == key) = some found ∧ slot.key = key ∧
        ∀ draft tree, fault? (slot.read levels draft tree) = (found.inspect tree).head? := by
  have reports := describes.reports
  clear describes
  induction reports with
  | nil => exact Or.inl ⟨rfl, rfl⟩
  | @cons slot found restSlots restKnown first _ hyp =>
    by_cases here : slot.key = key
    · refine Or.inr ⟨slot, List.mem_cons_self, found, ?_, ?_, here, first.2⟩
      · exact List.find?_cons_of_pos (by simpa using here)
      · exact List.find?_cons_of_pos (by simpa using first.1.symm.trans here)
    · have elsewhere : ¬ found.key = key := fun there => here (first.1.trans there)
      rw [List.find?_cons_of_neg (by simpa using here),
        List.find?_cons_of_neg (by simpa using elsewhere)]
      obtain none | ⟨other, among, rest⟩ := hyp
      · exact Or.inl none
      · exact Or.inr ⟨other, List.mem_cons_of_mem slot among, rest⟩

variable {draft : σ} {earlier : List String}
  (marked : ∀ slot ∈ slots, slot.isRead draft = decide (slot.key ∈ earlier))
include marked

/-- Reading one member reports what is wrong with it. -/
theorem fault?_readMember (key : String) (value : Tree) :
    fault? (readMember slots unknown levels draft key value) =
      (memberFaults known other earlier key value).head? := by
  unfold readMember memberFaults
  obtain ⟨noSlot, strange⟩ | ⟨slot, among, found, hasSlot, isKnown, rfl, reports⟩ :=
    describes.find?_cases key
  · rw [noSlot, strange]
    exact describes.others draft key value
  · rw [hasSlot, isKnown]
    simp only [marked slot among, decide_eq_true_eq]
    by_cases again : slot.key ∈ earlier
    · rw [if_pos again, if_pos again]
      rfl
    · rw [if_neg again, if_neg again]
      exact reports draft value

/-- After a member the slots of the keys so far are marked. -/
theorem marked_readMember {key : String} {value : Tree} {next : σ}
    (read : readMember slots unknown levels draft key value = .ok next) :
    ∀ slot ∈ slots, slot.isRead next = decide (slot.key ∈ key :: earlier) := by
  intro slot among
  unfold readMember at read
  obtain ⟨noSlot, _⟩ | ⟨own, held, _, hasSlot, _, rfl, _⟩ := describes.find?_cases key
  · have other : slot.key ≠ key := by simpa using List.find?_eq_none.mp noSlot slot among
    rw [noSlot] at read
    rw [describes.keeps draft key value next read slot among, marked slot among]
    simp [other]
  · rw [hasSlot] at read
    by_cases again : own.isRead draft = true
    · simp only [again] at read
      cases read
    · simp only [again] at read
      rw [describes.marks own held draft value next read slot among, marked slot among]
      by_cases same : slot.key = own.key <;> simp [same]

omit marked

/-- Reading members reports what is wrong with them. -/
theorem fault?_readMembers : ∀ (members : Members) {draft : σ} {earlier : List String},
    (∀ slot ∈ slots, slot.isRead draft = decide (slot.key ∈ earlier)) →
    fault? (readMembers slots unknown levels draft members) =
      (members.faults known other earlier).head?
  | .close, _, _, _ | .cut, _, _, _ | .member none _ _, _, _, _ => rfl
  | .member (some key) value rest, draft, earlier, marked => by
    rw [readMembers_member]
    refine fault?_bind (describes.fault?_readMember marked key value) fun next read => ?_
    exact fault?_readMembers rest (describes.marked_readMember marked read)

/-- After members the slots of all their keys are marked. -/
theorem marked_readMembers : ∀ {members : Members} {draft next : σ} {earlier : List String},
    (∀ slot ∈ slots, slot.isRead draft = decide (slot.key ∈ earlier)) →
    readMembers slots unknown levels draft members = .ok next →
    ∀ slot ∈ slots, slot.isRead next = decide (slot.key ∈ earlier ∨ slot.key ∈ members.keys)
  | .close, draft, next, earlier, marked, read, slot, among => by
    cases read
    simpa [Members.keys] using marked slot among
  | .cut, _, _, _, _, read, _, _ | .member none _ _, _, _, _, _, read, _, _ => by cases read
  | .member (some key) value rest, draft, next, earlier, marked, read, slot, among => by
    rw [readMembers_member] at read
    obtain ⟨middle, first, later⟩ := bind_eq_ok_iff.mp read
    rw [marked_readMembers (describes.marked_readMember marked first) later slot among]
    simp only [Members.keys, List.mem_cons, or_assoc, or_left_comm]

/-- A slot that is marked stays so while positions are read. -/
theorem isRead_readPositions {slot : Slot σ} (among : slot ∈ slots) {places : List (Slot σ)}
    (some : ∀ place ∈ places, place ∈ slots) {draft : σ} (before : slot.isRead draft = true)
    {items : Items} {next : σ} (read : readPositions levels places draft items = .ok next) :
    slot.isRead next = true := by
  induction places generalizing draft items with
  | nil =>
    cases items <;> cases read
    exact before
  | cons place rest hyp =>
    rw [List.forall_mem_cons] at some
    cases items with
    | close =>
      cases read
      exact before
    | cut => cases read
    | item head tail =>
      obtain ⟨middle, first, later⟩ := bind_eq_ok_iff.mp read
      have still : slot.isRead middle = true := by
        rw [describes.marks place some.1 draft head middle first slot among, before, Bool.or_true]
      exact hyp some.2 still later

end Describes

/-- Reading positions reports what is wrong with them. -/
theorem fault?_readPositions {places : List (Slot σ)} {known : List KnownKey}
    (reports : List.Forall₂ (fun slot known => slot.key = known.key ∧
      ∀ draft tree, fault? (slot.read levels draft tree) = (known.inspect tree).head?) places known)
    (draft : σ) (items : Items) :
    fault? (readPositions levels places draft items) = (items.positionFaults known).head? := by
  induction reports generalizing draft items with
  | nil => cases items <;> rfl
  | cons first _ hyp =>
    cases items with
    | close | cut => rfl
    | item head rest => exact fault?_bind (first.2 draft head) fun next _ => hyp next rest

section Required

variable {shape : Shape σ α} {first : Slot σ} {rest : List (Slot σ)} {required : KnownKey}
  {others : List KnownKey} (listed : shape.slots = first :: rest)
  (describes : Describes levels shape.slots skipUnknown (required :: others) .whole)
  (unread : ∀ slot ∈ shape.slots, slot.isRead shape.start = false)
  (finished : ∀ draft, (shape.finish draft).isSome = first.isRead draft)
include listed describes unread finished

/-- Reading the object of a structure of which the first key is required reports what is wrong with
it. -/
theorem Shape.fault?_object (members : Members) :
    fault? (shape.reader (levels + 1) (.object members)) =
      (Inspection.structured shape.name required others (.object members)).head? := by
  have own : first ∈ shape.slots := listed ▸ List.mem_cons_self
  have reports := describes.reports
  rw [listed] at reports
  have key : first.key = required.key := (List.forall₂_cons.mp reports).1.1
  have fresh : ∀ slot ∈ shape.slots, slot.isRead shape.start = decide (slot.key ∈ []) :=
    fun slot among => (unread slot among).trans (by simp)
  change fault? (readMembers shape.slots skipUnknown levels shape.start members >>= _) = _
  refine fault?_bind (describes.fault?_readMembers members fresh) fun draft read => ?_
  -- The structure can be finished exactly if the first key is among those that were read.
  have marked := describes.marked_readMembers fresh read first own
  rw [key] at marked
  have missing : Fault.missingField shape.firstKey = .missingField required.key := by
    rw [Shape.firstKey, listed, ← key]
  refine (fault?_finished (shape.finish draft) _).trans ?_
  rw [finished draft, marked, missing]
  by_cases given : required.key ∈ members.keys <;> simp [given]

/-- Reading the values of a structure of which the first key is required reports what is wrong with
them. -/
theorem Shape.fault?_array (items : Items) :
    fault? (shape.reader (levels + 1) (.array items)) =
      (Inspection.structured shape.name required others (.array items)).head? := by
  have own : first ∈ shape.slots := listed ▸ List.mem_cons_self
  have reports := describes.reports
  rw [listed] at reports
  change fault? (readPositions levels shape.slots shape.start items >>= _) = _
  rw [listed]
  cases items with
  | close =>
    have count : rest.length = others.length := (List.forall₂_cons.mp reports).2.length_eq
    refine (fault?_finished (shape.finish shape.start) _).trans ?_
    rw [finished shape.start, unread first own, List.length_cons, count]
    rfl
  | cut => rfl
  | item head tail =>
    have some : ∀ place ∈ rest, place ∈ shape.slots :=
      fun place among => listed ▸ List.mem_cons_of_mem first among
    -- Nothing can be missing behind the first value, which fills the place of the required key.
    rw [← List.append_nil (Inspection.structured _ _ _ _)]
    refine fault?_bind (fault?_readPositions reports shape.start (.item head tail))
      fun draft read => ?_
    obtain ⟨middle, filled, later⟩ := bind_eq_ok_iff.mp read
    have still : first.isRead middle = true := by
      rw [describes.marks first own shape.start head middle filled first own, beq_self_eq_true,
        Bool.true_or]
    have marked := describes.isRead_readPositions own some still later
    refine (fault?_finished (shape.finish draft) _).trans ?_
    rw [finished draft, marked]
    rfl

end Required

/-- Reading a structure of which the first key is required reports its inspection. -/
theorem Shape.reader_reports {shape : Shape σ α} {first : Slot σ} {rest : List (Slot σ)}
    {required : KnownKey} {others : List KnownKey} {depth : Nat}
    (listed : shape.slots = first :: rest)
    (describes : ∀ levels,
      Describes (levels + depth) shape.slots skipUnknown (required :: others) .whole)
    (unread : ∀ slot ∈ shape.slots, slot.isRead shape.start = false)
    (finished : ∀ draft, (shape.finish draft).isSome = first.isRead draft) :
    shape.reader.Reports (depth + 1) (.structured shape.name required others) := by
  intro levels tree
  cases tree with
  | object members => exact Shape.fault?_object listed (describes levels) unread finished members
  | array items => exact Shape.fault?_array listed (describes levels) unread finished items
  | _ => rfl

end Structures

end ImageConfig.Json
