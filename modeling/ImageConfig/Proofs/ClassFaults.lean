import ImageConfig.Proofs.FlagReading

/-!
# What is wrong with a class

Reading a class stops at the first fault, and which one that is does not follow from the order of
the text alone. The name, methods and fields are read as they come, and all other members are kept
for the end. So everything that is wrong with a class is listed in four parts
(`ClassEntry.faults`): what is wrong with its name, methods and fields, a missing name, other values
that are no truth values, and other keys that belong to no flag. Each part is in the order of the
text, and the fault of the class is the first one of them all (`readText_class_error_iff`).

The text is taken to stay within the limits of the reader. Beyond them a value that has to be kept
is a fault in its own place (`ClassEntry.keepable`), which `ClassEntry.fault?_reader` still tells.
-/

namespace ImageConfig

open Json

/-- What is wrong with a value in place of a method. -/
def Method.inspect : Inspection :=
  .structured "MethodDescriptor" ⟨"name", .string⟩
    [⟨"parameterTypes", .optional (.array .sequence .string)⟩]

/-- Reading a method reports its inspection. -/
theorem Method.reader_reports : Method.shape.reader.Reports 2 Method.inspect := by
  refine Shape.reader_reports rfl (fun levels => .of_skipUnknown ?reports ?marks) ?unread ?finished
  case reports =>
    have strings := readArray_reports readString_reports .sequence
    exact .cons ⟨rfl, Slot.reports_of (readString_reports.deeper 1)⟩
      (.cons ⟨rfl, Slot.reports_of (readOptional_reports strings)⟩ .nil)
  case marks =>
    intro slot among draft tree next read other known
    simp only [shape, List.mem_cons, List.not_mem_nil, or_false] at among known
    obtain rfl | rfl := among <;>
    · obtain ⟨value, _, rfl⟩ := Slot.exists_of_read_of read
      obtain rfl | rfl := known <;> simp [Slot.of]
  case unread =>
    simp [shape, Slot.of]
  case finished =>
    intro draft
    cases named : draft.name <;> simp [shape, Slot.of, named]

/-- What is wrong with a value in place of a field. -/
def Field.inspect : Inspection :=
  .structured "FieldDescriptor" ⟨"name", .string⟩
    [⟨"allowWrite", .boolean⟩, ⟨"allowUnsafeAccess", .boolean⟩]

/-- Reading a field reports its inspection. -/
theorem Field.reader_reports : Field.shape.reader.Reports 1 Field.inspect := by
  refine Shape.reader_reports rfl (fun levels => .of_skipUnknown ?reports ?marks) ?unread ?finished
  case reports =>
    exact .cons ⟨rfl, Slot.reports_of readString_reports⟩
      (.cons ⟨rfl, Slot.reports_of readBool_reports⟩
        (.cons ⟨rfl, Slot.reports_of readBool_reports⟩ .nil))
  case marks =>
    intro slot among draft tree next read other known
    simp only [shape, List.mem_cons, List.not_mem_nil, or_false] at among known
    obtain rfl | rfl | rfl := among <;>
    · obtain ⟨value, _, rfl⟩ := Slot.exists_of_read_of read
      obtain rfl | rfl | rfl := known <;> simp [Slot.of]
  case unread =>
    simp [shape, Slot.of]
  case finished =>
    intro draft
    cases named : draft.name <;> simp [shape, Slot.of, named]

namespace ClassEntry

/-- The keys of a class that are not flags, with what their values have to be. -/
def knownKeys : List KnownKey :=
  [⟨"name", .string⟩, ⟨"methods", .array .sequence Method.inspect⟩,
    ⟨"fields", .array .sequence Field.inspect⟩]

/-- What is wrong with a value that is kept for the end. -/
def keepable (levels : Nat) : Inspection := fun tree =>
  if tree.isReadable levels then [] else [.malformed]

/-- The known keys and the values that can be kept describe how the members of a class are read. -/
theorem describes (levels : Nat) :
    Describes (levels + 3) slots (keepOther (levels + 3)) knownKeys (keepable (levels + 3)) where
  reports :=
    .cons ⟨rfl, Slot.reports_of (readString_reports.deeper 3)⟩
      (.cons ⟨rfl, Slot.reports_of (readArray_reports Method.reader_reports .sequence)⟩
        (.cons ⟨rfl, Slot.reports_of
          ((readArray_reports Field.reader_reports .sequence).deeper 1)⟩ .nil))
  marks slot among draft tree next read other known := by
    simp only [slots, List.mem_cons, List.not_mem_nil, or_false] at among known
    obtain rfl | rfl | rfl := among <;>
    · obtain ⟨value, _, rfl⟩ := Slot.exists_of_read_of read
      obtain rfl | rfl | rfl := known <;> simp [Slot.of]
  others draft key tree := by
    unfold keepOther keepable
    split <;> rfl
  keeps draft key tree next kept slot known := by
    unfold keepOther at kept
    split at kept <;> cases kept
    simp only [slots, List.mem_cons, List.not_mem_nil, or_false] at known
    obtain rfl | rfl | rfl := known <;> rfl

/-- What is wrong with a class once its members are read. -/
def lateFaults (members : List (String × Tree)) : List Fault :=
  (if "name" ∈ members.map Prod.fst then [] else [.missingField "name"]) ++
    ((otherMembers members).filterMap notBoolean? ++
      ((otherMembers members).map Prod.fst).filterMap (noFlag? true))

/-- Everything that is wrong with a class whose other values are readable: what is wrong with its
name, methods and fields in the order of the text, then a missing name, then the values of other
members that are no truth values, then the keys among them that belong to no flag. -/
def faults (members : List (String × Tree)) : List Fault :=
  (Members.ofList members).faults knownKeys (fun _ => []) [] ++ lateFaults members

/-- Nothing of a class has been read at the start. -/
theorem isRead_start : ∀ slot ∈ slots, slot.isRead {} = decide (slot.key ∈ []) := by
  simp [slots, Slot.of]

/-- Finishing a class reports what is wrong with it once its members are read. -/
theorem fault?_finish {levels : Nat} {members : List (String × Tree)} {draft : Draft}
    (read : readMembers slots (keepOther (levels + 3)) (levels + 3) {} (.ofList members) =
      .ok draft) :
    fault? (finish draft) = (lateFaults members).head? := by
  have marked := (describes levels).marked_readMembers isRead_start read
  -- The draft has a name exactly if the first slot is marked.
  have named : draft.name.isSome = true ↔ "name" ∈ members.map Prod.fst := by
    have given := Bool.eq_iff_iff.mp (marked _ List.mem_cons_self)
    simp only [List.not_mem_nil, false_or, decide_eq_true_eq, Members.keys_ofList] at given
    exact given
  have others : draft.others.reverse = otherMembers members := by
    simp [(others_of_readMembers read).2]
  unfold lateFaults
  cases given : draft.name with
  | none =>
    have missing : "name" ∉ members.map Prod.fst := by simpa [given] using named
    rw [if_neg missing]
    unfold finish
    rw [given]
    rfl
  | some name =>
    have present : "name" ∈ members.map Prod.fst := by simpa [given] using named
    rw [if_pos present, List.nil_append, finish_of_named given, fault?_map, others,
      fault?_readSettings]

/-- Reading a class reports what is wrong with it. -/
theorem fault?_reader (levels : Nat) (members : List (String × Tree)) :
    fault? (reader (levels + 4) (.ofMembers members)) =
      ((Members.ofList members).faults knownKeys (keepable (levels + 3)) [] ++
        lateFaults members).head? := by
  rw [reader_ofMembers]
  exact fault?_bind ((describes levels).fault?_readMembers (.ofList members) isRead_start)
    fun draft read => fault?_finish read

end ClassEntry

/-- **The fault of a class is the first of all that is wrong with it.** An object within the limits
of the reader is no class exactly if something is wrong with it, and then the first fault in the
order of `ClassEntry.faults` is reported. A fault inside the methods thus comes before a flag that
stands ahead of them, and an unsupported key is reported only if nothing else is wrong, be its value
true or false. A value that is no truth value is reported by its type. -/
theorem readText_class_error_iff {text : String} {members : List (String × Tree)}
    (document : Document.ofText text = ⟨.ofMembers members, true⟩)
    (limits : (Tree.ofMembers members).isReadable nestingLimit = true) :
    (∀ fault, ClassEntry.reader.readText text = .error fault ↔
      (ClassEntry.faults members).head? = some fault) ∧
    ((∃ entry, ClassEntry.reader.readText text = .ok entry) ↔
      ClassEntry.faults members = []) ∧
    ∀ member ∈ members, ∀ fault, notBoolean? member = some fault →
      ∃ found, fault = .wrongType found .boolean := by
  have values : ∀ member ∈ members, member.2.isReadable (nestingLimit - 1) = true :=
    List.all_eq_true.mp ((Members.isReadable_ofList (nestingLimit - 1) members).symm.trans limits)
  have readable : ∀ member ∈ members, ClassEntry.keepable (nestingLimit - 1) member.2 = [] :=
    fun member among => if_pos (values member among)
  have known : (Members.ofList members).faults ClassEntry.knownKeys
      (ClassEntry.keepable (nestingLimit - 1)) [] =
        (Members.ofList members).faults ClassEntry.knownKeys (fun _ => []) [] :=
    Members.faults_ofList_congr readable []
  have whole : fault? (ClassEntry.reader.readText text) = (ClassEntry.faults members).head? := by
    rw [Reader.readText_of_document _ document, ClassEntry.faults, ← known]
    exact ClassEntry.fault?_reader (nestingLimit - 4) members
  refine ⟨fun fault => ?first, ?none, fun member among fault wrong => ?typed⟩
  case first => rw [← whole, fault?_eq_some_iff]
  case none => rw [← fault?_eq_none_iff, whole, List.head?_eq_none_iff]
  case typed => exact wrongType_of_boolean (values member among) wrong

set_option maxRecDepth 4000 in
/-- Parameter types that are no list are reported ahead of an unsupported key and a flag with a
string before them, and of the second name after them. -/
theorem readText_class_of_many_faults :
    ClassEntry.reader.readText
      ("\x7b\"speed\":false,\"allPublicFields\":\"yes\",\"methods\":[\x7b\"name\":\"m\"," ++
        "\"parameterTypes\":\"int\"\x7d],\"name\":\"a.B\",\"name\":\"a.C\"\x7d") =
      .error (.wrongType (.string "int") .sequence) := by
  let method : Tree :=
    .ofMembers [("name", .ofString "m"), ("parameterTypes", .ofString "int")]
  let members : List (String × Tree) :=
    [("speed", .bool false), ("allPublicFields", .ofString "yes"), ("methods", .ofList [method]),
      ("name", .ofString "a.B"), ("name", .ofString "a.C")]
  have reading {text : String} (document : Document.ofText text = ⟨.ofMembers members, true⟩) :
      ClassEntry.reader.readText text = .error (.wrongType (.string "int") .sequence) :=
    ((readText_class_error_iff document rfl).1 _).mpr rfl
  exact reading rfl

end ImageConfig
