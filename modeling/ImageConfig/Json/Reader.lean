import ImageConfig.Json.Tree
import ImageConfig.Json.Fault

/-!
# Reading JSON trees

A reader takes a tree apart in the order of the text and reports the first fault it meets, so a
fault in the shape of a text hides whatever is wrong after it. Arrays and objects may nest to a
limit; a reader is given how many levels are left. What a structure does not know is skipped
(`Tree.isWhole`), which needs no level and looks into no value; what is kept for later is looked
into (`Tree.isReadable`).
-/

namespace ImageConfig.Json

/-- A way to read a value, given how many levels may be nested below. -/
abbrev Reader (α : Type) : Type := Nat → Tree → Except Fault α

/-- How many arrays and objects may be nested. -/
def nestingLimit : Nat := 127

/-- Reads a whole text. Nothing but blanks may follow the value. -/
def Reader.readText {α : Type} (reader : Reader α) (text : String) : Except Fault α := do
  let document := Document.ofText text
  let value ← reader nestingLimit document.tree
  if document.isComplete then return value else throw .malformed

/-- The levels left inside an array or object. -/
def inside : Nat → Except Fault Nat
  | 0 => throw .malformed
  | levels + 1 => return levels

/-- The fault of a value where another type is expected. -/
def mismatch (expected : Expected) : Tree → Fault
  | .null => .wrongType .null expected
  | .bool value => .wrongType (.bool value) expected
  | .number number =>
    match number.numeral? with
    | some value => .wrongType (.number value) expected
    | none => .malformed
  | .string (some value) => .wrongType (.string value) expected
  | .string none => .malformed
  | .array _ => .wrongType .sequence expected
  | .object _ => .wrongType .map expected
  | .broken => .malformed

/-- Reads a string. -/
def readString : Reader String
  | _, .string (some value) => return value
  | _, tree => throw (mismatch .string tree)

/-- Reads a truth value. -/
def readBool : Reader Bool
  | _, .bool value => return value
  | _, tree => throw (mismatch .boolean tree)

/-- Reads the items of an array. -/
def readItems {α : Type} (item : Tree → Except Fault α) : Items → Except Fault (List α)
  | .close => return []
  | .cut => throw .malformed
  | .item head rest => do
    let value ← item head
    let values ← readItems item rest
    return value :: values

/-- Reads an array whose items are all of one kind. -/
def readArray {α : Type} (expected : Expected) (item : Reader α) : Reader (List α)
  | levels, .array items => do
    let levels ← inside levels
    readItems (item levels) items
  | _, tree => throw (mismatch expected tree)

/-- Reads an array of strings. -/
def readStrings (expected : Expected) : Reader (List String) := readArray expected readString

/-- Reads the members of an object whose values are all of one kind, repeats included. -/
def readEntries {α : Type} (value : Tree → Except Fault α) :
    Members → Except Fault (List (String × α))
  | .close => return []
  | .cut => throw .malformed
  | .member none _ _ => throw .malformed
  | .member (some key) tree rest => do
    let read ← value tree
    let entries ← readEntries value rest
    return (key, read) :: entries

/-- Reads `null` as no value. -/
def readOptional {α : Type} (reader : Reader α) : Reader (Option α)
  | _, .null => return none
  | levels, tree => do
    let value ← reader levels tree
    return some value

mutual

/-- Whether a value can be read without knowing its type: the text goes on to its end, its numbers
are in range, its strings have values, and it is not nested too deep. -/
def Tree.isReadable (levels : Nat) : Tree → Bool
  | .number number => number.numeral?.isSome
  | .string value => value.isSome
  | .array items =>
    match levels with
    | 0 => false
    | levels + 1 => items.isReadable levels
  | .object members =>
    match levels with
    | 0 => false
    | levels + 1 => members.isReadable levels
  | .broken => false
  | _ => true

/-- Whether the items of an array can be read without knowing their types. -/
def Items.isReadable (levels : Nat) : Items → Bool
  | .close => true
  | .cut => false
  | .item head rest => head.isReadable levels && rest.isReadable levels

/-- Whether the members of an object can be read without knowing their types. -/
def Members.isReadable (levels : Nat) : Members → Bool
  | .close => true
  | .cut => false
  | .member key value rest =>
    key.isSome && value.isReadable levels && rest.isReadable levels

end

/-- A known key of a structure. The type `σ` is that of the structure as far as it is read. -/
structure Slot (σ : Type) where
  /-- The key. -/
  key : String
  /-- Whether the key has been read. -/
  isRead : σ → Bool
  /-- Reads the value under the key. -/
  read : Nat → σ → Tree → Except Fault σ

/-- A slot that fills one part of a structure. -/
def Slot.of {σ α : Type} (key : String) (part : σ → Option α) (fill : σ → α → σ)
    (reader : Reader α) : Slot σ where
  key
  isRead draft := (part draft).isSome
  read levels draft tree := do
    let value ← reader levels tree
    return fill draft value

/-- A structure with known keys; only the first one may be required. -/
structure Shape (σ α : Type) where
  /-- Name in messages. -/
  name : String
  /-- Known keys in the order of a structure that is given as a list. -/
  slots : List (Slot σ)
  /-- The structure before anything is read. -/
  start : σ
  /-- The structure once all is read, unless a required key is left out. -/
  finish : σ → Option α

namespace Shape

variable {σ α : Type}

/-- The key that may be required. -/
def firstKey (shape : Shape σ α) : String :=
  match shape.slots with
  | [] => ""
  | slot :: _ => slot.key

end Shape

/-- Reads the members of a structure; a key that is not known is left to `unknown`. -/
def readMembers {σ : Type} (slots : List (Slot σ)) (unknown : σ → String → Tree → Except Fault σ)
    (levels : Nat) (draft : σ) : Members → Except Fault σ
  | .close => return draft
  | .cut => throw .malformed
  | .member none _ _ => throw .malformed
  | .member (some key) value rest => do
    let draft ←
      match slots.find? fun slot => slot.key == key with
      | none => unknown draft key value
      | some slot =>
        if slot.isRead draft then throw (.duplicateField key) else slot.read levels draft value
    readMembers slots unknown levels draft rest

/-- Reads a structure that is given as the list of its values. -/
def readPositions {σ : Type} (levels : Nat) : List (Slot σ) → σ → Items → Except Fault σ
  | [], draft, .close => return draft
  | [], _, _ => throw .malformed
  | _ :: _, draft, .close => return draft
  | _ :: _, _, .cut => throw .malformed
  | slot :: slots, draft, .item head rest => do
    let draft ← slot.read levels draft head
    readPositions levels slots draft rest

/-- Passes over an unknown key. -/
def skipUnknown {σ : Type} (draft : σ) (_key : String) (value : Tree) : Except Fault σ :=
  if value.isWhole then return draft else throw .malformed

/-- Reads a structure, given as an object or as the list of its values. -/
def Shape.reader {σ α : Type} (shape : Shape σ α) : Reader α
  | levels, .object members => do
    let levels ← inside levels
    let draft ← readMembers shape.slots skipUnknown levels shape.start members
    match shape.finish draft with
    | some value => return value
    | none => throw (.missingField shape.firstKey)
  | levels, .array items => do
    let levels ← inside levels
    let draft ← readPositions levels shape.slots shape.start items
    match shape.finish draft with
    | some value => return value
    | none => throw (.wrongLength 0 shape.name shape.slots.length)
  | _, tree => throw (mismatch (.structure shape.name) tree)

end ImageConfig.Json
