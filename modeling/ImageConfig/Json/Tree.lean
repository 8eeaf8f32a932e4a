import ImageConfig.Json.Token

/-!
# JSON trees

The tree of a text holds what a reader meets on the way through it. Members of an object keep
their order and their repeats. A text that goes wrong still has a tree, as far as it goes: a list
ends with `cut` in place of `close` where the text stops making sense inside it, and a value that
does not make sense is `broken`. So a reader of the tree sees each part of the text before the
place where the text goes wrong, which is what decides between two errors.

The tree is built by an automaton with a stack. It takes one token at a time; the stack holds the
arrays and objects that are open, innermost first.
-/

namespace ImageConfig.Json

mutual

/-- A value, as far as the text gives it. -/
inductive Tree where
  | null
  | bool (value : Bool)
  | number (number : Number)
  /-- A string; `none` if it names half a surrogate pair. -/
  | string (value : Option String)
  | array (items : Items)
  | object (members : Members)
  /-- No value: the text goes wrong in its place. -/
  | broken

/-- The items of an array in order. -/
inductive Items where
  /-- The array ends. -/
  | close
  /-- The text goes wrong in the array. -/
  | cut
  /-- An item and what follows it. -/
  | item (head : Tree) (rest : Items)

/-- The members of an object in order. -/
inductive Members where
  /-- The object ends. -/
  | close
  /-- The text goes wrong in the object. -/
  | cut
  /-- A key with its value, and what follows them. -/
  | member (key : Option String) (value : Tree) (rest : Members)

end

/-- Items before others; the given list has the last item first. -/
def Items.prepend : List Tree → Items → Items
  | [], rest => rest
  | tree :: before, rest => prepend before (.item tree rest)

/-- Members before others; the given list has the last member first. -/
def Members.prepend : List (Option String × Tree) → Members → Members
  | [], rest => rest
  | (key, value) :: before, rest => prepend before (.member key value rest)

/-- The items of a whole array. -/
def Items.ofList : List Tree → Items
  | [] => .close
  | tree :: rest => .item tree (ofList rest)

/-- The members of a whole object. -/
def Members.ofList : List (String × Tree) → Members
  | [] => .close
  | (key, value) :: rest => .member (some key) value (ofList rest)

mutual

/-- Whether a text goes on to the end of the value. -/
def Tree.isWhole : Tree → Bool
  | .array items => items.isWhole
  | .object members => members.isWhole
  | .broken => false
  | _ => true

/-- Whether a text goes on to the end of the array. -/
def Items.isWhole : Items → Bool
  | .close => true
  | .cut => false
  | .item head rest => head.isWhole && rest.isWhole

/-- Whether a text goes on to the end of the object. -/
def Members.isWhole : Members → Bool
  | .close => true
  | .cut => false
  | .member _ value rest => value.isWhole && rest.isWhole

end

/-- An array or object that is open around the current place. -/
inductive Frame where
  /-- An array, with the items before the current one, last one first. -/
  | array (before : List Tree)
  /-- An object, with the members before the current one, last one first, and the key of the
  current one. -/
  | object (before : List (Option String × Tree)) (key : Option String)

/-- How far the tree is built. -/
inductive Progress where
  /-- A value has to follow. -/
  | value (stack : List Frame)
  /-- An array has just been opened. -/
  | arrayStart (stack : List Frame)
  /-- An item has ended; these are the items so far, last one first. -/
  | arrayNext (items : List Tree) (stack : List Frame)
  /-- An object has just been opened. -/
  | objectStart (stack : List Frame)
  /-- A key has to follow. -/
  | objectKey (members : List (Option String × Tree)) (stack : List Frame)
  /-- A colon has to follow the key. -/
  | objectColon (members : List (Option String × Tree)) (key : Option String)
      (stack : List Frame)
  /-- A member has ended; these are the members so far, last one first. -/
  | objectNext (members : List (Option String × Tree)) (stack : List Frame)
  /-- The value of the whole text has ended. -/
  | complete (tree : Tree)
  /-- The text has gone wrong. -/
  | spoilt (tree : Tree)

namespace Progress

/-- The tree with a value at the current place and nothing after it. -/
def enclose (tree : Tree) : List Frame → Tree
  | [] => tree
  | .array before :: stack =>
    enclose (.array (Items.prepend (tree :: before) .cut)) stack
  | .object before key :: stack =>
    enclose (.object (Members.prepend ((key, tree) :: before) .cut)) stack

/-- Puts a value at the current place. -/
def place (tree : Tree) : List Frame → Progress
  | [] => .complete tree
  | .array before :: stack => .arrayNext (tree :: before) stack
  | .object before key :: stack => .objectNext ((key, tree) :: before) stack

/-- The tree as far as it is built. -/
def tree : Progress → Tree
  | value stack => enclose .broken stack
  | arrayStart stack => enclose (.array .cut) stack
  | arrayNext items stack => enclose (.array (Items.prepend items .cut)) stack
  | objectStart stack => enclose (.object .cut) stack
  | objectKey members stack => enclose (.object (Members.prepend members .cut)) stack
  | objectColon members key stack =>
    enclose (.object (Members.prepend ((key, .broken) :: members) .cut)) stack
  | objectNext members stack => enclose (.object (Members.prepend members .cut)) stack
  | complete tree => tree
  | spoilt tree => tree

/-- Whether the value of the text has ended and nothing has followed it. -/
def isComplete : Progress → Bool
  | complete _ => true
  | _ => false

/-- Takes the first token of a value. -/
def start (stack : List Frame) : Token → Progress
  | .openArray => .arrayStart stack
  | .openObject => .objectStart stack
  | .null => place .null stack
  | .bool held => place (.bool held) stack
  | .number held => place (.number held) stack
  | .string held => place (.string held) stack
  | _ => .spoilt (enclose .broken stack)

/-- Takes one token. -/
def step (progress : Progress) (token : Token) : Progress :=
  match progress, token with
  | .value stack, token => start stack token
  | .arrayStart stack, .closeArray => place (.array .close) stack
  | .arrayStart stack, token => start (.array [] :: stack) token
  | .arrayNext items stack, .comma => .value (.array items :: stack)
  | .arrayNext items stack, .closeArray => place (.array (Items.prepend items .close)) stack
  | .objectStart stack, .closeObject => place (.object .close) stack
  | .objectStart stack, .string key => .objectColon [] key stack
  | .objectKey members stack, .string key => .objectColon members key stack
  | .objectColon members key stack, .colon => .value (.object members key :: stack)
  | .objectNext members stack, .comma => .objectKey members stack
  | .objectNext members stack, .closeObject =>
    place (.object (Members.prepend members .close)) stack
  | progress, _ => .spoilt progress.tree

end Progress

/-- The tree of a text. -/
structure Document where
  /-- The value, as far as the text gives it. -/
  tree : Tree
  /-- Whether the text gives a whole value and nothing after it. -/
  isComplete : Bool

/-- The tree of a text. -/
def Document.ofText (text : String) : Document :=
  let progress := (tokens text.toList).foldl Progress.step (.value [])
  ⟨progress.tree, progress.isComplete⟩

end ImageConfig.Json
