import ImageConfig.Json.Tree

/-!
# Compact JSON texts

The compact text of a tree has no blanks. In strings the quotation mark, the backslash and the
characters below U+0020 are escaped, by a letter where there is one and by four hexadecimal digits
otherwise; every other character stands for itself. A tree that is cut off has a text that is cut
off in the same place.
-/

namespace ImageConfig.Json

/-- The letter or sign that stands for a character after a backslash. -/
def escapeLetter? : Char → Option Char
  | '"' => some '"'
  | '\\' => some '\\'
  | '\x08' => some 'b'
  | '\x0c' => some 'f'
  | '\n' => some 'n'
  | '\r' => some 'r'
  | '\t' => some 't'
  | _ => none

/-- A character as it stands in a string. -/
def escapeChar (char : Char) : List Char :=
  match escapeLetter? char with
  | some letter => ['\\', letter]
  | none =>
    if char.toNat < 0x20 then
      ['\\', 'u', '0', '0', Nat.digitChar (char.toNat / 16), Nat.digitChar (char.toNat % 16)]
    else [char]

/-- A string between quotation marks. -/
def quoted (string : String) : List Char := '"' :: string.toList.flatMap escapeChar ++ ['"']

/-- A string, or half a surrogate pair in place of one that has no value. -/
def stringText : Option String → List Char
  | some string => quoted string
  | none => ['"', '\\', 'u', 'd', '8', '0', '0', '"']

mutual

/-- The text of a value. -/
def Tree.text : Tree → List Char
  | .null => ['n', 'u', 'l', 'l']
  | .bool true => ['t', 'r', 'u', 'e']
  | .bool false => ['f', 'a', 'l', 's', 'e']
  | .number number => number.text
  | .string value => stringText value
  | .array items => '[' :: items.text
  | .object members => '\x7b' :: members.text
  | .broken => []

/-- The text of the items after the opening bracket. -/
def Items.text : Items → List Char
  | .close => [']']
  | .cut => []
  | .item head rest => head.text ++ rest.restText

/-- The text of the items after another item. -/
def Items.restText : Items → List Char
  | .close => [']']
  | .cut => []
  | .item head rest => ',' :: head.text ++ rest.restText

/-- The text of the members after the opening brace. -/
def Members.text : Members → List Char
  | .close => ['\x7d']
  | .cut => []
  | .member key value rest => stringText key ++ ':' :: value.text ++ rest.restText

/-- The text of the members after another member. -/
def Members.restText : Members → List Char
  | .close => ['\x7d']
  | .cut => []
  | .member key value rest => ',' :: stringText key ++ ':' :: value.text ++ rest.restText

end

/-- The compact text of a value. -/
def Tree.compact (tree : Tree) : String := String.ofList tree.text

/-- A string as a value. -/
def Tree.ofString (string : String) : Tree := .string (some string)

/-- A list as a value. -/
def Tree.ofList (items : List Tree) : Tree := .array (Items.ofList items)

/-- A list of strings as a value. -/
def Tree.ofStrings (strings : List String) : Tree := .ofList (strings.map .ofString)

/-- Keys with their values as a value. -/
def Tree.ofMembers (members : List (String × Tree)) : Tree := .object (Members.ofList members)

end ImageConfig.Json
