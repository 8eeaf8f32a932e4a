import ImageConfig.Flag
import ImageConfig.Json.Number
import ImageConfig.Text.Place
import ImageConfig.Text.Quoted

/-!
# Faults in JSON texts

Why a text is not read: either it is not JSON at all, or it goes beyond the limits of the reader,
or it is JSON of the wrong shape. Only the last kind has a message, which tells what was found and
what was expected, and names no place in the text.
-/

namespace ImageConfig.Json

/-- What stands where something else was expected. -/
inductive Found where
  | null
  | bool (value : Bool)
  | number (value : Numeral)
  | string (value : String)
  | sequence
  | map

/-- What was expected. -/
inductive Expected where
  | string
  | boolean
  | sequence
  | set
  | map
  /-- A structure of the given name. -/
  | structure (name : String)

/-- Why a text is not read. -/
inductive Fault where
  /-- The text is not JSON, or too large or too deep. -/
  | malformed
  /-- A value of another type was expected. -/
  | wrongType (found : Found) (expected : Expected)
  /-- A required key is left out. -/
  | missingField (key : String)
  /-- A key comes twice. -/
  | duplicateField (key : String)
  /-- A list has too few items for a structure with so many fields. -/
  | wrongLength (length : Nat) (name : String) (fields : Nat)
  /-- A key belongs to no flag; it stands among the other keys of a class, or else in an object of
  flags. -/
  | unsupportedFlag (key : String) (isOfClass : Bool)

namespace Found

/-- What stands there, as messages tell it. -/
def describe : Found → String
  | null => "null"
  | bool value => "boolean `" ++ (if value then "true" else "false") ++ "`"
  | number value => value.describe
  | string value => "string " ++ Text.quoted value
  | sequence => "sequence"
  | map => "map"

end Found

namespace Expected

/-- What was expected, as messages tell it. -/
def describe : Expected → String
  | string => "a string"
  | boolean => "a boolean"
  | sequence => "a sequence"
  | set => "a set"
  | map => "a map"
  | «structure» name => "struct " ++ name

end Expected

namespace Fault

/-- The message of a fault in the shape of a text. It names no place; only one that ends with a key
of the text can look as if it did. What is wrong with a class has the place of the class, what is
wrong with an object of flags has none. -/
def message? : Fault → Option String
  | malformed => none
  | wrongType found expected =>
    some ("invalid type: " ++ found.describe ++ ", expected " ++ expected.describe)
  | missingField key => some ("missing field `" ++ key ++ "`")
  | duplicateField key => some ("duplicate field `" ++ key ++ "`")
  | wrongLength length name fields =>
    some ("invalid length " ++ toString length ++ ", expected struct " ++ name ++ " with " ++
      toString fields ++ (if fields = 1 then " element" else " elements"))
  | unsupportedFlag key true => some (Text.withoutPlace (unsupportedFlagMessage key))
  | unsupportedFlag key false => some (Text.withoutOwnPlace (unsupportedFlagMessage key))

end Fault

end ImageConfig.Json
