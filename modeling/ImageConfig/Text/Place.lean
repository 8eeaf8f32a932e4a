/-!
# Places at the end of a text

Messages on a text end with the place they are about, a line and a column. A message that quotes
free text may look as if it ended with one; what looks like a place is then taken for it and
dropped, so that a message never names a place of its own (`withoutPlace`).

Lines count from 1. A place on line 0 is no place at all: a message that has no other is told as if
it stood there, so the same ending once more is dropped as well (`withoutOwnPlace`).
-/

namespace ImageConfig.Text

/-- The value of digits, last one first. -/
def ofReversedDigits : List Char → Nat
  | [] => 0
  | char :: rest => (char.toNat - '0'.toNat) + 10 * ofReversedDigits rest

/-- A number of 64 bits after a word, and what precedes the word; the text is given last character
first, the word too. -/
def lastNumber? (word reversed : List Char) : Option (Nat × List Char) :=
  let digits := reversed.takeWhile Char.isDigit
  let rest := reversed.dropWhile Char.isDigit
  let number := ofReversedDigits digits
  if digits.isEmpty || UInt64.size ≤ number then none
  else if word.isPrefixOf rest then some (number, rest.drop word.length)
  else none

/-- A text that ends with a place, cut before it. -/
structure Placed where
  /-- What precedes the place, last character first. -/
  reversed : List Char
  /-- The line. -/
  line : Nat
  /-- The column. -/
  column : Nat

/-- Cuts a text before the place at its end, if it ends with one. -/
def placed? (text : String) : Option Placed := do
  let (column, before) ← lastNumber? " column ".toList.reverse text.toList.reverse
  let (line, before) ← lastNumber? " at line ".toList.reverse before
  return ⟨before, line, column⟩

/-- What precedes the place. -/
def Placed.before (placed : Placed) : String := String.ofList placed.reversed.reverse

/-- What precedes the place, also without one more place on line 0 in the same column. -/
def Placed.beforeRepeated (placed : Placed) : String :=
  let again := (" at line 0 column " ++ toString placed.column).toList.reverse
  if again.isPrefixOf placed.reversed then
    String.ofList (placed.reversed.drop again.length).reverse
  else placed.before

/-- The text without the place at its end, if it ends with one. -/
def withoutPlace (text : String) : String :=
  match placed? text with
  | some placed => placed.before
  | none => text

/-- The text without the place at its end, where nothing but that ending gives the message a
place. -/
def withoutOwnPlace (text : String) : String :=
  match placed? text with
  | some placed => if placed.line = 0 then placed.beforeRepeated else placed.before
  | none => text

/-- A text whose last character is no digit ends with no place. -/
theorem placed?_of_last {text : String} {last : Char} {before : List Char}
    (ends : text.toList = before ++ [last]) (noDigit : last.isDigit = false) :
    placed? text = none := by
  simp [placed?, lastNumber?, ends, noDigit]

/-- A text whose last character is no digit stays as it is. -/
theorem withoutPlace_of_last {text : String} {last : Char} {before : List Char}
    (ends : text.toList = before ++ [last]) (noDigit : last.isDigit = false) :
    withoutPlace text = text := by
  rw [withoutPlace, placed?_of_last ends noDigit]

/-- A text whose last character is no digit stays as it is, whatever place its message has. -/
theorem withoutOwnPlace_of_last {text : String} {last : Char} {before : List Char}
    (ends : text.toList = before ++ [last]) (noDigit : last.isDigit = false) :
    withoutOwnPlace text = text := by
  rw [withoutOwnPlace, placed?_of_last ends noDigit]

end ImageConfig.Text
