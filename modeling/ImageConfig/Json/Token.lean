import ImageConfig.Json.Number

/-!
# Tokens of JSON texts

A text is cut into tokens by an automaton that takes one character at a time and emits a token as
soon as the characters taken complete one. A text that is no sequence of tokens yields the tokens
up to where it goes wrong and then one `bad` token, after which nothing is emitted.

A string may name halves of surrogate pairs by escapes. Two halves that belong together are one
character; any other half names no character, so the string has no value, though it is well formed.
-/

namespace ImageConfig.Json

/-- A token. -/
inductive Token where
  | openArray
  | closeArray
  | openObject
  | closeObject
  | comma
  | colon
  | null
  | bool (value : Bool)
  | number (number : Number)
  /-- A string; `none` if it names half a surrogate pair. -/
  | string (value : Option String)
  /-- The text goes wrong here. -/
  | bad
deriving DecidableEq

/-- Whether a 16-bit unit is the first half of a surrogate pair. -/
def isHighSurrogate (unit : Nat) : Bool := 0xD800 ≤ unit && unit < 0xDC00

/-- Whether a 16-bit unit is the second half of a surrogate pair. -/
def isLowSurrogate (unit : Nat) : Bool := 0xDC00 ≤ unit && unit < 0xE000

/-- The character that two halves of a surrogate pair name. -/
def ofSurrogates (high low : Nat) : Char :=
  Char.ofNat (0x10000 + (high - 0xD800) * 0x400 + (low - 0xDC00))

/-- A string as far as it has been taken. -/
structure Draft where
  /-- Characters, last one first; `none` after half a surrogate pair on its own. -/
  taken : Option (List Char) := some []
  /-- The first half of a surrogate pair, if one has just been taken. -/
  high : Option Nat := none
deriving DecidableEq

namespace Draft

/-- The draft with one more character. -/
def push (draft : Draft) (char : Char) : Draft where
  taken := if draft.high.isSome then none else draft.taken.map (char :: ·)

/-- The draft with one more 16-bit unit. -/
def pushUnit (draft : Draft) (unit : Nat) : Draft :=
  match draft.high with
  | some high =>
    { taken := if isLowSurrogate unit then draft.taken.map (ofSurrogates high unit :: ·) else none }
  | none =>
    if isHighSurrogate unit then { draft with high := some unit }
    else { taken := if isLowSurrogate unit then none else draft.taken.map (Char.ofNat unit :: ·) }

/-- The value of the string when it ends here. -/
def value? (draft : Draft) : Option String :=
  if draft.high.isSome then none else draft.taken.map fun taken => String.ofList taken.reverse

end Draft

/-- How far a number has been taken. -/
inductive NumberPart where
  /-- A minus sign. -/
  | sign
  /-- A zero before the point. -/
  | zero
  /-- Digits before the point, the first of them not zero. -/
  | whole
  /-- The point. -/
  | point
  /-- Digits after the point. -/
  | fraction
  /-- The mark of the exponent. -/
  | mark
  /-- The sign of the exponent. -/
  | markSign
  /-- Digits of the exponent. -/
  | exponent
deriving DecidableEq

namespace NumberPart

/-- Whether a number may end after this part. -/
def mayEnd : NumberPart → Bool
  | zero | whole | fraction | exponent => true
  | _ => false

end NumberPart

/-- What a character does to a number. -/
inductive NumberStep where
  /-- It belongs to the number. -/
  | more (part : NumberPart) (number : Number)
  /-- It is the first one after the number. -/
  | ended
  /-- It makes the number wrong. -/
  | wrong

/-- The value of a decimal digit. -/
def digit? (char : Char) : Option Nat :=
  if '0' ≤ char ∧ char ≤ '9' then some (char.toNat - '0'.toNat) else none

/-- The value of a hexadecimal digit. -/
def hexDigit? (char : Char) : Option Nat :=
  if '0' ≤ char ∧ char ≤ '9' then some (char.toNat - '0'.toNat)
  else if 'a' ≤ char ∧ char ≤ 'f' then some (char.toNat - 'a'.toNat + 10)
  else if 'A' ≤ char ∧ char ≤ 'F' then some (char.toNat - 'A'.toNat + 10)
  else none

namespace Number

/-- The number with one more digit before the point. -/
def addWhole (number : Number) (digit : Nat) : Number :=
  { number with whole := number.whole ++ [digit] }

/-- The number with one more digit after the point. -/
def addFraction (number : Number) (digit : Nat) : Number :=
  { number with fraction := number.fraction ++ [digit] }

/-- The number with one more digit in the exponent. -/
def addExponent (number : Number) (digit : Nat) : Number :=
  match number.exponent with
  | none => { number with exponent := some (false, [digit]) }
  | some (negative, digits) => { number with exponent := some (negative, digits ++ [digit]) }

/-- Takes the character that follows a given part of a number. -/
def step (number : Number) (part : NumberPart) (char : Char) : NumberStep :=
  match part, digit? char with
  | .sign, some 0 => .more .zero (number.addWhole 0)
  | .sign, some digit => .more .whole (number.addWhole digit)
  | .zero, some _ => .wrong
  | .whole, some digit => .more .whole (number.addWhole digit)
  | .point, some digit | .fraction, some digit => .more .fraction (number.addFraction digit)
  | .mark, some digit | .markSign, some digit | .exponent, some digit =>
    .more .exponent (number.addExponent digit)
  | part, none =>
    let beforePoint := part = .zero ∨ part = .whole
    if char = '.' ∧ beforePoint then .more .point number
    else if (char = 'e' ∨ char = 'E') ∧ (beforePoint ∨ part = .fraction) then
      .more .mark { number with exponent := some (false, []) }
    else if char = '+' ∧ part = .mark then .more .markSign number
    else if char = '-' ∧ part = .mark then
      .more .markSign { number with exponent := some (true, []) }
    else if part.mayEnd then .ended
    else .wrong

end Number

/-- What the automaton is in the middle of. -/
inductive Mode where
  /-- Nothing: the next character begins a token or is blank. -/
  | between
  /-- A word of which these characters have still to come. -/
  | word (rest : List Char) (token : Token)
  /-- A string. -/
  | string (draft : Draft)
  /-- A backslash in a string. -/
  | escape (draft : Draft)
  /-- A 16-bit unit in a string, of which so many hexadecimal digits have still to come. -/
  | unit (draft : Draft) (missing value : Nat)
  /-- A number. -/
  | number (part : NumberPart) (number : Number)
  /-- The text has gone wrong. -/
  | failed
deriving DecidableEq

/-- Blank characters between tokens. -/
def isBlank (char : Char) : Bool := char = ' ' || char = '\n' || char = '\t' || char = '\r'

/-- The character that a backslash makes of a letter or sign. -/
def unescape? : Char → Option Char
  | '"' => some '"'
  | '\\' => some '\\'
  | '/' => some '/'
  | 'b' => some '\x08'
  | 'f' => some '\x0c'
  | 'n' => some '\n'
  | 'r' => some '\r'
  | 't' => some '\t'
  | _ => none

/-- The text goes wrong. -/
def Mode.fail : List Token × Mode := ([.bad], .failed)

/-- Takes a character between tokens. -/
def Mode.start (char : Char) : List Token × Mode :=
  if isBlank char then ([], .between)
  else match digit? char with
    | some 0 => ([], .number .zero (Number.addWhole {} 0))
    | some digit => ([], .number .whole (Number.addWhole {} digit))
    | none =>
      match char with
      | '[' => ([.openArray], .between)
      | ']' => ([.closeArray], .between)
      | '\x7b' => ([.openObject], .between)
      | '\x7d' => ([.closeObject], .between)
      | ',' => ([.comma], .between)
      | ':' => ([.colon], .between)
      | '"' => ([], .string {})
      | '-' => ([], .number .sign { negative := true })
      | 'n' => ([], .word ['u', 'l', 'l'] .null)
      | 't' => ([], .word ['r', 'u', 'e'] (.bool true))
      | 'f' => ([], .word ['a', 'l', 's', 'e'] (.bool false))
      | _ => Mode.fail

/-- Takes one character: the tokens it completes, and what the automaton is in then. -/
def Mode.step (mode : Mode) (char : Char) : List Token × Mode :=
  match mode with
  | .between => Mode.start char
  | .word [] token => ([token], .between)
  | .word (expected :: rest) token =>
    if char = expected then
      if rest.isEmpty then ([token], .between) else ([], .word rest token)
    else Mode.fail
  | .string draft =>
    if char = '"' then ([.string draft.value?], .between)
    else if char = '\\' then ([], .escape draft)
    else if char.toNat < 0x20 then Mode.fail
    else ([], .string (draft.push char))
  | .escape draft =>
    if char = 'u' then ([], .unit draft 4 0)
    else match unescape? char with
      | some char => ([], .string (draft.push char))
      | none => Mode.fail
  | .unit draft missing value =>
    match hexDigit? char with
    | none => Mode.fail
    | some digit =>
      let value := value * 16 + digit
      if missing ≤ 1 then ([], .string (draft.pushUnit value))
      else ([], .unit draft (missing - 1) value)
  | .number part taken =>
    match taken.step part char with
    | .more part taken => ([], .number part taken)
    | .ended =>
      let started := Mode.start char
      (.number taken :: started.1, started.2)
    | .wrong => Mode.fail
  | .failed => ([], .failed)

/-- The tokens that the end of the text completes. -/
def Mode.finish : Mode → List Token
  | .between | .failed => []
  | .number part taken => if part.mayEnd then [.number taken] else [.bad]
  | _ => [.bad]

/-- The automaton with the tokens emitted so far, last one first. -/
structure Lexer where
  /-- Tokens emitted. -/
  emitted : List Token := []
  /-- What it is in the middle of. -/
  mode : Mode := .between

/-- Takes one character. -/
def Lexer.step (lexer : Lexer) (char : Char) : Lexer :=
  let stepped := lexer.mode.step char
  ⟨stepped.1.reverse ++ lexer.emitted, stepped.2⟩

/-- The tokens of a text. -/
def tokens (text : List Char) : List Token :=
  let lexer := text.foldl Lexer.step {}
  lexer.emitted.reverse ++ lexer.mode.finish

end ImageConfig.Json
