import ImageConfig.Text.Unprintable
import ImageConfig.Text.GraphemeExtend

/-!
# Quoted text in messages

Messages show a string between quotation marks such that every character of it can be told. The
quotation mark, the backslash, the line breaks, the tab and the null character are written with a
backslash; characters that could not be seen, or that would be seen as part of another one, are
written by their code points; every other character stands for itself.
-/

namespace ImageConfig.Text

/-- A character as it is shown in a message. -/
def quotedChar (char : Char) : List Char :=
  match char with
  | '\x00' => ['\\', '0']
  | '\t' => ['\\', 't']
  | '\r' => ['\\', 'r']
  | '\n' => ['\\', 'n']
  | '\\' => ['\\', '\\']
  | '"' => ['\\', '"']
  | char =>
    if extendsGrapheme char || isUnprintable char then
      ['\\', 'u', '\x7b'] ++ Nat.toDigits 16 char.toNat ++ ['\x7d']
    else [char]

/-- A string as it is shown in a message. -/
def quoted (string : String) : String :=
  String.ofList ('"' :: string.toList.flatMap quotedChar ++ ['"'])

end ImageConfig.Text
