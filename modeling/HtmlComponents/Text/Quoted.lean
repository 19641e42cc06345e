import HtmlComponents.Text.Quoted.Table

/-!
# Quoted texts

A text between double quotes for a message: quotes, backslashes and what would not show are written
as escapes.
-/

namespace HtmlComponents.Text.Quoted

/-- Whether a character above ASCII, or a control, is written by its number. -/
def isHidden (c : Char) : Bool :=
  let n := c.toNat
  if n < 0x7F then n < 0x20
  else (hiddenRanges ++ markRanges).any fun range => range.1 ≤ n && n ≤ range.2

/-- The number of a character in lower case hexadecimal digits, in braces. -/
def numbered (c : Char) : List Char :=
  ['\\', 'u', '\x7b'] ++ Nat.toDigits 16 c.toNat ++ ['\x7d']

def encodeChar (c : Char) : List Char :=
  match c with
  | '\x00' => ['\\', '0']
  | '\t' => ['\\', 't']
  | '\n' => ['\\', 'n']
  | '\r' => ['\\', 'r']
  | '"' => ['\\', '"']
  | '\\' => ['\\', '\\']
  | c => if isHidden c then numbered c else [c]

/-- A text in double quotes. -/
def encode (text : String) : String :=
  String.ofList ('"' :: text.toList.flatMap encodeChar ++ ['"'])

end HtmlComponents.Text.Quoted
