/-!
# Percent encoding

A text becomes the bytes of its UTF-8 form; a byte that is not an unreserved character is written as
a percent sign and two hexadecimal digits.
-/

namespace HtmlComponents.Text.Percent

/-- Letters, digits, hyphen, full stop, underscore and tilde stand for themselves. -/
def isUnreserved (b : UInt8) : Bool :=
  let c := Char.ofNat b.toNat
  c.isAlphanum || c == '-' || c == '.' || c == '_' || c == '~'

/-- The digits `0` to `9` and `A` to `F`. -/
def hexDigit (n : Nat) : Char :=
  if n < 10 then Char.ofNat (48 + n) else Char.ofNat (55 + n)

def encodeByte (b : UInt8) : List Char :=
  if isUnreserved b then [Char.ofNat b.toNat]
  else ['%', hexDigit (b.toNat / 16), hexDigit (b.toNat % 16)]

/-- The percent-encoded form of a text. -/
def encode (text : String) : String :=
  String.ofList (text.toList.flatMap fun c => (String.utf8EncodeChar c).flatMap encodeByte)

/-- The value of a hexadecimal digit in either case. -/
def hexValue? (b : UInt8) : Option UInt8 :=
  if 48 ≤ b && b ≤ 57 then some (b - 48)
  else if 65 ≤ b && b ≤ 70 then some (b - 55)
  else if 97 ≤ b && b ≤ 102 then some (b - 87)
  else none

/-- Puts back the bytes of complete escapes; a percent sign without two digits stays. -/
def decodeBytes : List UInt8 → List UInt8
  | [] => []
  | b :: rest =>
    if b = 37 then
      match rest with
      | high :: low :: tail =>
        match hexValue? high, hexValue? low with
        | some h, some l => (16 * h + l) :: decodeBytes tail
        | _, _ => b :: decodeBytes (high :: low :: tail)
      | short => b :: short
    else b :: decodeBytes rest

/-- The text that a percent-encoded form stands for, if its bytes are UTF-8. -/
def decode? (text : String) : Option String :=
  String.fromUTF8? (decodeBytes (text.toList.flatMap String.utf8EncodeChar)).toByteArray

/-- The decoded text, or the text as written where the decoded bytes are not UTF-8. -/
def decode (text : String) : String := (decode? text).getD text

end HtmlComponents.Text.Percent
