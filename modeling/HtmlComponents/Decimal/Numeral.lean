import HtmlComponents.Text.Blank

/-!
# Numerals

Reading of a number from text: an optional sign, digits with an optional point, and an optional
exponent. The value is the binary number nearest to the decimal.
-/

namespace HtmlComponents.Decimal

/-- A numeral taken apart: `digits * 10 ^ scale`, with a sign. -/
structure Numeral where
  negative : Bool
  digits : Nat
  scale : Int
deriving DecidableEq

/-- The number that decimal digits write. -/
def natOfDigits (digits : List Char) : Nat :=
  digits.foldl (fun n c => 10 * n + (c.toNat - 48)) 0

/-- A sign, if there is one, and what follows it. -/
def takeSign : List Char → Bool × List Char
  | '-' :: rest => (true, rest)
  | '+' :: rest => (false, rest)
  | text => (false, text)

/-- The value of an exponent part; empty text has the exponent zero. -/
def exponent? : List Char → Option Int
  | [] => some 0
  | mark :: rest =>
    if mark = 'e' ∨ mark = 'E' then
      let (negative, digits) := takeSign rest
      if digits.isEmpty || !digits.all Char.isDigit then none
      else some (if negative then -(natOfDigits digits : Int) else natOfDigits digits)
    else none

/-- Reads a whole text as a numeral. There is a digit before or after the point. -/
def Numeral.ofChars? (text : List Char) : Option Numeral :=
  let (negative, unsigned) := takeSign text
  let whole := unsigned.takeWhile Char.isDigit
  let afterWhole := unsigned.drop whole.length
  let fraction :=
    match afterWhole with
    | '.' :: rest => rest.takeWhile Char.isDigit
    | _ => []
  let afterFraction :=
    match afterWhole with
    | '.' :: rest => rest.drop fraction.length
    | rest => rest
  if whole.isEmpty && fraction.isEmpty then none
  else (exponent? afterFraction).map fun e =>
    ⟨negative, natOfDigits (whole ++ fraction), e - fraction.length⟩

/-- The nearest binary number; infinite if the numeral is too large. -/
def Numeral.toFloat (n : Numeral) : Float :=
  let magnitude := Float.ofScientific n.digits (n.scale < 0) n.scale.natAbs
  if n.negative then -magnitude else magnitude

/-- The number that an attribute text writes: a numeral with blank space around it, of finite
value. -/
def parse? (text : String) : Option Float :=
  (Numeral.ofChars? (Text.trimChars text.toList)).bind fun numeral =>
    if numeral.toFloat.isFinite then some numeral.toFloat else none

end HtmlComponents.Decimal
