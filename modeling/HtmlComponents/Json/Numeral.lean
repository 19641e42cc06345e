import HtmlComponents.Json.Basic

/-!
# Numbers in JSON text

A number keeps as many of its leading digits as 64 bits hold. With all digits kept and no point or
exponent it is whole; otherwise it is the kept number scaled by a power of ten in binary arithmetic.
-/

namespace HtmlComponents.Json

/-- A number taken apart: a sign, the digits before the point, those after it if there is a point,
and the exponent if there is one. -/
structure Numeral where
  negative : Bool
  whole : List Char
  fraction : Option (List Char)
  exponent : Option Int

/-- The largest number of 64 bits. -/
def wordMax : Nat := UInt64.size - 1

/-- Appends digits to a number as long as it fits into 64 bits; also gives the digits left over. -/
def keepDigits (n : Nat) : List Char → Nat × List Char
  | [] => (n, [])
  | c :: rest =>
    let next := 10 * n + (c.toNat - 48)
    if next ≤ wordMax then keepDigits next rest else (n, c :: rest)

/-- A power of ten that binary64 can hold. -/
def power (n : Nat) : Float := Float.ofScientific 1 false n

/-- Divides by a power of ten, in steps of `10 ^ 308`. -/
def scaleDown (x : Float) (places : Nat) : Float :=
  if places ≤ 308 then x / power places
  else if x == 0 then x
  else scaleDown (x / power 308) (places - 308)
termination_by places

/-- Multiplies a number by a power of ten; fails if the result is too large. -/
def scaled? (n : Nat) (places : Int) : Option Float :=
  let x := Float.ofNat n
  if places < 0 then some (scaleDown x places.natAbs)
  else if places ≤ 308 then
    let y := x * power places.toNat
    if y.isInf then none else some y
  else if n = 0 then some x
  else none

/-- The value of a numeral; `-0` and what lies below 64 bits are not whole. -/
def Numeral.value? (numeral : Numeral) : Option Number :=
  let (start, dropped) := keepDigits 0 numeral.whole
  let (kept, left) := keepDigits start (numeral.fraction.getD [])
  let used := (numeral.fraction.getD []).length - left.length
  if dropped.isEmpty && numeral.fraction.isNone && numeral.exponent.isNone then
    if !numeral.negative then some (.whole kept)
    else if kept = 0 ∨ kept > UInt64.size / 2 then some (.real (-(Float.ofNat kept)))
    else some (.whole (-(kept : Int)))
  else
    let places : Int := (dropped.length : Int) - used + numeral.exponent.getD 0
    (scaled? kept places).map fun x => .real (if numeral.negative then -x else x)

/-- Reads the digits of an exponent, after its mark. -/
def readExponent? (text : List Char) : Option (Int × List Char) :=
  let (negative, unsigned) :=
    match text with
    | '-' :: rest => (true, rest)
    | '+' :: rest => (false, rest)
    | rest => (false, rest)
  let digits := unsigned.takeWhile Char.isDigit
  let size : Nat := digits.foldl (fun n c => 10 * n + (c.toNat - 48)) 0
  if digits.isEmpty then none
  else some (if negative then -(size : Int) else size, unsigned.drop digits.length)

/-- Reads a numeral at the start of a text. The digits before the point have no leading zero, and a
point or an exponent mark has digits after it. -/
def Numeral.read? (text : List Char) : Option (Numeral × List Char) := do
  let (negative, unsigned) :=
    match text with
    | '-' :: rest => (true, rest)
    | rest => (false, rest)
  let whole := unsigned.takeWhile Char.isDigit
  if whole.isEmpty || (whole.length > 1 && whole.head? == some '0') then none
  let afterWhole := unsigned.drop whole.length
  let (fraction, afterFraction) ←
    match afterWhole with
    | '.' :: rest =>
      let digits := rest.takeWhile Char.isDigit
      if digits.isEmpty then none else some (some digits, rest.drop digits.length)
    | rest => some (none, rest)
  match afterFraction with
  | mark :: rest =>
    if mark = 'e' ∨ mark = 'E' then
      let (exponent, left) ← readExponent? rest
      some (⟨negative, whole, fraction, some exponent⟩, left)
    else some (⟨negative, whole, fraction, none⟩, afterFraction)
  | [] => some (⟨negative, whole, fraction, none⟩, [])

end HtmlComponents.Json
