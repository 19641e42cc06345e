import HtmlComponents.Decimal.Shortest

/-!
# Decimal notation

How the digits of a number are laid out: where positional notation ends, and what an exponent looks
like.
-/

namespace HtmlComponents.Decimal

/-- The decisions of a notation. -/
structure Notation where
  /-- The exponents of the leading digit, from the first to before the second, for which the number
  is written without an exponent; `none` for all. -/
  positional : Option (Int × Int)
  /-- Whole numbers end in `.0`. -/
  pointZero : Bool
  /-- The choice between two equally near shortest decimals. -/
  tie : Tie

/-- Digits with the point after the first `whole` of them; `whole` may lie outside the digits. -/
def pointed (form : Notation) (digits : List Char) (whole : Int) : List Char :=
  if whole ≤ 0 then ['0', '.'] ++ List.replicate (-whole).toNat '0' ++ digits
  else if digits.length ≤ whole.toNat then
    digits ++ List.replicate (whole.toNat - digits.length) '0' ++
      (if form.pointZero then ['.', '0'] else [])
  else digits.take whole.toNat ++ ['.'] ++ digits.drop whole.toNat

/-- Digits with the point after the first, and an exponent with its sign. -/
def scientific (digits : List Char) (exponent : Int) : List Char :=
  digits.take 1 ++ (if digits.length ≤ 1 then [] else '.' :: digits.drop 1) ++
    ['e', if exponent < 0 then '-' else '+'] ++ Nat.toDigits 10 exponent.natAbs

/-- A number without its sign. -/
def Notation.layOut (form : Notation) (d : Digits) : List Char :=
  let digits := Nat.toDigits 10 d.digits
  let whole := d.scale + digits.length
  match form.positional with
  | none => pointed form digits whole
  | some (first, last) =>
    if d.digits = 0 ∨ (first ≤ whole - 1 ∧ whole - 1 < last) then pointed form digits whole
    else scientific digits (whole - 1)

/-- The text of a number; the shortest that reads back, for a finite one. -/
def Notation.write (form : Notation) (x : Float) : String :=
  let bits := x.toBits
  let sign := if bits >>> 63 = 1 then ['-'] else []
  if x.isNaN then "NaN"
  else if x.isInf then String.ofList (sign ++ ['i', 'n', 'f'])
  else
    let digits := ((Binary.ofBits bits).shortest form.tie).stripped
    String.ofList (sign ++ form.layOut digits)

end HtmlComponents.Decimal
