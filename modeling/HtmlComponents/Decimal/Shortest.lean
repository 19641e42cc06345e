/-!
# Shortest decimals

The decimal with the fewest digits that reads back as a given binary number, and of those the
nearest. All arithmetic is exact.
-/

namespace HtmlComponents.Decimal

/-- The number `mantissa * 2 ^ exponent`, as a binary64 value holds it. -/
structure Binary where
  mantissa : Nat
  exponent : Int
  /-- The value below is half as far away as the value above. -/
  narrowBelow : Bool

/-- The magnitude of a finite value, from its bits. -/
def Binary.ofBits (bits : UInt64) : Binary :=
  let e := ((bits >>> 52) &&& 0x7FF).toNat
  let f := (bits &&& 0xFFFFFFFFFFFFF).toNat
  if e = 0 then ⟨f, -1074, false⟩ else ⟨Nat.pow 2 52 + f, (e : Int) - 1075, f = 0 ∧ e > 1⟩

/-- The number `digits * 10 ^ scale`. -/
structure Digits where
  digits : Nat
  scale : Int
deriving DecidableEq

/-- Which of two equally near decimals of one length is chosen. -/
inductive Tie where
  | toEven
  | up
deriving DecidableEq

/-- Compares `a * 10 ^ i` with `n * 2 ^ j`. -/
def compareScaled (a : Nat) (i : Int) (n : Nat) (j : Int) : Ordering :=
  compare (a * Nat.pow 10 i.toNat * Nat.pow 2 (-j).toNat)
    (n * Nat.pow 2 j.toNat * Nat.pow 10 (-i).toNat)

/-- Whether a decimal lies among the numbers that round to `x`: halfway to each neighbour, the ends
included if the mantissa is even. -/
def Binary.readsBack (x : Binary) (d : Digits) : Bool :=
  let low := if x.narrowBelow then 4 * x.mantissa - 1 else 4 * x.mantissa - 2
  let high := 4 * x.mantissa + 2
  let ends := x.mantissa % 2 == 0
  let toLow := compareScaled d.digits d.scale low (x.exponent - 2)
  let toHigh := compareScaled d.digits d.scale high (x.exponent - 2)
  (toLow == .gt || (ends && toLow == .eq)) && (toHigh == .lt || (ends && toHigh == .eq))

/-- The largest multiple of `10 ^ scale` that is not above `x`, in units of `10 ^ scale`. -/
def Binary.floorAt (x : Binary) (scale : Int) : Nat :=
  (x.mantissa * Nat.pow 2 x.exponent.toNat * Nat.pow 10 (-scale).toNat) /
    (Nat.pow 2 (-x.exponent).toNat * Nat.pow 10 scale.toNat)

/-- The number of digits of `x` before the point; negative for the zeros after it. The estimate from
the binary length is at most one too low. -/
def Binary.magnitude (x : Binary) : Int :=
  let estimate := ((Nat.log2 x.mantissa : Int) + x.exponent) * 30103 / 100000
  let reaches (k : Int) : Bool := compareScaled 1 k x.mantissa x.exponent != .gt
  if reaches (estimate + 1) then estimate + 2
  else if reaches estimate then estimate + 1
  else estimate

/-- The nearer of a decimal and the next one of the same scale, as far as they read back. -/
def Binary.nearest? (x : Binary) (tie : Tie) (scale : Int) : Option Digits :=
  let below : Digits := ⟨x.floorAt scale, scale⟩
  let above : Digits := ⟨x.floorAt scale + 1, scale⟩
  match x.readsBack below, x.readsBack above with
  | false, false => none
  | true, false => some below
  | false, true => some above
  | true, true =>
    match compareScaled (2 * below.digits + 1) scale (2 * x.mantissa) x.exponent with
    | .gt => some below
    | .lt => some above
    | .eq =>
      match tie with
      | .up => some above
      | .toEven => some (if below.digits % 2 = 0 then below else above)

/-- Tries one digit, two digits and so on, up to seventeen, which always suffice. -/
def Binary.shortest (x : Binary) (tie : Tie) : Digits :=
  ((List.range 17).findSome? fun (n : Nat) => x.nearest? tie (x.magnitude - (n + 1))).getD
    ⟨x.mantissa * Nat.pow 2 x.exponent.toNat * Nat.pow 5 (-x.exponent).toNat, min x.exponent 0⟩

/-- Moves the zeros at the end of the digits into the scale. -/
def Digits.stripped (d : Digits) : Digits :=
  let zeros := ((Nat.toDigits 10 d.digits).reverse.takeWhile (· == '0')).length
  if d.digits = 0 then ⟨0, 0⟩ else ⟨d.digits / Nat.pow 10 zeros, d.scale + zeros⟩

end HtmlComponents.Decimal
