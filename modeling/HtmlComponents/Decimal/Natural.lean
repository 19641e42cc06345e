/-!
# Natural numbers as text
-/

namespace HtmlComponents.Decimal

/-- The decimal digits of a natural number. -/
def natText (n : Nat) : String := String.ofList (Nat.toDigits 10 n)

end HtmlComponents.Decimal
