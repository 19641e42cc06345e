import HtmlComponents.Text.Reference.Table

/-!
# Character references

Reading of `&name;`, `&#digits;` and `&#xdigits;`. A reference needs its semicolon; anything else
that starts with an ampersand is text.
-/

namespace HtmlComponents.Text.Reference

/-- The characters between the ampersand and the semicolon of a reference. -/
def isBody (c : Char) : Bool := c.isAlphanum || c == '#'

/-- The value of a digit below `base`. -/
def digit? (base : Nat) (c : Char) : Option Nat :=
  let value? :=
    if c.isDigit then some (c.toNat - 48)
    else if 'a' ≤ c && c ≤ 'f' then some (c.toNat - 87)
    else if 'A' ≤ c && c ≤ 'F' then some (c.toNat - 55)
    else none
  value?.filter (· < base)

/-- The number that digits write; there has to be at least one. -/
def number? (base : Nat) (digits : List Char) : Option Nat :=
  if digits.isEmpty then none
  else digits.foldlM (fun n c => (digit? base c).map (base * n + ·)) 0

/-- The controls before the space, tab, line feed, form feed and carriage return apart, cannot be
referred to. -/
def isReferable (n : Nat) : Bool :=
  n == 9 || n == 10 || n == 12 || n == 13 || 32 ≤ n

/-- The character with a given code point, if a reference can stand for it. -/
def numbered? (n : Nat) : Option Char :=
  if n.isValidChar ∧ isReferable n then some (Char.ofNat n) else none

/-- The character with a given name. The four that escaping writes come first. -/
def named? (name : List Char) : Option Char :=
  match name with
  | ['a', 'm', 'p'] => some '&'
  | ['l', 't'] => some '<'
  | ['g', 't'] => some '>'
  | ['q', 'u', 'o', 't'] => some '"'
  | name => (namedCharacters.lookup (String.ofList name)).map Char.ofNat

/-- The character that the body of a reference stands for. -/
def character? : List Char → Option Char
  | '#' :: 'x' :: digits => (number? 16 digits).bind numbered?
  | '#' :: 'X' :: digits => (number? 16 digits).bind numbered?
  | '#' :: digits => (number? 10 digits).bind numbered?
  | name => named? name

/-- Reads a reference after its ampersand: its character, and how many characters it takes with its
semicolon. -/
def read? (text : List Char) : Option (Char × Nat) :=
  let body := text.takeWhile isBody
  match text.drop body.length with
  | ';' :: _ => (character? body).map (·, body.length + 1)
  | _ => none

/-- A text with its references replaced by the characters that they stand for. -/
def decodeChars : List Char → List Char
  | [] => []
  | c :: rest =>
    if c = '&' then
      match read? rest with
      | some (referred, length) => referred :: decodeChars (rest.drop length)
      | none => c :: decodeChars rest
    else c :: decodeChars rest
termination_by text => text.length
decreasing_by all_goals (simp only [List.length_drop, List.length_cons]; omega)

/-- A text with its references replaced by the characters that they stand for. -/
def decode (text : String) : String := String.ofList (decodeChars text.toList)

end HtmlComponents.Text.Reference
