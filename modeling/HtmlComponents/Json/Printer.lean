import HtmlComponents.Decimal.Notation
import HtmlComponents.Json.Basic

/-!
# Printing of JSON

The compact form: no blank space, and escapes for quotes, backslashes and controls only.
-/

namespace HtmlComponents.Json

/-- Fractions are positional from `0.00001` to below `10 ^ 16`, and whole ones keep a zero after the
point. -/
def fraction : Decimal.Notation where
  positional := some (-5, 16)
  pointZero := true
  tie := .toEven

/-- Two hexadecimal digits in lower case. -/
def hexPair (n : Nat) : List Char :=
  [(n / 16).digitChar, (n % 16).digitChar]

def escapeChar (c : Char) : List Char :=
  match c with
  | '"' => ['\\', '"']
  | '\\' => ['\\', '\\']
  | '\x08' => ['\\', 'b']
  | '\x0c' => ['\\', 'f']
  | '\n' => ['\\', 'n']
  | '\r' => ['\\', 'r']
  | '\t' => ['\\', 't']
  | c => if c.toNat < 0x20 then ['\\', 'u', '0', '0'] ++ hexPair c.toNat else [c]

def quote (text : String) : List Char := '"' :: text.toList.flatMap escapeChar ++ ['"']

def Number.chars : Number → List Char
  | whole n => if n < 0 then '-' :: Nat.toDigits 10 n.natAbs else Nat.toDigits 10 n.natAbs
  | real x => if x.isFinite then (fraction.write x).toList else ['n', 'u', 'l', 'l']

mutual

def chars : Json → List Char
  | null => ['n', 'u', 'l', 'l']
  | bool true => ['t', 'r', 'u', 'e']
  | bool false => ['f', 'a', 'l', 's', 'e']
  | number n => n.chars
  | string s => quote s
  | array [] => ['[', ']']
  | array (item :: rest) => '[' :: (item.chars ++ itemsChars rest)
  | object [] => ['\x7b', '\x7d']
  | object (member :: rest) => '\x7b' :: (memberChars member ++ membersChars rest)

/-- The items after the first, and the end of the array. -/
def itemsChars : List Json → List Char
  | [] => [']']
  | item :: rest => ',' :: (item.chars ++ itemsChars rest)

def memberChars : String × Json → List Char
  | (name, value) => quote name ++ ':' :: value.chars

/-- The members after the first, and the end of the object. -/
def membersChars : List (String × Json) → List Char
  | [] => ['\x7d']
  | member :: rest => ',' :: (memberChars member ++ membersChars rest)

end

/-- The compact text of a value. -/
def print (value : Json) : String := String.ofList value.chars

end HtmlComponents.Json
