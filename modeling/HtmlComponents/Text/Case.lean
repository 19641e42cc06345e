import HtmlComponents.Text.Case.Table

/-!
# Letter case

Full case mapping of texts: one character may become several, and a sigma that ends a word has its
own lower case form.
-/

namespace HtmlComponents.Text.Case

/-- The character that a run of characters maps a code point to, if it is in the run. -/
def Shift.target? (shift : Shift) (n : Nat) : Option Nat :=
  if shift.first ≤ n ∧ n ≤ shift.last ∧ (n - shift.first) % shift.step = 0 then
    some ((n : Int) + shift.offset).toNat
  else none

/-- The mapped characters of `c` by two tables; a character in neither maps to itself. -/
def mapped (shifts : List Shift) (expansions : List (Nat × List Nat)) (c : Char) : List Char :=
  match shifts.findSome? (·.target? c.toNat) with
  | some n => [Char.ofNat n]
  | none =>
    match expansions.lookup c.toNat with
    | some ns => ns.map Char.ofNat
    | none => [c]

/-- The upper case form of a character. -/
def upperChar (c : Char) : List Char :=
  if c.toNat < 0x80 then [c.toUpper] else mapped upperShifts upperExpansions c

/-- The lower case form of a character by itself. -/
def lowerChar (c : Char) : List Char :=
  if c.toNat < 0x80 then [c.toLower] else mapped lowerShifts lowerExpansions c

def inRanges (ranges : List (Nat × Nat)) (c : Char) : Bool :=
  ranges.any fun range => range.1 ≤ c.toNat && c.toNat ≤ range.2

def isCased (c : Char) : Bool := inRanges casedRanges c

def isIgnorable (c : Char) : Bool := inRanges ignorableRanges c

/-- Whether the next character that case rules do not skip has case. -/
def meetsCased (text : List Char) : Bool :=
  match text.dropWhile isIgnorable with
  | c :: _ => isCased c
  | [] => false

def upper (text : List Char) : List Char := text.flatMap upperChar

/-- Lower case, given the text before in reverse. A capital sigma ends a word if a character with
case stands before it and none after it. -/
def lowerFrom (before : List Char) : List Char → List Char
  | [] => []
  | c :: rest =>
    let here :=
      if c = 'Σ' then (if meetsCased before && !meetsCased rest then ['ς'] else ['σ'])
      else lowerChar c
    here ++ lowerFrom (c :: before) rest

def lower (text : List Char) : List Char := lowerFrom [] text

end HtmlComponents.Text.Case
