/-!
# Balance of style texts

Strings, comments and braces of a style text. Braces inside strings and comments do not count; a
backslash inside a string takes away the meaning of the next character.
-/

namespace HtmlComponents.Style

/-- Where the reading of a style text stands. -/
inductive Place where
  | neutral
  /-- After a slash that may open a comment. -/
  | slash
  | string (quote : Char)
  /-- After a backslash in a string. -/
  | escape (quote : Char)
  /-- In a comment; `star` says that the last character was a star. -/
  | comment (star : Bool)
deriving DecidableEq

/-- The place and the number of open braces. -/
structure Position where
  place : Place
  depth : Nat
deriving DecidableEq

/-- A step in neutral text; there is none for a brace that closes nothing. -/
def stepNeutral? (depth : Nat) (c : Char) : Option Position :=
  if c = '"' ∨ c = '\'' then some ⟨.string c, depth⟩
  else if c = '/' then some ⟨.slash, depth⟩
  else if c = '\x7b' then some ⟨.neutral, depth + 1⟩
  else if c = '\x7d' then (if depth = 0 then none else some ⟨.neutral, depth - 1⟩)
  else some ⟨.neutral, depth⟩

/-- One character further. -/
def Position.step? (p : Position) (c : Char) : Option Position :=
  match p.place with
  | .neutral => stepNeutral? p.depth c
  | .slash => if c = '*' then some ⟨.comment false, p.depth⟩ else stepNeutral? p.depth c
  | .string quote =>
    if c = '\\' then some ⟨.escape quote, p.depth⟩
    else if c = quote then some ⟨.neutral, p.depth⟩
    else some p
  | .escape quote => some ⟨.string quote, p.depth⟩
  | .comment star =>
    if star && c == '/' then some ⟨.neutral, p.depth⟩ else some ⟨.comment (c == '*'), p.depth⟩

def startOfText : Position := ⟨.neutral, 0⟩

/-- The position after a text; none if a brace closes nothing on the way. -/
def scan? (text : List Char) : Option Position := text.foldlM Position.step? startOfText

/-- Every brace is closed and no string is open. A comment may be left open. -/
def isBalanced (text : List Char) : Bool :=
  match scan? text with
  | none => false
  | some p =>
    p.depth == 0 &&
      match p.place with
      | .string _ | .escape _ => false
      | _ => true

end HtmlComponents.Style
