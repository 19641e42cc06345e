import HtmlComponents.Naming
import HtmlComponents.Style.Balance
import HtmlComponents.Text.Blank

/-!
# Style rules

An entry of a style table is a block of declarations, with or without braces, or a full rule with a
selector of its own.
-/

namespace HtmlComponents.Style

def isClassStart (c : Char) : Bool := c.isAlpha || c == '_' || c == '-'

def isClassChar (c : Char) : Bool := c.isAlphanum || c == '_' || c == '-'

/-- The first class that a text names: after a full stop, a letter, underscore or hyphen and what
belongs to the name. -/
def firstClass? : List Char → Option (List Char)
  | [] => none
  | c :: rest =>
    if c = '.' then
      match rest with
      | d :: _ => if isClassStart d then some (rest.takeWhile isClassChar) else firstClass? rest
      | [] => none
    else firstClass? rest

/-- The part of a rule where its class is sought: the selector, or all of an at-rule, which has its
selectors inside. -/
def classScope (rule : List Char) : List Char :=
  match rule with
  | '@' :: _ => rule
  | _ => Text.before '\x7b' rule

/-- The first class in the selector of a rule. -/
def leadingClass? (rule : String) : Option String :=
  (firstClass? (classScope rule.toList)).map String.ofList

/-- The declarations of a block without a selector; none for a full rule. -/
def declarations? (text : List Char) : Option (List Char) :=
  if '\x7b' ∉ text then some text
  else
    match text with
    | '\x7b' :: rest =>
      if rest.getLast? = some '\x7d' ∧ isBalanced rest.dropLast then
        some (Text.trimChars rest.dropLast)
      else none
    | _ => none

/-- A class selector around declarations. -/
def wrapped (name : String) (declarations : List Char) : String :=
  if declarations.isEmpty then "." ++ name ++ " \x7b\x7d"
  else "." ++ name ++ " \x7b " ++ String.ofList declarations ++ " \x7d"

/-- An entry as the stylesheet has it. -/
structure Rule where
  className : String
  css : String
  /-- The class comes from the key. -/
  isGenerated : Bool

/-- The rule of an entry, given its key and its text without blank space at the ends. -/
def Rule.ofEntry (key : String) (text : List Char) : Rule :=
  match declarations? text with
  | some declarations =>
    ⟨HtmlComponents.className key, wrapped (HtmlComponents.className key) declarations, true⟩
  | none =>
    ⟨(leadingClass? (String.ofList text)).getD (HtmlComponents.className key),
      String.ofList text, false⟩

end HtmlComponents.Style
