import HtmlComponents.Markup.Basic
import HtmlComponents.Text.Escape

/-!
# Writing of markup as HTML
-/

namespace HtmlComponents

/-- An attribute with a blank before it. -/
def attributeChars (name : String) (value : Option String) : List Char :=
  match value with
  | some value =>
    ' ' :: name.toList ++ ['=', '"'] ++ value.toList.flatMap Text.escapeAttributeChar ++ ['"']
  | none => ' ' :: name.toList

/-- The start tag of an element. -/
def Opening.chars (opening : Opening) : List Char :=
  '<' :: opening.tag.toList ++
    opening.attributes.entries.flatMap (fun entry => attributeChars entry.1 entry.2) ++
    (if opening.selfClosing then [' ', '/', '>'] else ['>'])

/-- Whether an element ends with its start tag. -/
def Opening.isChildless (opening : Opening) : Bool := opening.selfClosing || isVoid opening.tag

def endTagChars (tag : String) : List Char := '<' :: '/' :: tag.toList ++ ['>']

namespace Markup

mutual

/-- The HTML of a node. -/
def chars : Markup → List Char
  | text s => s.toList.flatMap Text.escapeTextChar
  | raw html => html.toList
  | fragment children => charsList children
  | element opening children =>
    if opening.isChildless then opening.chars
    else opening.chars ++ charsList children ++ endTagChars opening.tag

def charsList : List Markup → List Char
  | [] => []
  | node :: rest => chars node ++ charsList rest

end

/-- The HTML of a node. -/
def toHtml (markup : Markup) : String := String.ofList markup.chars

theorem charsList_append (a b : List Markup) :
    charsList (a ++ b) = charsList a ++ charsList b := by
  induction a with
  | nil => simp [charsList]
  | cons node rest ih => simp [charsList, ih]

end Markup

end HtmlComponents
