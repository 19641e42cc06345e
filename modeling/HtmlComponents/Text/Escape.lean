/-!
# Escaping in HTML

The characters that would end a text or a quoted attribute value are written as named references.
-/

namespace HtmlComponents.Text

/-- The written form of a character in text. -/
def escapeTextChar (c : Char) : List Char :=
  match c with
  | '&' => ['&', 'a', 'm', 'p', ';']
  | '<' => ['&', 'l', 't', ';']
  | '>' => ['&', 'g', 't', ';']
  | c => [c]

/-- The written form of a character between double quotes. -/
def escapeAttributeChar (c : Char) : List Char :=
  match c with
  | '"' => ['&', 'q', 'u', 'o', 't', ';']
  | c => escapeTextChar c

/-- An attribute value, to be put between double quotes. -/
def escapeAttribute (text : String) : String :=
  String.ofList (text.toList.flatMap escapeAttributeChar)

end HtmlComponents.Text
