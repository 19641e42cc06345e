import HtmlComponents.Route.Method
import HtmlComponents.Text.Blank

/-!
# Route declarations

A route is declared by a method and a path with blank space between them.
-/

namespace HtmlComponents.Route

/-- The word of letters at the start of a text, and what follows the gap after it; there have to be
both. -/
def splitDeclaration? (text : List Char) : Option (List Char × List Char) :=
  let word := text.takeWhile Char.isAlpha
  let rest := text.dropWhile Char.isAlpha
  match rest with
  | c :: _ => if !word.isEmpty && Text.isGap c then some (word, rest.dropWhile Text.isGap) else none
  | [] => none

/-- The method and the path pattern of a declaration. -/
def parseDeclaration (declaration : String) : Except Error (Method × String) :=
  match splitDeclaration? (Text.trimChars declaration.toList) with
  | none => .error (.invalidDeclaration declaration "expected \"METHOD /path\"")
  | some (word, rest) =>
    let path := Text.trimChars rest
    if path.isEmpty || path.any Text.isBlank then
      .error (.invalidDeclaration declaration "expected a single path after the method")
    else (Method.parse (String.ofList word)).map fun method => (method, String.ofList path)

end HtmlComponents.Route
