import HtmlComponents.Text.Pieces
import HtmlComponents.Text.Words

/-!
# Naming conventions

Style keys and properties are camel case; class names, attributes and component names are kebab
case.
-/

namespace HtmlComponents

/-- The class that a style key generates: its words in kebab case. -/
def className (key : String) : String := Text.Words.kebab key

/-- The attribute that sets a property. -/
def attributeName (property : String) : String := Text.Words.kebab property

/-- The property that an attribute sets. A name without a hyphen stays as it is. -/
def propertyName (attributeName : String) : String :=
  if '-' ∈ attributeName.toList then Text.Words.camel attributeName else attributeName

/-- Component names are kebab-case identifiers: a small letter, then small letters and digits, with
single hyphens between the parts. -/
def isComponentName (name : String) : Bool :=
  (match name.toList with
    | c :: _ => c.isLower
    | [] => false) &&
  (Text.pieces '-' name.toList).all fun part =>
    !part.isEmpty && part.all fun c => c.isLower || c.isDigit

end HtmlComponents
