import HtmlComponents.Property.Basic
import HtmlComponents.Text.Quoted

/-!
# Messages of property errors
-/

namespace HtmlComponents.Property

def TypeError.message (e : TypeError) : String :=
  "property '" ++ e.property ++ "' expected " ++ e.expected.name ++ ", got " ++
    Text.Quoted.encode e.found

end HtmlComponents.Property
