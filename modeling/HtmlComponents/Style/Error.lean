/-!
# Errors of styles
-/

namespace HtmlComponents.Style

inductive Error where
  /-- Two keys generate one class. -/
  | classCollision (className first second : String)
  | unbalancedBlock (key : String)
  | unknownKey (key : String)
deriving DecidableEq

def Error.message : Error → String
  | classCollision className first second =>
    "Style keys '" ++ first ++ "' and '" ++ second ++ "' both generate class '" ++ className ++ "'"
  | unbalancedBlock key => "Unbalanced braces in style '" ++ key ++ "'"
  | unknownKey key => "No style key '" ++ key ++ "' in class map"

end HtmlComponents.Style
