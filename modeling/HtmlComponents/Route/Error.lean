import HtmlComponents.Decimal.Natural

/-!
# Errors of routes
-/

namespace HtmlComponents.Route

inductive Error where
  | invalidDeclaration (declaration reason : String)
  | invalidPattern (pattern reason : String)
  | unsupportedMethod (method : String)
  | duplicateParameter (pattern parameter : String)
  /-- Fewer arguments than the path of an action has parameters. -/
  | arity (action : String) (expected got : Nat)
  | emptyArgument (action parameter : String)
  | unknownAction (action : String)
deriving DecidableEq

def Error.message : Error → String
  | invalidDeclaration declaration reason =>
    "Invalid route declaration '" ++ declaration ++ "': " ++ reason
  | invalidPattern pattern reason => "Invalid path pattern '" ++ pattern ++ "': " ++ reason
  | unsupportedMethod method => "Unsupported HTTP method: " ++ method
  | duplicateParameter pattern parameter =>
    "Duplicate parameter ':" ++ parameter ++ "' in pattern '" ++ pattern ++ "'"
  | arity action expected got =>
    "Action '" ++ action ++ "' needs " ++ Decimal.natText expected ++ " argument(s), got " ++ Decimal.natText got
  | emptyArgument action parameter =>
    "Action '" ++ action ++ "' got an empty argument for ':" ++ parameter ++ "'"
  | unknownAction action => "Unknown action: " ++ action

end HtmlComponents.Route
