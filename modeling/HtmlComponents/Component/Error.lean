import HtmlComponents.Property.Error
import HtmlComponents.Route.Error
import HtmlComponents.Style.Error

/-!
# Errors and warnings of components
-/

namespace HtmlComponents.Component

/-- Why a render function or a handler gave no markup. -/
inductive Failure where
  | route (cause : Route.Error)
  | style (cause : Style.Error)
  | failed (reason : String)
deriving DecidableEq

def Failure.message : Failure → String
  | route cause => cause.message
  | style cause => cause.message
  | failed reason => reason

/-- An error of a component, by name. -/
inductive Error where
  | unknownComponent (name : String)
  | schemaInference (component reason : String)
  | propertyType (component : String) (cause : Property.TypeError)
  | route (component : String) (cause : Route.Error)
  | style (component : String) (cause : Style.Error)
  | failed (component reason : String)
deriving DecidableEq

namespace Error

def component : Error → String
  | unknownComponent name => name
  | schemaInference name _ => name
  | propertyType name _ => name
  | route name _ => name
  | style name _ => name
  | failed name _ => name

/-- Whether the component is miswritten, as opposed to badly used. -/
def isConfiguration : Error → Bool
  | schemaInference .. => true
  | route .. => true
  | style .. => true
  | _ => false

def message : Error → String
  | unknownComponent name => "Unknown component: " ++ name
  | schemaInference name reason => "Schema inference failed for component " ++ name ++ ": " ++ reason
  | propertyType name cause => "Invalid attribute for component " ++ name ++ ": " ++ cause.message
  | route name cause => "Route error in component " ++ name ++ ": " ++ cause.message
  | style name cause => "Style error in component " ++ name ++ ": " ++ cause.message
  | failed name reason => "Component " ++ name ++ " failed to render: " ++ reason

/-- A failure of a component at a request. -/
def ofFailure (name : String) : Failure → Error
  | .route cause => route name cause
  | .style cause => style name cause
  | .failed reason => failed name reason

/-- A failure of a component while its schema is inferred. -/
def ofInference (name : String) : Failure → Error
  | .route cause => route name cause
  | .style cause => style name cause
  | .failed reason => schemaInference name reason

end Error

/-- A tag that was not expanded. -/
inductive Warning where
  /-- The component is being rendered already; the path leads from the outermost one to it. -/
  | cycle (component : String) (path : List String)
  /-- More components are being rendered than the limit allows. -/
  | depthLimit (component : String) (limit : Nat)
deriving DecidableEq

namespace Warning

/-- A path of components from the outside to the inside. -/
def pathText (path : List String) : String := " -> ".intercalate path

def component : Warning → String
  | cycle name _ => name
  | depthLimit name _ => name

def message : Warning → String
  | cycle name path => "cycle at component " ++ name ++ ": " ++ pathText path
  | depthLimit name limit =>
    "depth limit " ++ Decimal.natText limit ++ " reached at component " ++ name

/-- The comment that stands in the place of the tag. -/
def marker : Warning → String
  | cycle _ path => "<!-- sprig:cycle " ++ pathText path ++ " -->"
  | depthLimit name _ => "<!-- sprig:depth-limit " ++ name ++ " -->"

end Warning

/-- A name that is no kebab-case identifier. -/
structure InvalidName where
  name : String
deriving DecidableEq

def InvalidName.message (e : InvalidName) : String :=
  "Invalid component name '" ++ e.name ++ "': expected a kebab-case identifier"

end HtmlComponents.Component
