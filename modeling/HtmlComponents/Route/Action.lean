import HtmlComponents.Route.Router

/-!
# Requests as handlers see them
-/

namespace HtmlComponents.Route

/-- What the handler of an action sees of a request. -/
structure ActionContext where
  method : Method
  /-- The path without query and fragment. -/
  path : String
  parameters : Bindings
  query : OrderedMap String
  /-- Decoded form fields. -/
  form : OrderedMap String

namespace ActionContext

def parameter? (context : ActionContext) (name : String) : Option String :=
  context.parameters.lookup name

/-- A parameter that the handler cannot do without. -/
def requireParameter (context : ActionContext) (name : String) : Except Error String :=
  match context.parameter? name with
  | some value => .ok value
  | none => .error (.invalidPattern context.path ("no parameter ':" ++ name ++ "' bound"))

def queryValue? (context : ActionContext) (name : String) : Option String :=
  context.query.get? name

def field? (context : ActionContext) (name : String) : Option String := context.form.get? name

end ActionContext

end HtmlComponents.Route
