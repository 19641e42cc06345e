import HtmlComponents.Route.Router

/-!
# Client attributes

The attributes that make an element call an action, and the map from actions to their paths.
-/

namespace HtmlComponents.Route

/-- The attributes of an element that calls an action, in the order in which they are written. -/
abbrev ClientAttributes := OrderedMap String

/-- What is needed to call an action. -/
structure Endpoint where
  method : Method
  pattern : Pattern
  target : Option String
  swap : Option String

def Endpoint.ofEntry {α : Type} (route : Entry α) : Endpoint :=
  ⟨route.method, route.pattern, route.target, route.swap⟩

/-- Endpoints by action. -/
structure Api where
  endpoints : OrderedMap Endpoint

/-- The endpoints of a router. Of several routes for an action the first counts. -/
def Router.api {α : Type} (router : Router α) : Api :=
  ⟨OrderedMap.ofListFirst (router.routes.map fun route => (route.action, Endpoint.ofEntry route))⟩

namespace Endpoint

/-- The first parameter whose argument is empty. -/
def emptyParameter? : List String → List String → Option String
  | parameter :: parameters, argument :: arguments =>
    if argument.isEmpty then some parameter else emptyParameter? parameters arguments
  | _, _ => none

/-- The path of an action with arguments in place of the parameters. Arguments beyond the parameters
are ignored; an empty one would make a path that no route matches. -/
def path (endpoint : Endpoint) (action : String) (arguments : List String) : Except Error String :=
  let expected := endpoint.pattern.parameterCount
  if arguments.length < expected then .error (.arity action expected arguments.length)
  else
    match emptyParameter? endpoint.pattern.parameters arguments with
    | some parameter => .error (.emptyArgument action parameter)
    | none => .ok (endpoint.pattern.resolve arguments)

end Endpoint

namespace Api

def empty : Api := ⟨OrderedMap.empty⟩

def contains (api : Api) (action : String) : Bool := api.endpoints.contains action

def actions (api : Api) : List String := api.endpoints.keys

def method? (api : Api) (action : String) : Option Method :=
  (api.endpoints.get? action).map Endpoint.method

def endpoint (api : Api) (action : String) : Except Error Endpoint :=
  match api.endpoints.get? action with
  | some endpoint => .ok endpoint
  | none => .error (.unknownAction action)

/-- The path of an action with arguments. -/
def path (api : Api) (action : String) (arguments : List String) : Except Error String := do
  (← api.endpoint action).path action arguments

/-- The attributes that call an action with arguments. -/
def call (api : Api) (action : String) (arguments : List String) :
    Except Error ClientAttributes := do
  let endpoint ← api.endpoint action
  let path ← endpoint.path action arguments
  let pairs := [(endpoint.method.clientAttribute, path)] ++
    (endpoint.target.map (("hx-target", ·))).toList ++ (endpoint.swap.map (("hx-swap", ·))).toList
  return OrderedMap.ofList pairs

end Api

end HtmlComponents.Route
