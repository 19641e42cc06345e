import HtmlComponents.Component.Expansion

/-!
# Requests to actions

A request goes to the first component with a route for it. Components that do not compile have no
routes.
-/

namespace HtmlComponents.Component

open Route (ActionContext Method)

/-- The path of a request as its handler sees it: what comes before a query and a fragment. -/
def requestPath (target : List Char) : List Char :=
  target.takeWhile fun c => c != '?' && c != '#'

namespace Session

/-- The first component of a list with a route for a request. -/
def findRoute (method : Method) (target : String) :
    List String → Session (Option (String × Route.Match Handler))
  | [] => pure none
  | name :: rest => do
    match ← compile name with
    | .error _ => findRoute method target rest
    | .ok compiled =>
      match compiled.router.dispatch method target with
      | some found => return some (name, found)
      | none => findRoute method target rest

/-- Runs the handler for a request and expands the tags in its markup. Gives nothing if there is no
route. -/
def dispatch (method : Method) (target : String) (form : OrderedMap String) :
    Session (Except Error (Option Output)) := do
  match ← findRoute method target (← get).names with
  | none => return .ok none
  | some (name, found) =>
    let context : ActionContext :=
      { method
        path := String.ofList (requestPath target.toList)
        parameters := found.parameters
        query := found.query
        form }
    match found.route.handler context with
    | .error failure => return .error (.ofFailure name failure)
    | .ok markup =>
      let output ← expandHtml (← get).options markup.toHtml
      return .ok (some output)

end Session

end HtmlComponents.Component
