import HtmlComponents.Route.Declaration
import HtmlComponents.Route.Pattern
import HtmlComponents.Route.Query

/-!
# Routers

Server actions with their routes, and the choice of the route for a request: the first one whose
method and pattern fit.
-/

namespace HtmlComponents.Route

/-- A server action as declared. The pattern is read when the table is compiled. -/
structure Spec (α : Type) where
  method : Method
  pattern : String
  handler : α
  /-- The element that the response replaces. -/
  target : Option String
  /-- How the response is put in. -/
  swap : Option String

namespace Spec

variable {α : Type}

def ofMethod (method : Method) (pattern : String) (handler : α) : Spec α :=
  ⟨method, pattern, handler, none, none⟩

def ofDeclaration (declaration : String) (handler : α) : Except Error (Spec α) :=
  (parseDeclaration declaration).map fun (method, pattern) => ofMethod method pattern handler

end Spec

/-- Declared routes by action. -/
abbrev Table (α : Type) := OrderedMap (Spec α)

/-- A route with its pattern. -/
structure Entry (α : Type) where
  action : String
  method : Method
  pattern : Pattern
  handler : α
  target : Option String
  swap : Option String

/-- Routes in the order in which they are tried. -/
structure Router (α : Type) where
  routes : List (Entry α)

/-- A route that fits a request, with what the request binds. -/
structure Match (α : Type) where
  route : Entry α
  parameters : Bindings
  query : OrderedMap String

namespace Router

variable {α : Type}

def empty : Router α := ⟨[]⟩

def compileEntry (action : String) (spec : Spec α) : Except Error (Entry α) :=
  (Pattern.parse spec.pattern).map fun pattern =>
    ⟨action, spec.method, pattern, spec.handler, spec.target, spec.swap⟩

/-- The routes of the entries of a table, up to the first error. -/
def compileEntries : List (String × Spec α) → Except Error (List (Entry α))
  | [] => .ok []
  | (action, spec) :: rest => do
    let route ← compileEntry action spec
    let routes ← compileEntries rest
    return route :: routes

/-- The router of a table, in its order. -/
def compile (table : Table α) : Except Error (Router α) :=
  (compileEntries table.entries).map Router.mk

/-- One router after another. -/
def append (router other : Router α) : Router α := ⟨router.routes ++ other.routes⟩

/-- The path of a request target, without query and fragment. -/
def pathOf (target : List Char) : List Char := Text.before '#' (Text.before '?' target)

/-- The query of a request target: what follows the first question mark, without a fragment. -/
def queryOf (target : List Char) : List Char := Text.before '#' (Text.after '?' target)

/-- The first route for a method and a path, with the parameters that the path binds. -/
def find? (method : Method) (path : String) : List (Entry α) → Option (Entry α × Bindings)
  | [] => none
  | route :: rest =>
    if route.method = method then
      match route.pattern.match? path with
      | some bindings => some (route, bindings)
      | none => find? method path rest
    else find? method path rest

/-- The route for a request, if there is one. -/
def dispatch (router : Router α) (method : Method) (target : String) : Option (Match α) :=
  (find? method (String.ofList (pathOf target.toList)) router.routes).map fun (route, bindings) =>
    ⟨route, bindings, parseQuery (String.ofList (queryOf target.toList))⟩

end Router

end HtmlComponents.Route
