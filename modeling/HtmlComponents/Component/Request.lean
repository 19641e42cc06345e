import HtmlComponents.Component.Dispatch

/-!
# Requests to a registry

What can be asked of a registry, as data, so that a history of a registry is a list.
-/

namespace HtmlComponents.Component

inductive Request where
  | register (definition : Definition)
  | compile (name : String)
  | compileAll
  | schema (name : String)
  | router
  /-- Renders with given options, or with those of the registry. -/
  | render (options : Option Options) (name : String) (attributes : RawAttributes)
  | expand (options : Options) (html : String)
  | dispatch (method : Route.Method) (target : String) (form : OrderedMap String)

inductive Response where
  | registered (result : Except InvalidName Unit)
  | compiled (result : Except Error Compiled)
  | compiledAll (result : Except Error Unit)
  | schema (result : Except Error Property.Schema)
  | router (result : Except Error (Route.Router Handler))
  | rendered (result : Except Error Output)
  | expanded (output : Output)
  | dispatched (result : Except Error (Option Output))

namespace Session

/-- Registers a component; an invalid name changes nothing. -/
def register (definition : Definition) : Session (Except InvalidName Unit) := fun registry =>
  match registry.register definition with
  | .ok changed => (.ok (), changed)
  | .error e => (.error e, registry)

/-- Does what is asked. -/
def perform : Request → Session Response
  | .register definition => .registered <$> register definition
  | .compile name => .compiled <$> compile name
  | .compileAll => do return .compiledAll ((← compileAll).map fun _ => ())
  | .schema name => .schema <$> schema name
  | .router => .router <$> router
  | .render options name attributes => do
    .rendered <$> render (options.getD (← get).options) name attributes
  | .expand options html => .expanded <$> expandHtml options html
  | .dispatch method target form => .dispatched <$> dispatch method target form

end Session

/-- The answers to requests one after another, and the registry after them. -/
def Registry.serve (registry : Registry) : List Request → List Response × Registry
  | [] => ([], registry)
  | request :: rest =>
    let (response, changed) := (Session.perform request).run registry
    let (responses, last) := changed.serve rest
    (response :: responses, last)

end HtmlComponents.Component
