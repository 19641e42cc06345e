import HtmlComponents.Component.Error
import HtmlComponents.Component.Reading
import HtmlComponents.Markup.Basic
import HtmlComponents.Route.Action
import HtmlComponents.Route.Client
import HtmlComponents.Style.Sheet

/-!
# Component definitions

What a component is written with, and what is derived from that once: its stylesheet, its router and
its property schema.
-/

namespace HtmlComponents.Component

open Property (Schema Value Values)

/-- Renders a component from its properties, the paths of its actions and its classes. -/
abbrev Render := Route.Api → Style.ClassMap → Reading (Except Failure Markup)

/-- Answers a request for an action. -/
abbrev Handler := Route.ActionContext → Except Failure Markup

/-- Where the typed values of a component come from. -/
inductive PropertySource where
  /-- From the schema that the render function is seen to read. -/
  | inferred
  | declared (schema : Schema)
  /-- From a function of its own. -/
  | transformed (transform : RawAttributes → Except Property.TypeError Values)

/-- A component as written. Without a render function it renders nothing. -/
structure Definition where
  name : String
  styles : Style.Table
  routes : Route.Table Handler
  render : Option Render
  properties : PropertySource

/-- What is derived from a definition. -/
structure Compiled where
  css : String
  classes : Style.ClassMap
  router : Route.Router Handler
  schema : Schema

def Compiled.api (compiled : Compiled) : Route.Api := compiled.router.api

namespace Definition

/-- The render function as a computation. -/
def rendering (definition : Definition) (api : Route.Api) (classes : Style.ClassMap) :
    Reading (Except Failure Markup) :=
  match definition.render with
  | some render => render api classes
  | none => .done (.ok Markup.empty)

/-- Calls the render function, if there is one, and uses what it gives in one of the modes of a computation. The
number of calls stands beside the result. -/
def call {α : Type} (definition : Definition) (api : Route.Api) (classes : Style.ClassMap)
    (mode : Reading (Except Failure Markup) → α) : α × Nat :=
  (mode (definition.rendering api classes), if definition.render.isSome then 1 else 0)

/-- The stylesheet and the router. -/
def prepare (definition : Definition) : Except Error (Style.Sheet × Route.Router Handler) :=
  match Style.compile definition.styles with
  | .error cause => .error (.style definition.name cause)
  | .ok sheet =>
    match Route.Router.compile definition.routes with
    | .error cause => .error (.route definition.name cause)
    | .ok router => .ok (sheet, router)

/-- The schema of the properties that rendering asks for when it is answered with defaults, and the calls of the
render function. -/
def inferSchema (definition : Definition) (api : Route.Api) (classes : Style.ClassMap) :
    Except Error Schema × Nat :=
  match definition.call api classes (·.record Schema.empty) with
  | ((.ok _, schema), calls) => (.ok schema, calls)
  | ((.error failure, _), calls) => (.error (.ofInference definition.name failure), calls)

def schema (definition : Definition) (api : Route.Api) (classes : Style.ClassMap) :
    Except Error Schema × Nat :=
  match definition.properties with
  | .inferred => definition.inferSchema api classes
  | .declared schema => (.ok schema, 0)
  | .transformed _ => (.ok Schema.empty, 0)

/-- Everything that is derived from a definition, and the calls of the render function that it takes. -/
def derive (definition : Definition) : Except Error Compiled × Nat :=
  match definition.prepare with
  | .error e => (.error e, 0)
  | .ok (sheet, router) =>
    let (schema, calls) := definition.schema router.api sheet.classes
    (schema.map fun schema => ⟨sheet.css, sheet.classes, router, schema⟩, calls)

def compile (definition : Definition) : Except Error Compiled := definition.derive.1

/-- The properties of a tag with given attributes. -/
def props (definition : Definition) (schema : Schema) (attributes : RawAttributes) :
    Except Error Props :=
  let values :=
    match definition.properties with
    | .transformed transform => transform attributes
    | _ => schema.parse attributes
  match values with
  | .ok values => .ok (Props.withAttributes values attributes)
  | .error cause => .error (.propertyType definition.name cause)

end Definition

end HtmlComponents.Component
