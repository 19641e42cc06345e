import HtmlComponents.Component.Registry
import HtmlComponents.Document.Splice
import HtmlComponents.Markup.Printer

/-!
# Expansion

Rendering a component and expanding the component tags in its HTML. A component is not entered again
while it is being rendered, so expansion comes to an end.
-/

namespace HtmlComponents.Component

open Document (Placed)

/-- The components that are being rendered, outermost first, and the registered ones that are
not. -/
structure Scope where
  active : List String
  idle : List String

namespace Scope

/-- Nothing is being rendered. -/
def outside (registry : Registry) : Scope := ⟨[], registry.names⟩

/-- A component begins to be rendered. -/
def enter (scope : Scope) (name : String) : Scope :=
  ⟨scope.active ++ [name], scope.idle.erase name⟩

theorem length_idle_enter_lt {scope : Scope} {name : String} (h : name ∈ scope.idle) :
    (scope.enter name).idle.length < scope.idle.length := by
  have hpos := List.length_pos_of_mem h
  simp only [enter, List.length_erase_of_mem h]
  omega

end Scope

/-- What became of a piece of HTML. -/
structure Outcome where
  html : List Char
  /-- The css of every component rendered, in the order of first rendering. -/
  styles : OrderedMap String
  errors : List Error
  warnings : List Warning

namespace Outcome

/-- A tag that is not expanded. -/
def guarded (options : Options) (warning : Warning) (source : List Char) : Outcome where
  html := if options.markers then warning.marker.toList else source
  styles := OrderedMap.empty
  errors := []
  warnings := [warning]

/-- A tag whose component failed is dropped. -/
def dropped (e : Error) : Outcome := ⟨[], OrderedMap.empty, [e], []⟩

/-- The outcome of the HTML of a component, as the outcome of the component. -/
def styled (name css : String) (inner : Outcome) : Outcome :=
  { inner with styles := (OrderedMap.empty.insert name css).union inner.styles }

/-- The outcome of a document from the outcomes of tags in it. -/
def spliced (document : Document) (tags : List (Placed × Outcome)) : Outcome where
  html := document.splice (tags.map fun tag => (tag.1.id, tag.2.html))
  styles := tags.foldl (fun styles tag => styles.union tag.2.styles) OrderedMap.empty
  errors := tags.flatMap fun tag => tag.2.errors
  warnings := tags.flatMap fun tag => tag.2.warnings

end Outcome

namespace Session

/-- What becomes of the use of a registered component with given attributes. `source` is the text that
uses it, and `inner` expands the HTML that a component renders. -/
def expandUse (options : Options) (scope : Scope) (name : String) (attributes : RawAttributes)
    (source : List Char)
    (inner : (name : String) → name ∈ scope.idle → List Char → Session Outcome) :
    Session Outcome := do
  if h : name ∈ scope.idle then
    if scope.active.length > options.maxDepth then
      return .guarded options (.depthLimit name options.maxDepth) source
    else
      match ← renderTag name attributes with
      | .error e => return .dropped e
      | .ok (markup, css) => return .styled name css (← inner name h markup.chars)
  else
    return .guarded options (.cycle name (scope.active ++ [name])) source

/-- What becomes of the tag of a registered component. -/
def expandTag (options : Options) (scope : Scope) (tag : StartTag) (source : List Char)
    (inner : (name : String) → name ∈ scope.idle → List Char → Session Outcome) :
    Session Outcome :=
  expandUse options scope tag.localName tag.rawAttributes source inner

/-- Expands the outermost tags of registered components in HTML, in document order. -/
def expand (options : Options) (scope : Scope) (html : List Char) : Session Outcome := do
  let registry ← get
  let document := Document.ofChars html
  let tags := document.outermost fun tag => registry.contains tag.localName
  let outcomes ← tags.mapM fun (tag, placed) => do
    let outcome ← expandTag options scope tag placed.node.chars fun name _h html =>
      expand options (scope.enter name) html
    return (placed, outcome)
  return .spliced document outcomes
termination_by scope.idle.length
decreasing_by exact Scope.length_idle_enter_lt _h

end Session

/-- The result of a render call. -/
structure Output where
  html : String
  css : String
  errors : List Error
  warnings : List Warning
deriving DecidableEq

namespace Output

/-- The css of an output is that of its components, without empty ones. -/
def ofOutcome (outcome : Outcome) : Output where
  html := String.ofList outcome.html
  css := "\n".intercalate (outcome.styles.values.filter fun css => !css.isEmpty)
  errors := outcome.errors
  warnings := outcome.warnings

/-- No tag was dropped or left. -/
def isComplete (output : Output) : Bool := output.errors.isEmpty && output.warnings.isEmpty

/-- The css in a style element, if there is any. -/
def styleTag (output : Output) : String :=
  if output.css.isEmpty then "" else "<style>" ++ output.css ++ "</style>"

end Output

namespace Session

/-- Renders a component. An error of the component itself is the result; errors of components inside
are collected. -/
def render (options : Options) (name : String) (attributes : RawAttributes) :
    Session (Except Error Output) := do
  let scope := Scope.outside (← get)
  match ← renderTag name attributes with
  | .error e => return .error e
  | .ok (markup, css) =>
    let inner ← expand options (scope.enter name) markup.chars
    return .ok (.ofOutcome (.styled name css inner))

/-- Expands component tags in any HTML. -/
def expandHtml (options : Options) (html : String) : Session Output := do
  let outcome ← expand options (Scope.outside (← get)) html.toList
  return .ofOutcome outcome

end Session

end HtmlComponents.Component
