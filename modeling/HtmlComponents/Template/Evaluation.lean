import HtmlComponents.Component.Definition
import HtmlComponents.Template.Basic

/-!
# Evaluation of templates

Expressions are evaluated from left to right; the first failure ends the evaluation.
-/

namespace HtmlComponents.Template

open Component (Failure Handler Props Reading Render)
open Property (Value)

/-- What expressions refer to. -/
structure Environment where
  api : Route.Api
  classes : Style.ClassMap
  /-- The request, in a handler. -/
  request : Option Route.ActionContext
  /-- The item and its number, in a repetition. -/
  item : Option (Json × Nat)

/-- Evaluation may ask for properties and may fail. -/
abbrev Evaluation := ExceptT Failure Reading

namespace Evaluation

/-- A typed property. -/
def property (name : String) (default : Value) : Evaluation Value :=
  ExceptT.lift (Reading.read name default .done)

def found (name : String) : Evaluation (Option Value) :=
  ExceptT.lift (Reading.find name .done)

def isRecording : Evaluation Bool := ExceptT.lift (Reading.isRecording .done)

def ofRoute {α : Type} : Except Route.Error α → Evaluation α
  | .ok a => pure a
  | .error cause => throw (.route cause)

def ofStyle {α : Type} : Except Style.Error α → Evaluation α
  | .ok a => pure a
  | .error cause => throw (.style cause)

/-- The request; there is none outside of handlers. -/
def request (env : Environment) : Evaluation Route.ActionContext :=
  match env.request with
  | some context => pure context
  | none => throw (.failed "no request")

end Evaluation

def boolText (b : Bool) : String := if b then "true" else "false"

/-- An item as text: a string itself, anything else as JSON. -/
def itemText : Json → String
  | .string s => s
  | value => value.print

mutual

/-- The text of an expression. -/
def Text.eval (env : Environment) : Text → Evaluation String
  | literal text => pure text
  | property name default => return (← Evaluation.property name default).text
  | found name => do
    match ← Evaluation.found name with
    | some value => return value.kind.name ++ ":" ++ value.text
    | none => return "none"
  | recording => return boolText (← Evaluation.isRecording)
  | concat parts => return String.join (← Text.evalList env parts)
  | equal left right => do
    let a ← left.eval env
    let b ← right.eval env
    return boolText (a == b)
  | item => pure ((env.item.map fun item => itemText item.1).getD "")
  | index => pure ((env.item.map fun item => Decimal.natText item.2).getD "")
  | className key => Evaluation.ofStyle (Style.classOf env.classes key)
  | path action arguments => do
    let arguments ← Text.evalList env arguments
    Evaluation.ofRoute (env.api.path action arguments)
  | parameter name => do
    Evaluation.ofRoute ((← Evaluation.request env).requireParameter name)
  | parameterOr name fallback => do
    return ((← Evaluation.request env).parameter? name).getD fallback
  | queryOr name fallback => do
    return ((← Evaluation.request env).queryValue? name).getD fallback
  | fieldOr name fallback => do
    return ((← Evaluation.request env).field? name).getD fallback
  | request => do
    let context ← Evaluation.request env
    return context.method.name ++ " " ++ context.path

def Text.evalList (env : Environment) : List Text → Evaluation (List String)
  | [] => pure []
  | text :: rest => do
    let first ← text.eval env
    return first :: (← Text.evalList env rest)

end

/-- Whether a condition holds: its text is `true`. -/
def Text.holds (env : Environment) (condition : Text) : Evaluation Bool :=
  return (← condition.eval env) == "true"

/-- Markup inside of a number of elements of one tag. -/
def nest (tag : String) (markup : Markup) : Nat → Markup
  | 0 => markup
  | n + 1 => ((Element.ofTag tag).addChild (nest tag markup n)).toMarkup

/-- Items with their numbers, from `n` on. -/
def numbered (n : Nat) : List Json → List (Json × Nat)
  | [] => []
  | item :: rest => (item, n) :: numbered (n + 1) rest

mutual

/-- The markup of a node. -/
def Node.eval (env : Environment) : Node → Evaluation Markup
  | .text text => return .text (← text.eval env)
  | .raw html => return .raw (← html.eval env)
  | .fragment nodes => return .fragment (← Node.evalList env nodes)
  | .element tag steps => return (← Step.evalList env (Element.ofTag tag) steps).toMarkup
  | .nested tag times node => return nest tag (← node.eval env) times
  | .choice condition yes no => do
    if ← condition.holds env then yes.eval env else no.eval env
  | .each name default node => do
    match ← Evaluation.property name (.array default) with
    | .array items =>
      return .fragment (← (numbered 0 items).mapM fun item =>
        node.eval { env with item := some item })
    | _ => return Markup.empty
  | .failure reason => do
    throw (.failed (← reason.eval env))

def Node.evalList (env : Environment) : List Node → Evaluation (List Markup)
  | [] => pure []
  | node :: rest => do
    let first ← node.eval env
    return first :: (← Node.evalList env rest)

/-- An element after one step. -/
def Step.eval (env : Environment) (e : Element) : Step → Evaluation Element
  | .attr name value => return e.attr name (← value.eval env)
  | .flag name => pure (e.flag name)
  | .flagIf name condition => return e.flagIf name (← condition.holds env)
  | .attrs pairs => pure (e.attrs pairs)
  | .addClass name => return e.addClass (← name.eval env)
  | .addText text => return e.addChild (.text (← text.eval env))
  | .children nodes => return e.addChildren (← Node.evalList env nodes)
  | .close => pure e.close
  | .call action arguments => do
    let arguments ← Text.evalList env arguments
    return e.attrs (← Evaluation.ofRoute (env.api.call action arguments)).toList

def Step.evalList (env : Environment) (e : Element) : List Step → Evaluation Element
  | [] => pure e
  | step :: rest => do
    let built ← step.eval env e
    Step.evalList env built rest

end

/-- A template as a render function. -/
def Node.toRender (node : Node) : Render := fun api classes =>
  (node.eval ⟨api, classes, none, none⟩).run

/-- An environment without actions, classes and request. -/
def bare : Environment := ⟨.empty, OrderedMap.empty, none, none⟩

/-- A template as a handler; it has no properties. -/
def Node.toHandler (node : Node) : Handler := fun context =>
  (node.eval { bare with request := some context }).run.run (Props.ofValues OrderedMap.empty)

/-- The markup of a template by itself. -/
def Node.markup (node : Node) : Except Failure Markup :=
  (node.eval bare).run.run (Props.ofValues OrderedMap.empty)

/-- The text of an expression by itself, with given properties. -/
def Text.answer (props : Props) (text : Text) : Except Failure String :=
  (text.eval bare).run.run props

end HtmlComponents.Template
