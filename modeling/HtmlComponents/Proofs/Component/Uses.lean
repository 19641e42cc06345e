import HtmlComponents.Proofs.Component.Guards
import HtmlComponents.Proofs.Component.Meaning
import HtmlComponents.Proofs.Except

/-!
# Uses of components

The uses of components that a call comes to, in the order in which it comes to them, each with what becomes
of it. The errors, the warnings and the css of the outcome are read off them (`records_outcome`,
`records_call`).
-/

namespace HtmlComponents.Component

open Document (Piece pieces)

/-- What becomes of a use of a component. -/
inductive Verdict where
  | guarded (warning : Warning)
  | dropped (e : Error)
  | rendered (markup : Markup) (css : String)

/-- A use of a component, by a tag or by a call. -/
structure Use where
  name : String
  attributes : RawAttributes
  verdict : Verdict

namespace Use

def error? (use : Use) : Option Error :=
  match use.verdict with
  | .dropped e => some e
  | _ => none

def warning? (use : Use) : Option Warning :=
  match use.verdict with
  | .guarded warning => some warning
  | _ => none

/-- The css of a component that was rendered, with its name. -/
def style? (use : Use) : Option (String × String) :=
  match use.verdict with
  | .rendered _ css => some (use.name, css)
  | _ => none

/-- What is said of a use is what the component does with the attributes. -/
def Agrees (library : Library) (use : Use) : Prop :=
  match use.verdict with
  | .guarded _ => True
  | .dropped e => library.renderTag use.name use.attributes = .error e
  | .rendered markup css => library.renderTag use.name use.attributes = .ok (markup, css)

end Use

/-- What an outcome gathers is read off uses of components in their order. -/
structure Records (outcome : Outcome) (uses : List Use) : Prop where
  errors : outcome.errors = uses.filterMap Use.error?
  warnings : outcome.warnings = uses.filterMap Use.warning?
  styles : outcome.styles = OrderedMap.ofListFirst (uses.filterMap Use.style?)

namespace Records

variable {outcome other : Outcome} {uses others : List Use} {name : String} {attributes : RawAttributes}

theorem literal (s : List Char) : Records (.literal s) [] := ⟨rfl, rfl, rfl⟩

theorem append (h : Records outcome uses) (h' : Records other others) :
    Records (outcome.append other) (uses ++ others) := by
  refine ⟨?_, ?_, ?_⟩
  · rw [Outcome.append, List.filterMap_append, h.errors, h'.errors]
  · rw [Outcome.append, List.filterMap_append, h.warnings, h'.warnings]
  · rw [Outcome.append, List.filterMap_append, OrderedMap.ofListFirst_append, h.styles, h'.styles]

theorem guarded (options : Options) (warning : Warning) (source : List Char) :
    Records (.guarded options warning source) [⟨name, attributes, .guarded warning⟩] := ⟨rfl, rfl, rfl⟩

theorem dropped (e : Error) : Records (.dropped e) [⟨name, attributes, .dropped e⟩] := ⟨rfl, rfl, rfl⟩

theorem styled (markup : Markup) (css : String) (h : Records outcome uses) :
    Records (.styled name css outcome) (⟨name, attributes, .rendered markup css⟩ :: uses) := by
  refine ⟨h.errors, h.warnings, ?_⟩
  rw [Outcome.styled, h.styles]
  exact (OrderedMap.ofListFirst_cons name css (uses.filterMap Use.style?)).symm

end Records

namespace Library

/-- The use of a component and those in the HTML that it renders. -/
def usesFrom (library : Library) (options : Options) (scope : Scope) (name : String)
    (attributes : RawAttributes) (inner : (name : String) → name ∈ scope.idle → List Char → List Use) :
    List Use :=
  if h : name ∈ scope.idle then
    if scope.active.length > options.maxDepth then
      [⟨name, attributes, .guarded (.depthLimit name options.maxDepth)⟩]
    else
      match library.renderTag name attributes with
      | .error e => [⟨name, attributes, .dropped e⟩]
      | .ok (markup, css) => ⟨name, attributes, .rendered markup css⟩ :: inner name h markup.chars
  else [⟨name, attributes, .guarded (.cycle name (scope.active ++ [name]))⟩]

/-- The uses in a piece of HTML. -/
def usesOf (uses : StartTag → List Use) : Piece → List Use
  | .literal _ => []
  | .element tag _ => uses tag

/-- The uses of components in HTML and in what they render, each before those in it. -/
def uses (library : Library) (options : Options) (scope : Scope) (html : List Char) : List Use :=
  (pieces (fun tag => (library tag.localName).isSome) (Document.ofChars html).roots).flatMap
    (usesOf fun tag => library.usesFrom options scope tag.localName tag.rawAttributes fun name _h html =>
      library.uses options (scope.enter name) html)
termination_by scope.idle.length
decreasing_by exact Scope.length_idle_enter_lt _h

variable {library : Library} {options : Options}

theorem records_useOutcome {scope : Scope} (name : String) (attributes : RawAttributes)
    (source : List Char) {inner : (name : String) → name ∈ scope.idle → List Char → Outcome}
    {uses : (name : String) → name ∈ scope.idle → List Char → List Use}
    (hinner : ∀ name h html, Records (inner name h html) (uses name h html)) :
    Records (library.useOutcome options scope name attributes source inner)
      (library.usesFrom options scope name attributes uses) := by
  unfold useOutcome usesFrom
  split
  · rename_i hidle
    split
    · exact .guarded ..
    · cases library.renderTag name attributes with
      | error e => exact .dropped e
      | ok rendered => exact .styled rendered.1 rendered.2 (hinner name hidle rendered.1.chars)
  · exact .guarded ..

theorem records_concat {use : StartTag → List Char → Outcome} {uses : StartTag → List Use}
    (h : ∀ tag source, Records (use tag source) (uses tag)) (ps : List Piece) :
    Records (.concat (ps.map (Session.pieceOutcome use))) (ps.flatMap (usesOf uses)) := by
  induction ps with
  | nil => exact .literal []
  | cons piece rest ih =>
    cases piece with
    | literal s => exact (Records.literal s).append ih
    | element tag source => exact (h tag source).append ih

/-- The outcome of HTML is read off the uses of components that expansion comes to. -/
theorem records_outcome (scope : Scope) (html : List Char) :
    Records (library.outcome options scope html) (library.uses options scope html) := by
  rw [outcome, uses]
  refine records_concat (fun tag source => ?_) _
  refine records_useOutcome tag.localName tag.rawAttributes source fun name h html => ?_
  exact records_outcome (scope.enter name) html
termination_by scope.idle.length
decreasing_by exact Scope.length_idle_enter_lt h

theorem agrees_usesFrom {scope : Scope} (name : String) (attributes : RawAttributes)
    {inner : (name : String) → name ∈ scope.idle → List Char → List Use}
    (hinner : ∀ name h html, ∀ use ∈ inner name h html, use.Agrees library) :
    ∀ use ∈ library.usesFrom options scope name attributes inner, use.Agrees library := by
  unfold usesFrom
  split
  · rename_i hidle
    split
    · exact List.forall_mem_singleton.mpr trivial
    · cases hrender : library.renderTag name attributes with
      | error e => exact List.forall_mem_singleton.mpr hrender
      | ok rendered =>
        exact List.forall_mem_cons.mpr ⟨hrender, hinner name hidle rendered.1.chars⟩
  · exact List.forall_mem_singleton.mpr trivial

theorem agrees_uses (scope : Scope) (html : List Char) :
    ∀ use ∈ library.uses options scope html, use.Agrees library := by
  rw [uses, List.forall_mem_flatMap]
  intro piece _
  cases piece with
  | literal s => exact List.forall_mem_nil _
  | element tag source =>
    exact agrees_usesFrom tag.localName tag.rawAttributes fun name h html =>
      agrees_uses (scope.enter name) html
termination_by scope.idle.length
decreasing_by exact Scope.length_idle_enter_lt h

end Library

namespace Machine.Call

/-- The uses of components that a call comes to. -/
def uses (options : Options) (registry : Registry) : Call → List Use
  | .expandHtml html =>
    Library.uses registry.definition? options (Scope.outside registry) html.toList
  | .render name attributes =>
    match Library.renderTag registry.definition? name attributes with
    | .error e => [⟨name, attributes, .dropped e⟩]
    | .ok (markup, css) => ⟨name, attributes, .rendered markup css⟩ ::
        Library.uses registry.definition? options ((Scope.outside registry).enter name) markup.chars

theorem records_call {options : Options} {registry : Registry} {call : Call} {output : Output}
    (h : ((call.session options).run registry).1 = .ok output) :
    ∃ outcome, output = .ofOutcome outcome ∧ Records outcome (call.uses options registry) := by
  cases call with
  | expandHtml html =>
    rw [session, Session.run_bind, Session.fst_expandHtml] at h
    cases h
    exact ⟨_, rfl, Library.records_outcome _ _⟩
  | render name attributes =>
    rw [session, Session.fst_render] at h
    obtain ⟨⟨markup, css⟩, hrender, rfl⟩ := exists_of_map_eq_ok h
    rw [uses, hrender]
    exact ⟨_, rfl, .styled markup css (Library.records_outcome _ _)⟩

theorem agrees_call (options : Options) (registry : Registry) (call : Call) :
    ∀ use ∈ call.uses options registry, use.Agrees registry.definition? := by
  cases call with
  | expandHtml html => exact Library.agrees_uses _ _
  | render name attributes =>
    rw [uses]
    cases hrender : Library.renderTag registry.definition? name attributes with
    | error e => exact List.forall_mem_singleton.mpr hrender
    | ok rendered => exact List.forall_mem_cons.mpr ⟨hrender, Library.agrees_uses _ _⟩

end Machine.Call

end HtmlComponents.Component
