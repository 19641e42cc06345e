import HtmlComponents.Proofs.Component.Compositional

/-!
# What expansion computes

The outcome of expansion as a function of the definitions of components alone, without a registry that is
changed on the way (`fst_expand`). The order in which components were registered does not show in it
(`outcome_perm`).
-/

namespace HtmlComponents.Component

open Document (pieces)

/-- The components that there are, by name. -/
abbrev Library := String → Option Definition

namespace Library

def renderTag (library : Library) (name : String) (attributes : RawAttributes) :
    Except Error (Markup × String) :=
  match library name with
  | none => .error (.unknownComponent name)
  | some definition => definition.renderTag name attributes

/-- The outcome of the use of a component; `inner` gives that of the HTML it renders. -/
def useOutcome (library : Library) (options : Options) (scope : Scope) (name : String)
    (attributes : RawAttributes) (source : List Char)
    (inner : (name : String) → name ∈ scope.idle → List Char → Outcome) : Outcome :=
  if h : name ∈ scope.idle then
    if scope.active.length > options.maxDepth then
      .guarded options (.depthLimit name options.maxDepth) source
    else
      match library.renderTag name attributes with
      | .error e => .dropped e
      | .ok (markup, css) => .styled name css (inner name h markup.chars)
  else .guarded options (.cycle name (scope.active ++ [name])) source

/-- The outcome of HTML, put together from those of its pieces. -/
def outcome (library : Library) (options : Options) (scope : Scope) (html : List Char) : Outcome :=
  .concat ((pieces (fun tag => (library tag.localName).isSome) (Document.ofChars html).roots).map
    (Session.pieceOutcome fun tag source =>
      library.useOutcome options scope tag.localName tag.rawAttributes source fun name _h html =>
        library.outcome options (scope.enter name) html))
termination_by scope.idle.length
decreasing_by exact Scope.length_idle_enter_lt _h

variable {library : Library} {options : Options}

theorem useOutcome_congr {scope scope' : Scope} {name : String} {attributes : RawAttributes}
    {source : List Char} {inner : (name : String) → name ∈ scope.idle → List Char → Outcome}
    {inner' : (name : String) → name ∈ scope'.idle → List Char → Outcome}
    (hactive : scope.active = scope'.active) (hidle : ∀ name, name ∈ scope.idle ↔ name ∈ scope'.idle)
    (hinner : ∀ name h h' html, inner name h html = inner' name h' html) :
    library.useOutcome options scope name attributes source inner =
      library.useOutcome options scope' name attributes source inner' := by
  unfold useOutcome
  rw [hactive]
  by_cases h : name ∈ scope.idle
  · have h' := (hidle name).mp h
    rw [dif_pos h, dif_pos h']
    split
    · rfl
    · cases library.renderTag name attributes with
      | error e => rfl
      | ok rendered => exact congrArg (Outcome.styled name rendered.2) (hinner name h h' _)
  · rw [dif_neg h, dif_neg fun h' => h ((hidle name).mpr h')]

/-- The order of the components that are not being rendered does not matter. -/
theorem outcome_perm {scope scope' : Scope} (hactive : scope.active = scope'.active)
    (hidle : scope.idle.Perm scope'.idle) (html : List Char) :
    library.outcome options scope html = library.outcome options scope' html := by
  rw [outcome, outcome]
  congr 3
  funext tag source
  refine useOutcome_congr hactive (fun _ => hidle.mem_iff) fun name h _ html => ?_
  refine outcome_perm ?_ (hidle.erase name) html
  rw [Scope.enter, Scope.enter, hactive]
termination_by scope.idle.length
decreasing_by exact Scope.length_idle_enter_lt h

end Library

namespace Session

variable {options : Options} {registry : Registry}

theorem fst_renderTag (name : String) (attributes : RawAttributes) (registry : Registry) :
    ((renderTag name attributes).run registry).1 =
      Library.renderTag registry.definition? name attributes :=
  (run_renderTag name attributes registry).1

theorem fst_expandUse {scope : Scope} (name : String) (attributes : RawAttributes)
    (source : List Char) {inner : (name : String) → name ∈ scope.idle → List Char → Session Outcome}
    (hinner : ∀ name h html, Stable (inner name h html)) :
    ((expandUse options scope name attributes source inner).run registry).1 =
      Library.useOutcome registry.definition? options scope name attributes source fun name h html =>
        ((inner name h html).run registry).1 := by
  unfold expandUse Library.useOutcome
  split
  · rename_i hidle
    split
    · rfl
    · have hsame := (run_renderTag name attributes registry).2
      rw [run_bind, fst_renderTag]
      cases Library.renderTag registry.definition? name attributes with
      | error e => rfl
      | ok rendered =>
        have hresult := (hinner name hidle rendered.1.chars).result _ _ hsame
        exact congrArg (Outcome.styled name rendered.2) hresult.symm
  · rfl

/-- Expansion gives what the definitions say. -/
theorem fst_expand (options : Options) (registry : Registry) (scope : Scope) (html : List Char) :
    ((expand options scope html).run registry).1 =
      Library.outcome registry.definition? options scope html := by
  rw [expand_eq_expandPieces, run_bind, run_get, fst_expandPieces (stable_expandEntering options scope),
    Library.outcome]
  simp only [registry.contains_eq_isSome]
  congr 3
  funext tag source
  rw [expandEntering, expandTag, fst_expandUse _ _ _ fun name _ html =>
    stable_expand options (scope.enter name) html]
  refine Library.useOutcome_congr rfl (fun _ => Iff.rfl) fun name h _ html => ?_
  exact fst_expand options registry (scope.enter name) html
termination_by scope.idle.length
decreasing_by exact Scope.length_idle_enter_lt h

theorem fst_expandHtml (options : Options) (registry : Registry) (html : String) :
    ((expandHtml options html).run registry).1 =
      .ofOutcome (Library.outcome registry.definition? options (Scope.outside registry) html.toList) := by
  rw [expandHtml, run_bind, run_get, run_bind, fst_expand]
  rfl

theorem fst_render (options : Options) (registry : Registry) (name : String)
    (attributes : RawAttributes) :
    ((render options name attributes).run registry).1 =
      (Library.renderTag registry.definition? name attributes).map fun (markup, css) =>
        .ofOutcome (.styled name css (Library.outcome registry.definition? options
          ((Scope.outside registry).enter name) markup.chars)) := by
  have hsame := (run_renderTag name attributes registry).2
  rw [render, run_bind, run_get, run_bind, fst_renderTag]
  cases Library.renderTag registry.definition? name attributes with
  | error e => rfl
  | ok rendered =>
    have hresult := (stable_expand options ((Scope.outside registry).enter name)
      rendered.1.chars).result _ _ hsame
    dsimp only
    rw [run_bind, ← hresult, fst_expand]
    rfl

end Session

end HtmlComponents.Component
