import HtmlComponents.Proofs.Component.Uses

/-!
# The depth ceiling

A call that does not reach the ceiling has the same result under every higher one
(`Library.outcome_deeper`). No component is entered while it is being rendered, so under a ceiling of one
less than the number of components there is room for all of them, and it is never reached
(`Library.within_outcome`). `depth_inert` puts both together.
-/

namespace HtmlComponents.Component

def Warning.isDepthLimit : Warning → Bool
  | .cycle _ _ => false
  | .depthLimit _ _ => true

/-- The same options with another ceiling. -/
def Options.deep (options : Options) (depth : Nat) : Options := { options with maxDepth := depth }

namespace Outcome

/-- No tag was left because of the ceiling. -/
def Within (outcome : Outcome) : Prop := ∀ warning ∈ outcome.warnings, warning.isDepthLimit = false

theorem within_concat {outcomes : List Outcome} :
    (concat outcomes).Within ↔ ∀ outcome ∈ outcomes, outcome.Within := by
  rw [Within, warnings_concat]
  exact List.forall_mem_flatMap

end Outcome

namespace Library

variable {library : Library} {options : Options} {depth deeper : Nat} {scope : Scope} {name : String}
  {attributes : RawAttributes} {source : List Char}

theorem useOutcome_deeper (hle : depth ≤ deeper)
    {inner inner' : (name : String) → name ∈ scope.idle → List Char → Outcome}
    (hinner : ∀ name h html, (inner name h html).Within → inner' name h html = inner name h html)
    (h : (library.useOutcome (options.deep depth) scope name attributes source inner).Within) :
    library.useOutcome (options.deep deeper) scope name attributes source inner' =
      library.useOutcome (options.deep depth) scope name attributes source inner := by
  unfold useOutcome at h ⊢
  by_cases hidle : name ∈ scope.idle
  · rw [dif_pos hidle] at h
    rw [dif_pos hidle, dif_pos hidle]
    by_cases hdepth : scope.active.length > depth
    · -- the ceiling would have left its warning
      rw [if_pos (show _ > (options.deep depth).maxDepth from hdepth)] at h
      cases h _ List.mem_cons_self
    · have hdeeper : ¬scope.active.length > deeper := by omega
      rw [if_neg (show ¬_ > (options.deep depth).maxDepth from hdepth)] at h
      rw [if_neg (show ¬_ > (options.deep depth).maxDepth from hdepth),
        if_neg (show ¬_ > (options.deep deeper).maxDepth from hdeeper)]
      cases hrender : library.renderTag name attributes with
      | error e => rfl
      | ok rendered =>
        rw [hrender] at h
        exact congrArg (Outcome.styled name rendered.2) (hinner name hidle _ h)
  · rw [dif_neg hidle, dif_neg hidle]
    rfl

/-- An expansion that does not reach the ceiling is the same under a higher one. -/
theorem outcome_deeper (hle : depth ≤ deeper) (scope : Scope) (html : List Char)
    (h : (library.outcome (options.deep depth) scope html).Within) :
    library.outcome (options.deep deeper) scope html = library.outcome (options.deep depth) scope html := by
  rw [outcome, Outcome.within_concat, List.forall_mem_map] at h
  rw [outcome, outcome]
  refine congrArg Outcome.concat (List.map_congr_left fun piece hpiece => ?_)
  cases piece with
  | literal s => rfl
  | element tag source =>
    have hwithin := h _ hpiece
    simp only [Session.pieceOutcome] at hwithin ⊢
    refine useOutcome_deeper hle (fun name hname html hinner => ?_) hwithin
    exact outcome_deeper hle (scope.enter name) html hinner
termination_by scope.idle.length
decreasing_by exact Scope.length_idle_enter_lt hname

theorem within_useOutcome (hroom : scope.active.length + scope.idle.length ≤ options.maxDepth + 1)
    {inner : (name : String) → name ∈ scope.idle → List Char → Outcome}
    (hinner : ∀ name h html, (inner name h html).Within) :
    (library.useOutcome options scope name attributes source inner).Within := by
  unfold useOutcome
  split
  · rename_i hidle
    -- one of the components that there is room for is the one to be entered
    have hpos := List.length_pos_of_mem hidle
    rw [if_neg (by omega)]
    cases library.renderTag name attributes with
    | error e => exact List.forall_mem_nil _
    | ok rendered => exact hinner name hidle rendered.1.chars
  · exact List.forall_mem_singleton.mpr rfl

/-- With room for all components the ceiling is not reached. -/
theorem within_outcome (scope : Scope) (html : List Char)
    (hroom : scope.active.length + scope.idle.length ≤ options.maxDepth + 1) :
    (library.outcome options scope html).Within := by
  rw [outcome, Outcome.within_concat, List.forall_mem_map]
  intro piece _
  cases piece with
  | literal s => exact List.forall_mem_nil _
  | element tag source =>
    refine within_useOutcome hroom fun name hname html => within_outcome (scope.enter name) html ?_
    have hpos := List.length_pos_of_mem hname
    rw [Scope.enter, List.length_append, List.length_singleton, List.length_erase_of_mem hname]
    omega
termination_by scope.idle.length
decreasing_by exact Scope.length_idle_enter_lt hname

end Library

namespace Machine.Call

/-- The outcome of a call. -/
def outcome (options : Options) (registry : Registry) : Call → Except Error Outcome
  | .expandHtml html =>
    .ok (Library.outcome registry.definition? options (Scope.outside registry) html.toList)
  | .render name attributes =>
    (Library.renderTag registry.definition? name attributes).map fun (markup, css) =>
      .styled name css
        (Library.outcome registry.definition? options ((Scope.outside registry).enter name) markup.chars)

variable {options : Options} {registry : Registry} {call : Call} {depth deeper : Nat}

theorem fst_session (options : Options) (registry : Registry) (call : Call) :
    ((call.session options).run registry).1 = (call.outcome options registry).map Output.ofOutcome := by
  cases call with
  | expandHtml html =>
    rw [session, Session.run_bind, Session.fst_expandHtml]
    rfl
  | render name attributes =>
    rw [session, Session.fst_render, outcome]
    cases Library.renderTag registry.definition? name attributes <;> rfl

theorem outcome_deeper (hle : depth ≤ deeper)
    (h : ∀ found, call.outcome (options.deep depth) registry = .ok found → found.Within) :
    call.outcome (options.deep deeper) registry = call.outcome (options.deep depth) registry := by
  cases call with
  | expandHtml html => exact congrArg Except.ok (Library.outcome_deeper hle _ _ (h _ rfl))
  | render name attributes =>
    rw [outcome] at h ⊢
    rw [outcome]
    cases hrender : Library.renderTag registry.definition? name attributes with
    | error e => rfl
    | ok rendered =>
      rw [hrender] at h
      have hsame := Library.outcome_deeper hle ((Scope.outside registry).enter name) rendered.1.chars
        (h (.styled name rendered.2 _) rfl)
      exact congrArg (Except.ok ∘ Outcome.styled name rendered.2) hsame

theorem within_outcome (hroom : registry.size ≤ options.maxDepth + 1) {found : Outcome}
    (h : call.outcome options registry = .ok found) : found.Within := by
  have houtside : (Scope.outside registry).idle.length = registry.size := registry.length_names
  cases call with
  | expandHtml html =>
    cases h
    refine Library.within_outcome _ _ ?_
    rw [houtside, Scope.outside, List.length_nil]
    omega
  | render name attributes =>
    obtain ⟨⟨markup, css⟩, hrender, rfl⟩ := exists_of_map_eq_ok h
    have hname : name ∈ (Scope.outside registry).idle := by
      rw [← Session.fst_renderTag] at hrender
      exact Session.mem_names_of_renderTag hrender
    have hpos := List.length_pos_of_mem hname
    change Outcome.Within (Library.outcome _ options _ _)
    refine Library.within_outcome _ _ ?_
    rw [Scope.enter, List.length_append, List.length_erase_of_mem hname, houtside]
    rw [houtside] at hpos
    simp only [Scope.outside, List.length_nil, List.length_singleton]
    omega

end Machine.Call

open Machine (Call)

/-- The depth ceiling only cuts: a call that does not reach it has the same result under every higher one.
From one less than the number of components on it is never reached, so there all ceilings are the same. -/
theorem depth_inert (options : Options) (registry : Registry) (call : Call) :
    let result := fun depth => ((call.session (options.deep depth)).run registry).1
    let Clear := fun depth => ∀ output, result depth = .ok output →
      ∀ warning ∈ output.warnings, warning.isDepthLimit = false
    (∀ depth deeper, depth ≤ deeper → Clear depth → result deeper = result depth) ∧
      (∀ depth, registry.size - 1 ≤ depth → Clear depth) ∧
      ∀ depth depth', registry.size - 1 ≤ depth → registry.size - 1 ≤ depth' →
        result depth = result depth' := by
  intro result Clear
  have hdeeper : ∀ depth deeper, depth ≤ deeper → Clear depth → result deeper = result depth := by
    intro depth deeper hle hclear
    simp only [result, Call.fst_session]
    rw [Call.outcome_deeper hle fun found hfound => ?_]
    refine hclear (.ofOutcome found) ?_
    simp only [result, Call.fst_session, hfound]
    rfl
  have hclear : ∀ depth, registry.size - 1 ≤ depth → Clear depth := by
    intro depth hroom output houtput
    simp only [result, Call.fst_session] at houtput
    obtain ⟨found, hfound, rfl⟩ := exists_of_map_eq_ok houtput
    refine Call.within_outcome ?_ hfound
    simp only [Options.deep]
    omega
  refine ⟨hdeeper, hclear, fun depth depth' h h' => ?_⟩
  rcases Nat.le_total depth depth' with hle | hle
  · exact (hdeeper depth depth' hle (hclear depth h)).symm
  · exact hdeeper depth' depth hle (hclear depth' h')

end HtmlComponents.Component
