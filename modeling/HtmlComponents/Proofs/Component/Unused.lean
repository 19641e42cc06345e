import HtmlComponents.Proofs.Component.Failing
import HtmlComponents.Proofs.Component.Markers
import HtmlComponents.Proofs.Component.TopLevel
import HtmlComponents.Proofs.Component.Trace
import HtmlComponents.Proofs.Document.Outermost

/-!
# Components that are not used

Over two registries that differ in one component the machine does the same as long as no HTML that it expands has
an element of that name: `step_over` for one step, `steps_over` for a run. So a component that a call has no use
for may be registered without a change of the result (`unused_inert`).
-/

namespace HtmlComponents

/-- No element has the name, in capital or small letters. -/
def Document.Lacks (document : Document) (name : String) : Prop :=
  ∀ p ∈ document.placed, ∀ tag ∈ p.node.tag?, tag.isNamed name = false

instance (document : Document) (name : String) : Decidable (document.Lacks name) :=
  inferInstanceAs (Decidable (∀ p ∈ document.placed, ∀ tag ∈ p.node.tag?, tag.isNamed name = false))

namespace Component

namespace Registry

/-- All components but one are the same. -/
def SameBut (name : String) (a b : Registry) : Prop :=
  ∀ other, other ≠ name → a.definition? other = b.definition? other

variable {a b : Registry} {name other : String} {definition : Definition}

theorem SameBut.contains_eq (h : SameBut name a b) (hne : other ≠ name) :
    a.contains other = b.contains other := by
  rw [contains_eq_isSome, contains_eq_isSome, h other hne]

theorem SameBut.same {a' b' : Registry} (h : SameBut name a b) (ha : a.Same a') (hb : b.Same b') :
    SameBut name a' b' := fun other hne =>
  ((ha.definition? other).symm.trans (h other hne)).trans (hb.definition? other)

theorem SameBut.outermost_eq (h : SameBut name a b) (hname : name.toLower = name) {document : Document}
    (hlacks : document.Lacks name) :
    (document.outermost fun tag => a.contains tag.localName) =
      document.outermost fun tag => b.contains tag.localName := by
  refine Document.outermost_congr fun p hp tag htag => h.contains_eq fun hlocal => ?_
  have hnamed : tag.isNamed name = true := by
    rw [StartTag.isNamed, sameName, hname]
    exact beq_iff_eq.mpr hlocal
  cases hnamed.symm.trans (hlacks p hp tag htag)

theorem sameBut_register (h : a.register definition = .ok b) : SameBut definition.name a b := by
  obtain ⟨valid, rfl⟩ := register_eq_ok h
  intro other hne
  rw [a.definition?_setEntry (.ofDefinition definition) valid]
  exact (if_neg hne).symm

end Registry

namespace Machine

open Relation (ReflTransGen)
open Session (renderTag)

variable {options : Options} {registry extended : Registry} {call : Call} {name : String} {s t : State}

/-! ### Where calls come from -/

/-- What a call or a result may come after. -/
inductive Control.Follows (s : State) : Control → Prop
  | found (tag : StartTag) (source : List Char) : Follows s (.expandTag tag source)
  | entered {tag : StartTag} {source : List Char} (h : s.control = .expandTag tag source) :
      Follows s (.render tag.localName tag.rawAttributes)
  | rendered {name : String} {attributes : RawAttributes} {markup : Markup} {css : String}
      (h : s.control = .render name attributes)
      (hrun : ((renderTag name attributes).run s.registry).1 = .ok (markup, css)) :
      Follows s (.expand markup.chars)
  | returned (html : List Char) : Follows s (.returned html)
  | failed (e : Error) : Follows s (.failed e)

theorem follows_visit (s t : State) (document : Document) (done : List (Nat × List Char))
    (found : List (StartTag × Document.Placed)) : (t.visit document done found).control.Follows s := by
  cases found with
  | nil => exact .returned _
  | cons first rest => exact .found first.1 first.2.node.chars

theorem follows_of_step (h : s.step options = some t) : t.control.Follows s := by
  rw [State.step] at h
  split at h
  · cases h
    exact follows_visit ..
  · rename_i hcontrol
    split at h
    · cases h
      exact .returned _
    · split at h
      · cases h
        exact .returned _
      · cases h
        exact .entered hcontrol
  · rename_i hcontrol
    split at h
    · cases h
      exact .failed _
    · rename_i hrun
      cases h
      exact .rendered hcontrol (congrArg Prod.fst hrun)
  · rename_i hcontrol
    split at h
    · cases h
      exact follows_visit ..
    · cases h
      exact hcontrol ▸ .returned _
    · cases h
      exact hcontrol ▸ .returned _
    · cases h
  · split at h
    · cases h
      exact .returned []
    · cases h

/-- A run renders no component that is not registered and that the call does not ask for. -/
theorem Call.control_ne_render (hnew : name ∉ registry.names)
    (hother : ∀ attributes, call ≠ .render name attributes) (attributes : RawAttributes)
    (hsteps : Steps options [] (call.start registry) t) : t.control ≠ .render name attributes := by
  intro hcontrol
  rcases ReflTransGen.cases_tail hsteps with hstart | ⟨s, hsteps, hstep⟩
  · rw [hstart] at hcontrol
    cases call with
    | render asked given =>
      cases hcontrol
      exact hother attributes rfl
    | expandHtml html => cases hcontrol
  · have hfollows := follows_of_step hstep.1
    rw [hcontrol] at hfollows
    cases hfollows with
    | entered htag =>
      have hsound := ((call.sound_start options registry).steps hsteps).control
      rw [htag] at hsound
      exact hnew hsound

/-- The HTML is expanded in the run of a call. -/
def Call.Expands (options : Options) (registry : Registry) (call : Call) (html : List Char) : Prop :=
  ∃ s, Steps options [] (call.start registry) s ∧ s.control = .expand html

/-- HTML that is expanded is given with the call, or a component has rendered it. -/
theorem Call.Expands.mem_texts {html : List Char} (h : call.Expands options registry html) :
    html ∈ call.texts options registry := by
  obtain ⟨t, hsteps, hcontrol⟩ := h
  rcases ReflTransGen.cases_tail hsteps with rfl | ⟨s, hsteps, hstep⟩
  · cases call with
    | render asked given => cases hcontrol
    | expandHtml given =>
      cases hcontrol
      exact List.mem_cons_self
  · have hfollows := follows_of_step hstep.1
    rw [hcontrol] at hfollows
    cases hfollows with
    | @rendered name attributes markup css hrender hrun =>
      -- before the step, the use is the first of those still to come
      have hstart := call.sound_start options registry
      have hlibrary : (call.start registry).registry.definition? = registry.definition? := rfl
      obtain ⟨passed, -, hcome⟩ := exists_passes hstart registry.entries.nodup_keys hlibrary hsteps
      have hsame : s.registry.definition? = registry.definition? :=
        (funext (Steps.same hsteps).definition?).symm
      have hfirst := toCome_step (hstart.steps hsteps) registry.entries.nodup_keys hsame hstep.1
      have hdecided : s.decided options = [⟨name, attributes, .rendered markup css⟩] := by
        rw [State.decided, hrender]
        dsimp only
        rw [hrun]
      have huse : ⟨name, attributes, .rendered markup css⟩ ∈ call.uses options registry := by
        rw [← toCome_start, hcome, hfirst, hdecided]
        exact List.mem_append_right _ List.mem_cons_self
      exact List.mem_append_right _ (List.mem_filterMap.mpr ⟨_, huse, rfl⟩)

/-! ### Two registries -/

/-- The same moment over another registry. -/
def State.over (s : State) (registry : Registry) : State := { s with registry }

theorem over_visit (s : State) (registry : Registry) (document : Document) (done : List (Nat × List Char))
    (found : List (StartTag × Document.Placed)) :
    (s.visit document done found).over registry = (s.over registry).visit document done found := by
  cases found <;> rfl

theorem result?_over (s : State) (registry : Registry) : (s.over registry).result? = s.result? := rfl

/-- The component is not about to be looked for or rendered. -/
def Control.Avoids (name : String) : Control → Prop
  | .expand html => (Document.ofChars html).Lacks name
  | .render other _ => other ≠ name
  | .expandTag _ _ | .returned _ | .failed _ => True

/-- Only the calls to expand HTML and to render a component look at the registry. -/
theorem step_over_eq (s : State) (registry : Registry) (hexpand : ∀ html, s.control ≠ .expand html)
    (hrender : ∀ name attributes, s.control ≠ .render name attributes) :
    (s.over registry).step options = (s.step options).map (State.over · registry) := by
  rw [State.step, State.step, State.over]
  cases hcontrol : s.control with
  | expand html => exact absurd hcontrol (hexpand html)
  | render name attributes => exact absurd hcontrol (hrender name attributes)
  | expandTag tag source =>
    dsimp only
    split
    · rfl
    · split <;> rfl
  | returned html =>
    dsimp only
    split
    · rw [Option.map_some, over_visit]
      rfl
    · rfl
    · rfl
    · rfl
  | failed e =>
    dsimp only
    split <;> rfl

/-- A step that avoids a component is the same over a registry in which only that one is another. -/
theorem step_over (hname : name.toLower = name) (hsame : s.registry.SameBut name extended)
    (havoids : s.control.Avoids name) (hstep : s.step options = some t) :
    ∃ extended', (s.over extended).step options = some (t.over extended') := by
  cases hcontrol : s.control with
  | expand html =>
    rw [hcontrol] at havoids
    rw [State.step, hcontrol] at hstep
    cases hstep
    refine ⟨extended, ?_⟩
    rw [over_visit, hsame.outermost_eq hname havoids, State.step]
    simp only [State.over, hcontrol]
  | render other attributes =>
    rw [hcontrol] at havoids
    have hresult : ((renderTag other attributes).run s.registry).1 =
        ((renderTag other attributes).run extended).1 := by
      rw [Session.fst_renderTag, Session.fst_renderTag, Library.renderTag, Library.renderTag,
        hsame other havoids]
    rw [State.step, hcontrol] at hstep
    rcases hrun : (renderTag other attributes).run s.registry with ⟨result, rendered⟩
    rcases hrun' : (renderTag other attributes).run extended with ⟨result', rendered'⟩
    rw [hrun, hrun'] at hresult
    obtain rfl : result = result' := hresult
    refine ⟨rendered', ?_⟩
    simp only [State.step, State.over, hcontrol, hrun']
    simp only [hrun] at hstep
    cases result <;> cases hstep <;> rfl
  | expandTag tag source | returned html | failed e =>
    refine ⟨extended, ?_⟩
    rw [step_over_eq s extended (by simp [hcontrol]) (by simp [hcontrol]), hstep]
    rfl

theorem steps_over (hname : name.toLower = name) (hsame : registry.SameBut name extended)
    (havoids : ∀ s, Steps options [] (call.start registry) s → s.control.Avoids name)
    (hsteps : Steps options [] (call.start registry) t) :
    ∃ extended', Steps options [] (call.start extended) (t.over extended') := by
  induction hsteps with
  | refl => exact ⟨extended, .refl⟩
  | @tail s t hsteps hstep ih =>
    obtain ⟨extended', hsteps'⟩ := ih
    have hsame' : s.registry.SameBut name extended' := hsame.same (Steps.same hsteps) hsteps'.same
    obtain ⟨extended'', hstep'⟩ := step_over hname hsame' (havoids s hsteps) hstep.1
    exact ⟨extended'', hsteps'.trans (.single hstep' (List.nil_suffix))⟩

theorem step_of_result? {result : Except Error Output} (h : s.result? = some result) :
    s.step options = none := by
  rw [State.result?] at h
  rw [State.step]
  split at h
  · rename_i hframes hcontrol
    simp only [hframes, hcontrol]
  · rename_i hframes hcontrol
    simp only [hframes, hcontrol]
  · cases h

theorem result_eq {result : Except Error Output} (hsteps : Steps options [] (call.start registry) t)
    (hresult : t.result? = some result) : result = ((call.session options).run registry).1 := by
  obtain ⟨last, hlast, hstep, -, hsession, -⟩ := exists_result options registry call
  rcases ReflTransGen.cases_head (steps_last hlast hstep hsteps) with rfl | ⟨next, hnext, -⟩
  · exact Option.some.inj (hresult.symm.trans hsession)
  · cases (step_of_result? hresult).symm.trans hnext.1

theorem avoids_of_steps (hnew : name ∉ registry.names)
    (hother : ∀ attributes, call ≠ .render name attributes)
    (hunused : ∀ html, call.Expands options registry html → (Document.ofChars html).Lacks name)
    (hsteps : Steps options [] (call.start registry) s) : s.control.Avoids name := by
  cases hcontrol : s.control with
  | expand html => exact hunused html ⟨s, hsteps, hcontrol⟩
  | render other attributes =>
    rintro rfl
    exact call.control_ne_render hnew hother attributes hsteps hcontrol
  | expandTag tag source | returned html | failed e => trivial

end Machine

open Machine (Call)

/-- A component that is registered under a new name changes the result of no call, as long as the call does not ask
for it and none of the HTML that is expanded, given with the call or rendered, has an element of that name. -/
theorem unused_inert (options : Options) {registry extended : Registry} {definition : Definition}
    (hregister : registry.register definition = .ok extended)
    (hnew : registry.contains definition.name = false) {call : Call}
    (hother : ∀ attributes, call ≠ .render definition.name attributes)
    (hunused : ∀ html, call.Expands options registry html →
      (Document.ofChars html).Lacks definition.name) :
    ((call.session options).run extended).1 = ((call.session options).run registry).1 := by
  obtain ⟨hvalid, -⟩ := Registry.register_eq_ok hregister
  have hname : definition.name.toLower = definition.name := toLower_of_isComponentName hvalid
  have hmem : definition.name ∉ registry.names := fun hmem => by
    cases hnew.symm.trans (Registry.contains_iff_mem_names.mpr hmem)
  obtain ⟨last, hsteps, -, -, hresult, -⟩ := Machine.exists_result options registry call
  obtain ⟨extended', hsteps'⟩ := Machine.steps_over hname (Registry.sameBut_register hregister)
    (fun s => Machine.avoids_of_steps hmem hother hunused) hsteps
  exact (Machine.result_eq hsteps' ((Machine.result?_over last extended').trans hresult)).symm

theorem unused_inert_badge :
    let call : Call := .expandHtml "<p>badge <!-- <badge> --></p><Pair></Pair>"
    let failure : Error := .propertyType "picky" ⟨"size", .number, "none"⟩
    pairs.contains badge.name = false ∧
      (∀ html, call.Expands .standard pairs html → (Document.ofChars html).Lacks badge.name) ∧
      ∃ extended, pairs.register badge = .ok extended ∧ extended.contains badge.name = true ∧
        ((call.session .standard).run extended).1 =
          .ok ⟨"<p>badge <!-- <badge> --></p>and", "", [failure, failure], []⟩ := by
  intro call failure
  have htexts : ∀ html ∈ call.texts .standard pairs, (Document.ofChars html).Lacks badge.name := by
    decide +kernel
  have hunused : ∀ html, call.Expands .standard pairs html → (Document.ofChars html).Lacks badge.name :=
    fun html h => htexts html h.mem_texts
  refine ⟨rfl, hunused, _, rfl, rfl, ?_⟩
  refine (unused_inert .standard rfl rfl (fun _ h => Call.noConfusion h) hunused).trans ?_
  rw [Call.session, Session.run_bind, Session.fst_expandHtml]
  decide +kernel

end Component

end HtmlComponents
