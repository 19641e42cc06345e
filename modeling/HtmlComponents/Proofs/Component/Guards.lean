import HtmlComponents.Proofs.Component.Machine
import Mathlib.Data.List.Nodup

/-!
# The guards of expansion

The machine makes every call that expansion makes and comes back from it with the stack as it was
(`simulates`), so a run comes to an end and has the result of the session. `run_guarded` puts this
together with what holds at every moment.
-/

namespace HtmlComponents.Component

open Document (Placed)
open Relation (ReflTransGen)
open Session (expandEntering expandFound expandFound_cons renderTag)

/-- The components of a scope are those of the names `names`. -/
structure Scope.Fits (scope : Scope) (names : List String) : Prop where
  nodup : scope.idle.Nodup
  mem_idle : ∀ name, name ∈ scope.idle ↔ name ∈ names ∧ name ∉ scope.active

namespace Scope

variable {scope : Scope} {names active : List String} {name : String}

theorem Fits.enter (h : scope.Fits names) : (scope.enter name).Fits names := by
  refine ⟨h.nodup.erase name, fun other => ?_⟩
  rw [Scope.enter, h.nodup.mem_erase_iff, h.mem_idle, List.mem_append, List.mem_singleton]
  constructor
  · rintro ⟨hne, hnames, hactive⟩
    refine ⟨hnames, ?_⟩
    rintro (hother | hother)
    · exact hactive hother
    · exact hne hother
  · rintro ⟨hnames, hother⟩
    rw [not_or] at hother
    exact ⟨hother.2, hnames, hother.1⟩

theorem fits_outside (registry : Registry) : (outside registry).Fits registry.names := by
  refine ⟨registry.entries.nodup_keys, fun name => ?_⟩
  simp [outside]

theorem exists_fits (hnames : names.Nodup) (active : List String) :
    ∃ scope : Scope, scope.active = active ∧ scope.Fits names := by
  refine ⟨⟨active, names.filter fun name => decide (name ∉ active)⟩, rfl, hnames.filter _, ?_⟩
  intro name
  rw [List.mem_filter, decide_eq_true_iff]

end Scope

/-- The outcome of a document in which `done` has been replaced before the tags. -/
def Outcome.replaced (document : Document) (done : List (Nat × List Char))
    (tags : List (Placed × Outcome)) : Outcome where
  html := document.splice (done ++ tags.map fun tag => (tag.1.id, tag.2.html))
  styles := tags.foldr (fun tag styles => tag.2.styles.union styles) OrderedMap.empty
  errors := tags.flatMap fun tag => tag.2.errors
  warnings := tags.flatMap fun tag => tag.2.warnings

theorem Outcome.spliced_eq_replaced (document : Document) (tags : List (Placed × Outcome)) :
    spliced document tags = replaced document [] tags := by
  rw [spliced, replaced, OrderedMap.foldl_union, OrderedMap.empty_union, List.nil_append]

/-- Expands the tags found in a document that are left when `done` has been replaced. -/
def Session.expandRest (options : Options) (scope : Scope) (document : Document)
    (done : List (Nat × List Char)) (found : List (StartTag × Placed)) : Session Outcome := do
  let outcomes ← expandFound (expandEntering options scope) found
  return .replaced document done outcomes

namespace Machine

/-- The moment at which a call has returned with an outcome. -/
def State.finish (s : State) (done : Outcome × Registry) : State :=
  { s with
    registry := done.2
    styles := s.styles.union done.1.styles
    errors := s.errors ++ done.1.errors
    warnings := s.warnings ++ done.1.warnings
    control := .returned done.1.html }

theorem finish_guarded (s : State) (options : Options) (warning : Warning) (source : List Char) :
    s.finish (Outcome.guarded options warning source, s.registry) = s.refuse options warning source := by
  simp [State.finish, State.refuse, Outcome.guarded]

/-- From every moment inside a scope the machine expands HTML as a session does, and leaves the stack
as it was. -/
def Simulates (options : Options) (names : List String) (scope : Scope) : Prop :=
  ∀ (s : State) (html : List Char), s.active = scope.active → s.registry.names = names →
    Steps options s.frames { s with control := .expand html }
      (s.finish ((Session.expand options scope html).run s.registry))

section
variable {options : Options} {names : List String} {scope : Scope} {s : State}

theorem steps_failed {name : String} {attributes : RawAttributes} {e : Error} {registry : Registry}
    (hrun : (renderTag name attributes).run s.registry = (.error e, registry)) :
    Steps options s.frames { s with control := .render name attributes }
      { s with registry, control := .failed e } := by
  refine Steps.single ?_ (List.suffix_refl _)
  simp only [State.step, hrun]

theorem steps_rendered {name css : String} {attributes : RawAttributes} {markup : Markup}
    {registry : Registry} (hactive : s.active = scope.active) (hnames : s.registry.names = names)
    (hinner : Simulates options names (scope.enter name))
    (hrun : (renderTag name attributes).run s.registry = (.ok (markup, css), registry)) :
    Steps options s.frames { s with control := .render name attributes }
      (s.finish ((do
        let inner ← Session.expand options (scope.enter name) markup.chars
        return Outcome.styled name css inner : Session Outcome).run registry)) := by
  let inside : State :=
    { s with
      registry
      active := s.active ++ [name]
      styles := s.styles.insertNew name css
      frames := .leaving name :: s.frames }
  have hregistry : registry.names = names := by
    have hrendered := Session.names_renderTag name attributes s.registry
    rw [hrun, hnames] at hrendered
    exact hrendered
  -- the rendered HTML is expanded with the component on the stack, and then it is taken off
  have hexpand := hinner inside markup.chars (congrArg (· ++ [name]) hactive) hregistry
  refine Steps.head ?_ (List.suffix_cons _ _) ((hexpand.mono (List.suffix_cons _ _)).trans ?_)
  · simp only [State.step, hrun, inside]
  · refine Steps.single ?_ (List.suffix_refl _)
    rw [Session.run_bind, Session.run_pure]
    simp only [State.step, State.finish, Outcome.styled, inside, List.dropLast_concat,
      OrderedMap.insertNew_eq_union, OrderedMap.union_assoc]

/-- The machine makes the call of a tag and comes back from it, whether the tag is expanded, refused or
dropped. -/
theorem steps_expandTag {tag : StartTag} {source : List Char} (hactive : s.active = scope.active)
    (hnames : s.registry.names = names) (hfits : scope.Fits names) (htag : tag.localName ∈ names)
    (hinner : ∀ name ∈ scope.idle, Simulates options names (scope.enter name)) :
    Steps options s.frames { s with control := .expandTag tag source }
      (s.finish ((expandEntering options scope tag source).run s.registry)) := by
  rw [expandEntering, Session.expandTag, Session.expandUse]
  by_cases hidle : tag.localName ∈ scope.idle
  · have hfresh : tag.localName ∉ s.active := by
      rw [hactive]
      exact ((hfits.mem_idle _).mp hidle).2
    rw [dif_pos hidle, ← hactive]
    by_cases hdepth : s.active.length > options.maxDepth
    · rw [if_pos hdepth]
      refine Steps.single ?_ (List.suffix_refl _)
      rw [Session.run_pure, finish_guarded]
      simp only [State.step, if_neg hfresh, if_pos hdepth, State.refuse]
    · rw [if_neg hdepth]
      let waiting : State := { s with frames := .collecting :: s.frames }
      have hcall : State.step options { s with control := .expandTag tag source } =
          some { waiting with control := .render tag.localName tag.rawAttributes } := by
        simp only [State.step, if_neg hfresh, if_neg hdepth, waiting]
      rw [Session.run_bind]
      rcases hrun : (renderTag tag.localName tag.rawAttributes).run s.registry with ⟨result, registry⟩
      cases result with
      | error e =>
        have hfailed := @steps_failed options waiting _ _ _ _ hrun
        refine Steps.head hcall (List.suffix_cons _ _)
          ((hfailed.mono (List.suffix_cons _ _)).trans (Steps.single ?_ (List.suffix_refl _)))
        dsimp only
        rw [Session.run_pure]
        simp [State.step, State.finish, Outcome.dropped, waiting]
      | ok rendered =>
        obtain ⟨markup, css⟩ := rendered
        have hrendered := @steps_rendered options names scope waiting _ _ _ _ _ hactive hnames
          (hinner _ hidle) hrun
        refine Steps.head hcall (List.suffix_cons _ _)
          ((hrendered.mono (List.suffix_cons _ _)).trans (Steps.single ?_ (List.suffix_refl _)))
        simp only [State.step, State.finish, waiting]
  · have hcycle : tag.localName ∈ s.active := by
      rw [hactive]
      rw [hfits.mem_idle] at hidle
      exact Classical.not_not.mp fun h => hidle ⟨htag, h⟩
    rw [dif_neg hidle, ← hactive]
    refine Steps.single ?_ (List.suffix_refl _)
    rw [Session.run_pure, finish_guarded]
    simp only [State.step, if_pos hcycle, State.refuse]

theorem steps_visit {document : Document} {found : List (StartTag × Placed)}
    (hfits : scope.Fits names) (hfound : ∀ tag ∈ found, tag.1.localName ∈ names)
    (hinner : ∀ name ∈ scope.idle, Simulates options names (scope.enter name))
    (hactive : s.active = scope.active) (hnames : s.registry.names = names)
    (done : List (Nat × List Char)) :
    Steps options s.frames (s.visit document done found)
      (s.finish ((Session.expandRest options scope document done found).run s.registry)) := by
  induction found generalizing s done with
  | nil =>
    have hdone : s.finish ((Session.expandRest options scope document done []).run s.registry) =
        s.visit document done [] := by
      show s.finish (Outcome.replaced document done [], s.registry) = _
      simp [State.visit, State.finish, Outcome.replaced]
    rw [hdone]
    exact .refl
  | cons first found ih =>
    obtain ⟨tag, placed⟩ := first
    let waiting : State := { s with frames := .replacing document done placed found :: s.frames }
    have htag := hfound (tag, placed) List.mem_cons_self
    have hcall := @steps_expandTag options names scope waiting tag placed.node.chars hactive hnames
      hfits htag hinner
    rcases hrun : (expandEntering options scope tag placed.node.chars).run s.registry with
      ⟨outcome, registry⟩
    -- the call of the first tag comes back to the waiting expansion, which goes on with the rest
    rw [show waiting.registry = s.registry from rfl, hrun] at hcall
    let next : State := { waiting.finish (outcome, registry) with frames := s.frames }
    let done' := done ++ [(placed.id, outcome.html)]
    have hresume : (waiting.finish (outcome, registry)).step options =
        some (next.visit document done' found) := rfl
    have hrest := @ih next (fun tag htag => hfound tag (List.mem_cons_of_mem _ htag)) hactive
      (hcall.names.trans hnames) done'
    have hfinish : s.finish ((Session.expandRest options scope document done
        ((tag, placed) :: found)).run s.registry) =
          next.finish ((Session.expandRest options scope document done' found).run registry) := by
      rw [Session.expandRest, Session.expandRest, expandFound_cons]
      simp only [bind_assoc, pure_bind, Session.run_bind, Session.run_pure, hrun]
      simp [State.finish, Outcome.replaced, next, done', waiting, OrderedMap.union_assoc]
    rw [hfinish]
    exact (hcall.mono (List.suffix_cons _ _)).trans
      (.head hresume (next.suffix_frames_visit document done' found) hrest)

end

/-- The machine expands as a session does. -/
theorem simulates (options : Options) {names : List String} {scope : Scope}
    (hfits : scope.Fits names) : Simulates options names scope := by
  intro s html hactive hnames
  -- entering a component leaves fewer of them idle
  have hinner : ∀ name ∈ scope.idle, Simulates options names (scope.enter name) :=
    fun name hname => simulates options hfits.enter
  let document := Document.ofChars html
  let found := document.outermost fun tag => s.registry.contains tag.localName
  have hfound : ∀ tag ∈ found, tag.1.localName ∈ names :=
    hnames ▸ s.registry.mem_names_of_mem_outermost document
  have hvisit := @steps_visit options names scope s document found hfits hfound hinner hactive hnames []
  have hexpand : (Session.expand options scope html).run s.registry =
      (Session.expandRest options scope document [] found).run s.registry := by
    rw [Session.expand_eq_expandFound, Session.expandRest]
    simp only [Session.run_bind, Session.run_get, Outcome.spliced_eq_replaced]
    rfl
  rw [hexpand]
  refine .head ?_ (s.suffix_frames_visit document [] found) hvisit
  exact congrArg some (State.visit_control s (.expand html) document [] found)
termination_by scope.idle.length
decreasing_by exact Scope.length_idle_enter_lt hname

/-- A call from outside. -/
inductive Call where
  | render (name : String) (attributes : RawAttributes)
  | expandHtml (html : String)

namespace Call

def control : Call → Control
  | render name attributes => .render name attributes
  | expandHtml html => .expand html.toList

/-- What a session does on the call. -/
def session (options : Options) : Call → Session (Except Error Output)
  | render name attributes => Session.render options name attributes
  | expandHtml html => return .ok (← Session.expandHtml options html)

/-- The first moment of a run. -/
def start (call : Call) (registry : Registry) : State :=
  ⟨registry, [], OrderedMap.empty, [], [], call.control, []⟩

end Call

/-- The result of a run that has ended. -/
def State.result? (s : State) : Option (Except Error Output) :=
  match s.frames, s.control with
  | [], .returned html => some (.ok (.ofOutcome ⟨html, s.styles, s.errors, s.warnings⟩))
  | [], .failed e => some (.error e)
  | _, _ => none

/-- A warning is recorded for a good reason while the components `active` are being rendered. -/
def Justified (options : Options) (active : List String) : Warning → Prop
  | .cycle name path => path = active ++ [name] ∧ active.count name = 1
  | .depthLimit name limit =>
    limit = options.maxDepth ∧ active.length = options.maxDepth + 1 ∧ name ∉ active

/-- The guards at a moment of a run over the components of a registry. A call that is made then comes
back with a result, and until then the calls that wait for it go on waiting. -/
structure Guarded (options : Options) (registry : Registry) (s : State) : Prop where
  nodup : s.active.Nodup
  subset : s.active ⊆ registry.names
  length_le : s.active.length ≤ min registry.size (options.maxDepth + 1)
  comes_back : s.control.isCall = true →
    ∃ t, Steps options s.frames s t ∧ t.control.isCall = false ∧ t.frames = s.frames ∧
      t.active = s.active
  recorded : ∀ t, s.step options = some t → t.warnings = s.warnings ∨
    ∃ warning, t.warnings = s.warnings ++ [warning] ∧ Justified options s.active warning
  justified : ∀ warning ∈ s.warnings, ∃ active : List String, active.Nodup ∧
    active ⊆ registry.names ∧ Justified options active warning

section
variable {options : Options} {registry : Registry} {s : State}

theorem Call.sound_start (options : Options) (registry : Registry) (call : Call) :
    Sound options registry.names (call.start registry) := by
  refine ⟨rfl, rfl, .nil, List.nil_subset _, Nat.zero_le _, ?_, ?_⟩
  · cases call with
    | render name attributes => exact ⟨List.not_mem_nil, Nat.zero_le _⟩
    | expandHtml html => trivial
  · exact fun frame hframe => absurd hframe List.not_mem_nil

theorem Sound.length_le_min (h : Sound options registry.names s) :
    s.active.length ≤ min registry.size (options.maxDepth + 1) := by
  have hsize := h.nodup.length_le_of_subset h.subset
  rw [registry.length_names] at hsize
  exact Nat.le_min.mpr ⟨hsize, h.length_le⟩

theorem Sound.comes_back (h : Sound options registry.names s) (hcall : s.control.isCall = true) :
    ∃ t, Steps options s.frames s t ∧ t.control.isCall = false ∧ t.frames = s.frames ∧
      t.active = s.active := by
  obtain ⟨scope, hactive, hfits⟩ := Scope.exists_fits registry.entries.nodup_keys s.active
  cases hcontrol : s.control with
  | expand html =>
    have hsteps := simulates options hfits s html hactive.symm h.names_eq
    rw [← hcontrol] at hsteps
    exact ⟨_, hsteps, rfl, rfl, rfl⟩
  | expandTag tag source =>
    have htag := h.control
    rw [hcontrol] at htag
    have hsteps := @steps_expandTag options registry.names scope s tag source hactive.symm h.names_eq
      hfits htag fun name _ => simulates options hfits.enter
    rw [← hcontrol] at hsteps
    exact ⟨_, hsteps, rfl, rfl, rfl⟩
  | render name attributes =>
    rcases hrun : (renderTag name attributes).run s.registry with ⟨result, rendered⟩
    cases result with
    | error e =>
      have hsteps := @steps_failed options s _ _ _ _ hrun
      rw [← hcontrol] at hsteps
      exact ⟨_, hsteps, rfl, rfl, rfl⟩
    | ok result =>
      have hsteps := @steps_rendered options registry.names scope s _ _ _ _ _ hactive.symm h.names_eq
        (simulates options hfits.enter) hrun
      rw [← hcontrol] at hsteps
      exact ⟨_, hsteps, rfl, rfl, rfl⟩
  | returned html | failed e =>
    rw [hcontrol] at hcall
    cases hcall

theorem warnings_visit (s : State) (document : Document) (done : List (Nat × List Char))
    (found : List (StartTag × Placed)) : (s.visit document done found).warnings = s.warnings := by
  cases found <;> rfl

theorem Sound.recorded {names : List String} (h : Sound options names s) (t : State)
    (hstep : s.step options = some t) : t.warnings = s.warnings ∨
      ∃ warning, t.warnings = s.warnings ++ [warning] ∧ Justified options s.active warning := by
  rw [State.step] at hstep
  split at hstep
  · cases hstep
    exact .inl (warnings_visit ..)
  · split at hstep
    · rename_i hcycle
      cases hstep
      exact .inr ⟨_, rfl, rfl, List.count_eq_one_of_mem h.nodup hcycle⟩
    · rename_i hfresh
      split at hstep
      · rename_i hdepth
        cases hstep
        have := h.length_le
        exact .inr ⟨_, rfl, rfl, by omega, hfresh⟩
      · cases hstep
        exact .inl rfl
  · split at hstep <;> cases hstep <;> exact .inl rfl
  · split at hstep
    · cases hstep
      exact .inl (warnings_visit ..)
    · cases hstep
      exact .inl rfl
    · cases hstep
      exact .inl rfl
    · cases hstep
  · split at hstep
    · cases hstep
      exact .inl rfl
    · cases hstep

theorem justified_of_steps {start : State} {base : List Frame}
    (hstart : Sound options registry.names start) (hnone : start.warnings = [])
    (hs : Steps options base start s) : ∀ warning ∈ s.warnings, ∃ active : List String,
      active.Nodup ∧ active ⊆ registry.names ∧ Justified options active warning := by
  induction hs with
  | refl =>
    rw [hnone]
    exact fun warning h => absurd h List.not_mem_nil
  | @tail u v hu hstep ih =>
    have hsound := hstart.steps hu
    rcases hsound.recorded v hstep.1 with hsame | ⟨last, hlast, hjustified⟩
    · rwa [hsame]
    · rw [hlast]
      intro warning hwarning
      rcases List.mem_append.mp hwarning with hwarning | hwarning
      · exact ih warning hwarning
      · rw [List.mem_singleton.mp hwarning]
        exact ⟨u.active, hsound.nodup, hsound.subset, hjustified⟩

theorem Call.result?_finish (call : Call) (registry : Registry) (done : Outcome × Registry) :
    ((call.start registry).finish done).result? = some (.ok (.ofOutcome done.1)) := by
  simp [State.result?, State.finish, Call.start]

theorem exists_result (options : Options) (registry : Registry) (call : Call) :
    ∃ t : State, Steps options [] (call.start registry) t ∧ t.step options = none ∧ t.active = [] ∧
      t.result? = some ((call.session options).run registry).1 ∧
      t.registry = ((call.session options).run registry).2 := by
  have hfits := Scope.fits_outside registry
  cases call with
  | expandHtml html =>
    have hsteps := simulates options hfits (Call.start (.expandHtml html) registry) html.toList rfl rfl
    exact ⟨_, hsteps, rfl, rfl, Call.result?_finish .., rfl⟩
  | render name attributes =>
    rcases hrun : (renderTag name attributes).run registry with ⟨result, rendered⟩
    rw [Call.session, Session.render, Session.run_bind, Session.run_get, Session.run_bind, hrun]
    cases result with
    | error e =>
      have hsteps := @steps_failed options (Call.start (.render name attributes) registry) _ _ _ _ hrun
      exact ⟨_, hsteps, rfl, rfl, rfl, rfl⟩
    | ok result =>
      have hsteps := @steps_rendered options registry.names (.outside registry)
        (Call.start (.render name attributes) registry) _ _ _ _ _ rfl rfl
        (simulates options hfits.enter) hrun
      exact ⟨_, hsteps, rfl, rfl, Call.result?_finish .., rfl⟩

/-- A moment after which nothing comes is reached from every moment of a run. -/
theorem steps_last {start t : State} (ht : Steps options [] start t) (hlast : t.step options = none)
    (hs : Steps options [] start s) : Steps options [] s t := by
  have hunique : Relator.RightUnique fun s t : State =>
      s.step options = some t ∧ ([] : List Frame) <:+ t.frames := by
    intro a b c hb hc
    exact Option.some.inj (hb.1.symm.trans hc.1)
  rcases ReflTransGen.total_of_right_unique hunique hs ht with hst | hts
  · exact hst
  · rcases ReflTransGen.cases_head hts with rfl | ⟨u, hu, -⟩
    · exact .refl
    · rw [hlast] at hu
      cases hu.1

end

/-- The guards of expansion: every run comes to its end and has the result of the session, and at every
moment the components being rendered are distinct, registered and within the limit, a call that is made
comes back with them as they were, and a warning says what they are. -/
theorem run_guarded (options : Options) (registry : Registry) (call : Call) :
    (∃ t : State, t.step options = none ∧
      (∀ s, Steps options [] (call.start registry) s → Steps options [] s t) ∧ t.active = [] ∧
      t.result? = some ((call.session options).run registry).1 ∧
      t.registry = ((call.session options).run registry).2) ∧
    ∀ s, Steps options [] (call.start registry) s → Guarded options registry s := by
  constructor
  · obtain ⟨t, ht, hlast, hactive, hresult, hregistry⟩ := exists_result options registry call
    exact ⟨t, hlast, fun s hs => steps_last ht hlast hs, hactive, hresult, hregistry⟩
  · intro s hs
    have hstart := call.sound_start options registry
    have hsound := hstart.steps hs
    exact ⟨hsound.nodup, hsound.subset, hsound.length_le_min, hsound.comes_back, hsound.recorded,
      justified_of_steps hstart rfl hs⟩

end Machine

end HtmlComponents.Component
