import HtmlComponents.Proofs.Component.Uses
import HtmlComponents.Proofs.Component.History

/-!
# The order of rendering

A run of the machine passes the uses of components one after another. `Call.uses` are those that it
passes, in that order: at every moment the uses still to come are known (`State.toCome`), and a step passes
the first of them or none (`toCome_step`). The css of the output is that of the components rendered among
them.
-/

namespace HtmlComponents.Component

open Document (Piece Placed Located)

namespace Scope

/-- The components of the names `names`, those in `active` being rendered. -/
def among (names active : List String) : Scope := ⟨active, names.filter fun name => decide (name ∉ active)⟩

variable {names active : List String} {name : String}

theorem mem_idle_among : name ∈ (among names active).idle ↔ name ∈ names ∧ name ∉ active := by
  rw [among, List.mem_filter, decide_eq_true_iff]

theorem among_enter (h : names.Nodup) (active : List String) (name : String) :
    (among names active).enter name = among names (active ++ [name]) := by
  rw [enter, among, among, (h.filter _).erase_eq_filter, List.filter_filter]
  congr 1
  refine List.filter_congr fun other _ => ?_
  by_cases hother : other = name <;> simp [hother]

theorem outside_eq_among (registry : Registry) : outside registry = among registry.names [] := by
  rw [outside, among]
  congr 1
  exact (List.filter_eq_self.mpr fun name _ => by simp).symm

end Scope

namespace Library

variable {library : Library} {options : Options}

/-- The uses that rendering a component for given attributes comes to. -/
def renderUses (library : Library) (options : Options) (scope : Scope) (name : String)
    (attributes : RawAttributes) : List Use :=
  match library.renderTag name attributes with
  | .error e => [⟨name, attributes, .dropped e⟩]
  | .ok (markup, css) =>
    ⟨name, attributes, .rendered markup css⟩ :: library.uses options (scope.enter name) markup.chars

/-- The uses that the tag of a component comes to. -/
def tagUses (library : Library) (options : Options) (scope : Scope) (tag : StartTag) : List Use :=
  library.usesFrom options scope tag.localName tag.rawAttributes fun name _ html =>
    library.uses options (scope.enter name) html

theorem flatMap_of_located {start : Nat} {ps : List Piece} {found : List (StartTag × Placed)}
    (h : Located start ps found) (uses : StartTag → List Use) :
    ps.flatMap (usesOf uses) = found.flatMap fun f => uses f.1 := by
  induction h with
  | nil => rfl
  | literal _ ih => exact ih
  | @element tag _ _ _ _ ih => exact congrArg (uses tag ++ ·) ih

theorem uses_eq (library : Library) (options : Options) (scope : Scope) (html : List Char) :
    library.uses options scope html =
      ((Document.ofChars html).outermost fun tag => (library tag.localName).isSome).flatMap fun f =>
        library.tagUses options scope f.1 := by
  rw [uses]
  exact flatMap_of_located (Document.located_outermostAmong none 0 0 (Document.ofChars html).roots) _

end Library

namespace Machine

open Relation (ReflTransGen)

/-- The use that a moment decides on, if it decides on one. -/
def State.decided (options : Options) (s : State) : List Use :=
  match s.control with
  | .expandTag tag _ =>
    if tag.localName ∈ s.active then
      [⟨tag.localName, tag.rawAttributes, .guarded (.cycle tag.localName (s.active ++ [tag.localName]))⟩]
    else if s.active.length > options.maxDepth then
      [⟨tag.localName, tag.rawAttributes, .guarded (.depthLimit tag.localName options.maxDepth)⟩]
    else []
  | .render name attributes =>
    match ((Session.renderTag name attributes).run s.registry).1 with
    | .error e => [⟨name, attributes, .dropped e⟩]
    | .ok (markup, css) => [⟨name, attributes, .rendered markup css⟩]
  | .expand _ | .returned _ | .failed _ => []

/-- A run passes uses, in their order, on its way from one moment to another. -/
inductive Passes (options : Options) : State → List Use → State → Prop
  | refl (s : State) : Passes options s [] s
  | step {s t last : State} {uses : List Use} (h : s.step options = some t)
      (h' : Passes options t uses last) : Passes options s (s.decided options ++ uses) last

/-- The uses that a call comes to. -/
def Control.uses (library : Library) (options : Options) (scope : Scope) : Control → List Use
  | .expand html => library.uses options scope html
  | .expandTag tag _ => library.tagUses options scope tag
  | .render name attributes => library.renderUses options scope name attributes
  | .returned _ | .failed _ => []

/-- The uses that waiting calls are still to come to, in the tags that they have found. -/
def waitingUses (library : Library) (options : Options) (names : List String) : List Frame → List Use
  | [] => []
  | frame :: outer =>
    (frame.found.flatMap fun f => library.tagUses options (.among names (entered outer)) f.1) ++
      waitingUses library options names outer

/-- The uses that are still to come at a moment of a run. -/
def State.toCome (library : Library) (options : Options) (names : List String) (s : State) : List Use :=
  s.control.uses library options (.among names s.active) ++ waitingUses library options names s.frames

section
variable {library : Library} {options : Options} {names : List String} {s t : State}

theorem toCome_visit (hactive : s.active = entered s.frames) (document : Document)
    (done : List (Nat × List Char)) (found : List (StartTag × Placed)) :
    (s.visit document done found).toCome library options names =
      (found.flatMap fun f => library.tagUses options (.among names s.active) f.1) ++
        waitingUses library options names s.frames := by
  cases found with
  | nil => rfl
  | cons first rest =>
    obtain ⟨tag, placed⟩ := first
    rw [State.visit, State.toCome, waitingUses, List.flatMap_cons, List.append_assoc, ← hactive]
    rfl

/-- A step passes the first of the uses to come, or none. -/
theorem toCome_step (h : Sound options names s) (hnodup : names.Nodup)
    (hlibrary : s.registry.definition? = library) (hstep : s.step options = some t) :
    s.toCome library options names = s.decided options ++ t.toCome library options names := by
  rw [State.step] at hstep
  rw [State.toCome, State.decided]
  cases hcontrol : s.control with
  | expand html =>
    rw [hcontrol] at hstep
    cases hstep
    rw [toCome_visit h.active_eq, Control.uses, Library.uses_eq, ← hlibrary]
    simp only [← s.registry.contains_eq_isSome]
    rfl
  | expandTag tag source =>
    rw [hcontrol] at hstep
    have htag := h.control
    rw [hcontrol] at htag
    dsimp only at hstep ⊢
    rw [Control.uses, Library.tagUses, Library.usesFrom]
    split at hstep
    · rename_i hcycle
      cases hstep
      rw [dif_neg fun hidle => (Scope.mem_idle_among.mp hidle).2 hcycle, if_pos hcycle]
      rfl
    · rename_i hfresh
      rw [dif_pos (Scope.mem_idle_among.mpr ⟨htag, hfresh⟩), if_neg hfresh]
      split at hstep
      · rename_i hdepth
        cases hstep
        rw [if_pos hdepth, if_pos (show (Scope.among names s.active).active.length > _ from hdepth)]
        rfl
      · -- what becomes of the component is decided when it is rendered
        rename_i hdepth
        cases hstep
        rw [if_neg hdepth, if_neg (show ¬(Scope.among names s.active).active.length > _ from hdepth)]
        rfl
  | render name attributes =>
    rw [hcontrol] at hstep
    have hresult := Session.fst_renderTag name attributes s.registry
    rw [hlibrary] at hresult
    dsimp only at hstep ⊢
    rw [Control.uses, Library.renderUses, ← hresult]
    split at hstep
    · rename_i hrun
      cases hstep
      rw [hrun]
      rfl
    · rename_i hrun
      cases hstep
      rw [hrun, Scope.among_enter hnodup]
      rfl
  | returned html =>
    rw [hcontrol] at hstep
    dsimp only at hstep ⊢
    rw [Control.uses, List.nil_append, List.nil_append]
    have hactive := h.active_eq
    split at hstep
    · rename_i document done placed rest outer hframes
      cases hstep
      rw [hframes] at hactive ⊢
      rw [toCome_visit hactive, waitingUses, hactive]
      rfl
    · rename_i outer hframes
      cases hstep
      rw [hframes]
      rfl
    · rename_i name outer hframes
      cases hstep
      rw [hframes]
      rfl
    · cases hstep
  | failed e =>
    rw [hcontrol] at hstep
    dsimp only at hstep ⊢
    split at hstep
    · rename_i outer hframes
      cases hstep
      rw [hframes]
      rfl
    · cases hstep

/-- On the way between two moments, what is to come at the first and not at the second is passed. -/
theorem exists_passes (h : Sound options names s) (hnodup : names.Nodup)
    (hlibrary : s.registry.definition? = library) {base : List Frame} (hsteps : Steps options base s t) :
    ∃ uses, Passes options s uses t ∧
      s.toCome library options names = uses ++ t.toCome library options names := by
  induction hsteps using ReflTransGen.head_induction_on with
  | refl => exact ⟨[], .refl t, rfl⟩
  | @head s u hstep _ ih =>
    have hsame : u.registry.definition? = library :=
      (funext (State.same_step hstep.1).definition?).symm.trans hlibrary
    obtain ⟨uses, hpasses, hcome⟩ := ih (h.step hstep.1) hsame
    refine ⟨s.decided options ++ uses, .step hstep.1 hpasses, ?_⟩
    rw [toCome_step h hnodup hlibrary hstep.1, hcome, List.append_assoc]

theorem toCome_of_result? {result : Except Error Output} (h : s.result? = some result) :
    s.toCome library options names = [] := by
  rw [State.result?] at h
  rw [State.toCome]
  split at h
  · rename_i hframes hcontrol
    rw [hframes, hcontrol]
    rfl
  · rename_i hframes hcontrol
    rw [hframes, hcontrol]
    rfl
  · cases h

end

namespace Call

variable {options : Options} {registry : Registry} {call : Call}

theorem toCome_start (options : Options) (registry : Registry) (call : Call) :
    (call.start registry).toCome registry.definition? options registry.names =
      call.uses options registry := by
  rw [State.toCome, start, waitingUses, List.append_nil, ← Scope.outside_eq_among]
  cases call <;> rfl

theorem passes_uses (options : Options) (registry : Registry) (call : Call) :
    ∃ t, Passes options (call.start registry) (call.uses options registry) t ∧ t.step options = none ∧
      t.result? = some ((call.session options).run registry).1 := by
  obtain ⟨t, hsteps, hlast, -, hresult, -⟩ := exists_result options registry call
  have hlibrary : (call.start registry).registry.definition? = registry.definition? := rfl
  obtain ⟨uses, hpasses, hcome⟩ := exists_passes (call.sound_start options registry)
    registry.entries.nodup_keys hlibrary hsteps
  rw [toCome_start, toCome_of_result? hresult, List.append_nil] at hcome
  exact ⟨t, hcome ▸ hpasses, hlast, hresult⟩

end Call

end Machine

/-! ### The style sheet -/

/-- The component was rendered, with success. -/
def Use.isRendered (use : Use) : Bool :=
  match use.verdict with
  | .guarded _ | .dropped _ => false
  | .rendered _ _ => true

theorem map_fst_style? (uses : List Use) :
    (uses.filterMap Use.style?).map Prod.fst = (uses.filter Use.isRendered).map Use.name := by
  induction uses with
  | nil => rfl
  | cons use rest ih =>
    obtain ⟨name, attributes, verdict⟩ := use
    cases verdict with
    | guarded warning => exact ih
    | dropped e => exact ih
    | rendered markup css => exact congrArg (name :: ·) ih

theorem compile_of_renderTag {registry : Registry} {name css : String} {attributes : RawAttributes}
    {markup : Markup} (h : Library.renderTag registry.definition? name attributes = .ok (markup, css)) :
    (registry.compile name).1.map Compiled.css = .ok css := by
  rw [Library.renderTag] at h
  rw [Registry.fst_compile]
  cases hdefinition : registry.definition? name with
  | none =>
    rw [hdefinition] at h
    cases h
  | some definition =>
    rw [hdefinition] at h
    obtain ⟨compiled, -, hcompile, -, -, rfl⟩ := Definition.exists_of_renderTag_eq_ok h
    exact congrArg (Except.map Compiled.css) hcompile

theorem compile_of_style? {registry : Registry} {use : Use} {style : String × String}
    (h : use.Agrees registry.definition?) (hstyle : use.style? = some style) :
    (registry.compile style.1).1.map Compiled.css = .ok style.2 := by
  obtain ⟨name, attributes, verdict⟩ := use
  cases verdict with
  | guarded warning => cases hstyle
  | dropped e => cases hstyle
  | rendered markup css =>
    cases hstyle
    exact compile_of_renderTag h

open Machine (Call Passes)

/-- The css is that of the components, each that is not empty on lines of its own. -/
def Registry.HasCss (registry : Registry) (names : List String) (css : String) : Prop :=
  ∃ sheets : List String,
    names.map (fun name => (registry.compile name).1.map Compiled.css) = sheets.map .ok ∧
      css = "\n".intercalate (sheets.filter fun css => !css.isEmpty)

/-- The components that are rendered in a call, each once, in the order of their first rendering. -/
def Machine.Call.contributors (options : Options) (registry : Registry) (call : Call) : List String :=
  (((call.uses options registry).filter Use.isRendered).map Use.name).eraseDups

theorem hasCss_contributors {options : Options} {registry : Registry} {call : Call} {output : Output}
    (h : ((call.session options).run registry).1 = .ok output) :
    registry.HasCss (call.contributors options registry) output.css := by
  obtain ⟨outcome, rfl, hrecords⟩ := Call.records_call h
  have hagrees := Call.agrees_call options registry call
  refine ⟨outcome.styles.values, ?_, rfl⟩
  rw [hrecords.styles, Call.contributors, ← map_fst_style?, ← OrderedMap.keys_ofListFirst, OrderedMap.keys,
    OrderedMap.values, List.map_map, List.map_map]
  refine List.map_congr_left fun entry hentry => ?_
  -- every entry comes from a use that was rendered
  have hpair := OrderedMap.subset_entries_ofListFirst _ hentry
  obtain ⟨use, huse, hstyle⟩ := List.mem_filterMap.mp hpair
  exact compile_of_style? (hagrees use huse) hstyle

/-- The css of an output is the css of the components that were rendered during the call, each once, in the
order of their first rendering. Uses that were only guarded, or dropped for an error, add nothing. -/
theorem css_of_call (options : Options) (registry : Registry) (call : Call) {output : Output}
    (h : ((call.session options).run registry).1 = .ok output) :
    ∃ (last : Machine.State) (uses : List Use) (sheets : List String),
      Passes options (call.start registry) uses last ∧ last.step options = none ∧
        last.result? = some (.ok output) ∧ uses = call.uses options registry ∧
        ((uses.filter Use.isRendered).map Use.name).eraseDups.map
            (fun name => (registry.compile name).1.map Compiled.css) = sheets.map .ok ∧
        output.css = "\n".intercalate (sheets.filter fun css => !css.isEmpty) := by
  obtain ⟨last, hpasses, hlast, hresult⟩ := call.passes_uses options registry
  obtain ⟨sheets, hsheets, hcss⟩ := hasCss_contributors h
  exact ⟨last, _, sheets, hpasses, hlast, h ▸ hresult, rfl, hsheets, hcss⟩

def badge : Definition where
  name := "badge"
  styles := OrderedMap.ofList [("dot", "color: red;")]
  routes := OrderedMap.empty
  render := some fun _ _ => .done (.ok (Element.ofTag "b").toMarkup)
  properties := .inferred

/-- A component with a style that fails. -/
def mute : Definition where
  name := "mute"
  styles := OrderedMap.ofList [("dot", "color: grey;")]
  routes := OrderedMap.empty
  render := some fun _ _ => .done (.error (.failed "no title"))
  properties := .declared Property.Schema.empty

/-- A component without a style, around another. -/
def sleeve : Definition where
  name := "sleeve"
  styles := OrderedMap.empty
  routes := OrderedMap.empty
  render := some fun _ _ => .done (.ok (Element.ofTag "badge").toMarkup)
  properties := .inferred

/-- A component with all others and itself in its HTML. -/
def shelf : Definition where
  name := "shelf"
  styles := OrderedMap.ofList [("row", "margin: 0;")]
  routes := OrderedMap.empty
  render := some fun _ _ => .done (.ok (.fragment
    [(Element.ofTag "mute").toMarkup, (Element.ofTag "sleeve").toMarkup, (Element.ofTag "badge").toMarkup,
      (Element.ofTag "shelf").toMarkup]))
  properties := .inferred

def shelves : Registry :=
  ((((Registry.empty .standard).setEntry (.ofDefinition badge) (by decide +kernel)).setEntry
    (.ofDefinition mute) (by decide +kernel)).setEntry (.ofDefinition sleeve) (by decide +kernel)).setEntry
      (.ofDefinition shelf) (by decide +kernel)

theorem css_of_call_shelf :
    let call : Call := .render "shelf" OrderedMap.empty
    let output : Output := ⟨"<b></b><b></b><!-- sprig:cycle shelf -> shelf -->",
      ".row \x7b margin: 0; \x7d\n.dot \x7b color: red; \x7d", [.failed "mute" "no title"],
      [.cycle "shelf" ["shelf", "shelf"]]⟩
    ((call.session .standard).run shelves).1 = .ok output ∧
      ∃ last uses, Passes .standard (call.start shelves) uses last ∧ last.result? = some (.ok output) ∧
        (uses.filter Use.isRendered).map Use.name = ["shelf", "sleeve", "badge", "badge"] := by
  intro call output
  have houtput : ((call.session .standard).run shelves).1 = .ok output := by
    rw [Call.session, Session.fst_render]
    decide +kernel
  obtain ⟨last, uses, -, hpasses, -, hresult, huses, -, -⟩ := css_of_call .standard shelves call houtput
  refine ⟨houtput, last, uses, hpasses, hresult, ?_⟩
  rw [huses]
  decide +kernel

end HtmlComponents.Component
