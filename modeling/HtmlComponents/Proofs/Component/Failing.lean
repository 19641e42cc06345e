import HtmlComponents.Proofs.Component.Uses

/-!
# Components that fail

A component that fails on every use shows nowhere but in its errors: with a component in its place that
renders nothing, everything else in an output stays as it is (`output_of_failing`).
-/

namespace HtmlComponents.Component

open Document (Piece pieces)

namespace Definition

variable {definition : Definition} {attributes : RawAttributes} {e : Error}

/-- The component has no styles and renders nothing. Its routes do not matter. -/
structure IsBlank (definition : Definition) : Prop where
  unstyled : definition.styles = OrderedMap.empty
  renders : ∀ attributes, ∃ markup css,
    definition.renderTag definition.name attributes = .ok (markup, css) ∧ markup.chars = []

/-- The component fails on every use. -/
def Fails (definition : Definition) : Prop :=
  ∀ attributes, ∃ e, definition.renderTag definition.name attributes = .error e

theorem component_of_prepare (h : definition.prepare = .error e) : e.component = definition.name := by
  unfold prepare at h
  split at h
  · cases h
    rfl
  · split at h
    · cases h
      rfl
    · cases h

theorem component_of_schema {api : Route.Api} {classes : Style.ClassMap}
    (h : (definition.schema api classes).1 = .error e) : e.component = definition.name := by
  unfold schema inferSchema at h
  split at h
  · split at h
    · cases h
    · rename_i failure _ _ _
      cases h
      cases failure <;> rfl
  · cases h
  · cases h

theorem component_of_compile (h : definition.compile = .error e) : e.component = definition.name := by
  rcases cases_of_compile_eq_error h with hprepare | ⟨sheet, router, -, hschema⟩
  · exact component_of_prepare hprepare
  · exact component_of_schema hschema

theorem component_of_props {schema : Property.Schema} (h : definition.props schema attributes = .error e) :
    e.component = definition.name := by
  unfold props at h
  dsimp only at h
  split at h
  · cases h
  · cases h
    rfl

theorem component_of_renderTag (h : definition.renderTag definition.name attributes = .error e) :
    e.component = definition.name := by
  rcases cases_of_renderTag_eq_error h with
    hcompile | ⟨compiled, -, hprops⟩ | ⟨compiled, props, failure, -, -, -, rfl⟩
  · exact component_of_compile hcompile
  · exact component_of_props hprops
  · cases failure <;> rfl

theorem css_of_compile {compiled : Compiled} (h : definition.styles = OrderedMap.empty)
    (hcompile : definition.compile = .ok compiled) : compiled.css = "" := by
  obtain ⟨sheet, router, schema, hprepare, -, rfl⟩ := exists_of_compile_eq_ok hcompile
  have hsheet : Style.compile OrderedMap.empty = .ok ⟨"", OrderedMap.empty⟩ := rfl
  rw [prepare, h, hsheet] at hprepare
  dsimp only at hprepare
  split at hprepare
  · cases hprepare
  · cases hprepare
    rfl

end Definition

/-- The output without the errors of a component. -/
def Output.without (output : Output) (name : String) : Output :=
  { output with errors := output.errors.filter fun e => e.component ≠ name }

namespace Outcome

/-- `filled` is the outcome in the place of `bare` when tags of the component `c` render nothing instead of
being dropped. -/
structure Mended (c : String) (bare filled : Outcome) : Prop where
  html : filled.html = bare.html
  errors : filled.errors = bare.errors.filter fun e => e.component ≠ c
  warnings : filled.warnings = bare.warnings
  styles : filled.styles.without c = bare.styles
  unstyled : ∀ css, (c, css) ∈ filled.styles.entries → css = ""

namespace Mended

variable {c : String} {bare filled bare' filled' : Outcome}

theorem literal (s : List Char) : Mended c (.literal s) (.literal s) :=
  ⟨rfl, rfl, rfl, rfl, fun _ h => nomatch h⟩

theorem guarded (options : Options) (warning : Warning) (source : List Char) :
    Mended c (.guarded options warning source) (.guarded options warning source) :=
  ⟨rfl, rfl, rfl, rfl, fun _ h => nomatch h⟩

theorem append (h : Mended c bare filled) (h' : Mended c bare' filled') :
    Mended c (bare.append bare') (filled.append filled') := by
  refine ⟨?_, ?_, ?_, ?_, fun css hmem => ?_⟩
  · rw [Outcome.append, Outcome.append, h.html, h'.html]
  · rw [Outcome.append, Outcome.append, List.filter_append, h.errors, h'.errors]
  · rw [Outcome.append, Outcome.append, h.warnings, h'.warnings]
  · rw [Outcome.append, Outcome.append, OrderedMap.without_union, h.styles, h'.styles]
  · rw [Outcome.append, OrderedMap.entries_union, List.mem_append] at hmem
    rcases hmem with hmem | hmem
    · exact h.unstyled css hmem
    · exact h'.unstyled css (List.mem_filter.mp hmem).1

theorem dropped {e : Error} (h : e.component ≠ c) : Mended c (.dropped e) (.dropped e) := by
  refine ⟨rfl, ?_, rfl, rfl, fun _ hmem => nomatch hmem⟩
  simp [Outcome.dropped, h]

theorem blank {e : Error} (h : e.component = c) :
    Mended c (.dropped e) (.styled c "" (.literal [])) := by
  refine ⟨rfl, ?_, rfl, ?_, fun css hmem => ?_⟩
  · simp [Outcome.dropped, Outcome.styled, Outcome.literal, h]
  · exact OrderedMap.without_insert_empty c ""
  · cases List.mem_singleton.mp hmem
    rfl

theorem styled {name : String} (hname : name ≠ c) (css : String) (h : Mended c bare filled) :
    Mended c (.styled name css bare) (.styled name css filled) := by
  refine ⟨h.html, h.errors, h.warnings, ?_, fun other hmem => ?_⟩
  · have hkeys : c ∉ (OrderedMap.empty.insert name css).keys := by
      rw [OrderedMap.keys, OrderedMap.entries_insert_empty]
      simpa using Ne.symm hname
    rw [Outcome.styled, Outcome.styled, OrderedMap.without_union, OrderedMap.without_of_notMem hkeys, h.styles]
  · rw [Outcome.styled, OrderedMap.entries_union, List.mem_append] at hmem
    rcases hmem with hmem | hmem
    · cases List.mem_singleton.mp hmem
      exact absurd rfl hname
    · exact h.unstyled other (List.mem_filter.mp hmem).1

end Mended

theorem Mended.output {c : String} {bare filled : Outcome} (h : Mended c bare filled) :
    Output.ofOutcome filled = (Output.ofOutcome bare).without c := by
  have hvalues : filled.styles.values.filter (fun css => !css.isEmpty) =
      bare.styles.values.filter fun css => !css.isEmpty := by
    rw [← h.styles, OrderedMap.values, OrderedMap.values, List.filter_map, List.filter_map]
    congr 1
    rw [OrderedMap.without, List.filter_filter]
    refine List.filter_congr fun entry hentry => ?_
    by_cases hname : entry.1 = c
    · -- the css of the component is empty, and the output leaves it out
      have hcss : entry.2 = "" := h.unstyled entry.2 (hname ▸ hentry)
      simp [hcss]
    · have hbne : (entry.1 != c) = true := bne_iff_ne.mpr hname
      simp [hbne]
  rw [Output.ofOutcome, hvalues, h.html, h.errors, h.warnings]
  rfl

end Outcome

/-- Every component stands under its own name. -/
def Library.Named (library : Library) : Prop :=
  ∀ name definition, library name = some definition → definition.name = name

theorem Library.Named.component {library : Library} (h : library.Named) {name : String}
    {attributes : RawAttributes} {e : Error} (herror : library.renderTag name attributes = .error e) :
    e.component = name := by
  rw [Library.renderTag] at herror
  split at herror
  · cases herror
    rfl
  · rename_i definition hdefinition
    obtain rfl := h name definition hdefinition
    exact definition.component_of_renderTag herror

/-- The errors of a component are those of its dropped uses. -/
theorem Library.Named.filter_errors {library : Library} (h : library.Named) (c : String) {uses : List Use}
    (huses : ∀ use ∈ uses, use.Agrees library) :
    (uses.filterMap Use.error?).filter (fun e => e.component = c) =
      (uses.filter fun use => use.name = c).filterMap Use.error? := by
  rw [List.filter_filterMap, List.filterMap_filter]
  refine List.filterMap_congr fun use huse => ?_
  obtain ⟨name, attributes, verdict⟩ := use
  cases verdict with
  | dropped e =>
    have hname : e.component = name := h.component (huses _ huse)
    simp only [Use.error?, Option.filter, hname]
  | guarded | rendered => simp [Use.error?]

/-- `library'` has a component that renders nothing where `library` has the failing component `c`. -/
structure Library.Mended (c : String) (library library' : Library) : Prop where
  others : ∀ name, name ≠ c → library' name = library name
  defined : (library c).isSome = true
  defined' : (library' c).isSome = true
  named : library.Named
  fails : ∀ attributes, ∃ e, library.renderTag c attributes = .error e
  renders : ∀ attributes, ∃ markup, library'.renderTag c attributes = .ok (markup, "") ∧ markup.chars = []

namespace Library

variable {c : String} {library library' : Library} {options : Options}

theorem Mended.isSome (h : Mended c library library') (name : String) :
    (library' name).isSome = (library name).isSome := by
  by_cases hname : name = c
  · rw [hname, h.defined, h.defined']
  · rw [h.others name hname]

theorem Mended.renderTag (h : Mended c library library') {name : String} (hname : name ≠ c)
    (attributes : RawAttributes) : library'.renderTag name attributes = library.renderTag name attributes := by
  rw [Library.renderTag, Library.renderTag, h.others name hname]

theorem outcome_nil (scope : Scope) : library.outcome options scope [] = .literal [] := by
  rw [outcome, Document.ofChars, Document.tokens]
  rfl

theorem mended_useOutcome (h : Mended c library library') {scope : Scope} (name : String)
    (attributes : RawAttributes) (source : List Char)
    {inner inner' : (name : String) → name ∈ scope.idle → List Char → Outcome}
    (hinner : ∀ name h html, Outcome.Mended c (inner name h html) (inner' name h html))
    (hnil : ∀ name h, inner' name h [] = .literal []) :
    Outcome.Mended c (library.useOutcome options scope name attributes source inner)
      (library'.useOutcome options scope name attributes source inner') := by
  unfold useOutcome
  split
  · rename_i hidle
    split
    · exact .guarded ..
    · by_cases hname : name = c
      · -- dropped here, rendered as nothing there; both come back to the text around the tag
        subst hname
        obtain ⟨e, herror⟩ := h.fails attributes
        obtain ⟨markup, hrender, hchars⟩ := h.renders attributes
        simp only [herror, hrender, hchars, hnil]
        exact .blank (h.named.component herror)
      · rw [h.renderTag hname]
        cases hrender : library.renderTag name attributes with
        | error e => exact .dropped (h.named.component hrender ▸ hname)
        | ok rendered => exact .styled hname rendered.2 (hinner name hidle rendered.1.chars)
  · exact .guarded ..

theorem mended_concat {use use' : StartTag → List Char → Outcome}
    (h : ∀ tag source, Outcome.Mended c (use tag source) (use' tag source)) (ps : List Piece) :
    Outcome.Mended c (.concat (ps.map (Session.pieceOutcome use)))
      (.concat (ps.map (Session.pieceOutcome use'))) := by
  induction ps with
  | nil => exact .literal []
  | cons piece rest ih =>
    cases piece with
    | literal s => exact (Outcome.Mended.literal s).append ih
    | element tag source => exact (h tag source).append ih

theorem mended_outcome (options : Options) (h : Mended c library library') (scope : Scope) (html : List Char) :
    Outcome.Mended c (library.outcome options scope html) (library'.outcome options scope html) := by
  have haccepts : (fun tag : StartTag => (library' tag.localName).isSome) =
      fun tag => (library tag.localName).isSome := funext fun tag => h.isSome tag.localName
  rw [outcome, outcome, haccepts]
  refine mended_concat (fun tag source => ?_) _
  refine mended_useOutcome h tag.localName tag.rawAttributes source (fun name hidle html => ?_)
    fun name hidle => outcome_nil _
  exact mended_outcome options h (scope.enter name) html
termination_by scope.idle.length
decreasing_by exact Scope.length_idle_enter_lt hidle

end Library

/-! ### Calls -/

section
variable {registry registry' : Registry} {definition blank : Definition}

theorem Registry.named_definition? (registry : Registry) : Library.Named registry.definition? := by
  intro name definition h
  obtain ⟨entry, hentry, rfl⟩ := Option.map_eq_some_iff.mp h
  exact (registry.named name entry hentry).1

theorem Registry.mended_register (hdefinition : registry.definition? definition.name = some definition)
    (hfails : definition.Fails) (hblank : blank.IsBlank) (hname : blank.name = definition.name)
    (hregister : registry.register blank = .ok registry') :
    Library.Mended definition.name registry.definition? registry'.definition? ∧
      Scope.outside registry' = Scope.outside registry := by
  obtain ⟨hvalid, rfl⟩ := register_eq_ok hregister
  have hmem : blank.name ∈ registry.names := by
    rw [hname]
    exact mem_names_of_definition? hdefinition
  have hlookup (name : String) : (registry.setEntry (.ofDefinition blank) hvalid).definition? name =
      if name = definition.name then some blank else registry.definition? name := by
    rw [← hname]
    exact definition?_setEntry registry (.ofDefinition blank) hvalid name
  refine ⟨⟨fun name hne => ?_, ?_, ?_, registry.named_definition?, fun attributes => ?_,
    fun attributes => ?_⟩, ?_⟩
  · rw [hlookup, if_neg hne]
  · rw [hdefinition]
    rfl
  · rw [hlookup, if_pos rfl]
    rfl
  · rw [Library.renderTag, hdefinition]
    exact hfails attributes
  · obtain ⟨markup, css, hrender, hchars⟩ := hblank.renders attributes
    obtain ⟨compiled, -, hcompile, -, -, rfl⟩ := Definition.exists_of_renderTag_eq_ok hrender
    rw [Definition.css_of_compile hblank.unstyled hcompile] at hrender
    rw [Library.renderTag, hlookup, if_pos rfl, ← hname]
    exact ⟨markup, hrender, hchars⟩
  · rw [Scope.outside, Scope.outside, @names_setEntry registry (.ofDefinition blank) hvalid hmem]

/-- A component that fails on every use is as good as one that renders nothing, but for its errors: in every
call that does not ask for the component itself, nothing else of the output changes, and its errors are
those of its dropped tags, one for each. -/
theorem output_of_failing (options : Options)
    (hdefinition : registry.definition? definition.name = some definition) (hfails : definition.Fails)
    (hblank : blank.IsBlank) (hname : blank.name = definition.name)
    (hregister : registry.register blank = .ok registry') (call : Machine.Call)
    (hcall : ∀ attributes, call ≠ .render definition.name attributes) :
    ((call.session options).run registry').1 =
        ((call.session options).run registry).1.map (fun output => output.without definition.name) ∧
      ∀ output, ((call.session options).run registry).1 = .ok output →
        output.errors.filter (fun e => e.component = definition.name) =
          ((call.uses options registry).filter fun use => use.name = definition.name).filterMap
            Use.error? := by
  obtain ⟨hmended, hscope⟩ := Registry.mended_register hdefinition hfails hblank hname hregister
  refine ⟨?_, fun output houtput => ?_⟩
  · cases call with
    | expandHtml html =>
      have houtcome := Library.mended_outcome options hmended (Scope.outside registry) html.toList
      rw [Machine.Call.session, Session.run_bind, Session.run_bind, Session.fst_expandHtml,
        Session.fst_expandHtml, hscope, houtcome.output]
      rfl
    | render name attributes =>
      have hne : name ≠ definition.name := fun heq => hcall attributes (heq ▸ rfl)
      rw [Machine.Call.session, Session.fst_render, Session.fst_render, hscope, hmended.renderTag hne]
      cases Library.renderTag registry.definition? name attributes with
      | error e => rfl
      | ok rendered =>
        have houtcome := Library.mended_outcome options hmended
          ((Scope.outside registry).enter name) rendered.1.chars
        exact congrArg Except.ok (houtcome.styled hne rendered.2).output
  · obtain ⟨outcome, rfl, hrecords⟩ := Machine.Call.records_call houtput
    have hagrees := Machine.Call.agrees_call options registry call
    rw [Output.ofOutcome, hrecords.errors]
    exact registry.named_definition?.filter_errors definition.name hagrees

end

/-- A component with a style that accepts no attributes. -/
def picky : Definition where
  name := "picky"
  styles := OrderedMap.ofList [("box", "color: red;")]
  routes := OrderedMap.empty
  render := some fun _ _ => .done (.ok (.text "rendered"))
  properties := .transformed fun _ => .error ⟨"size", .number, "none"⟩

/-- A component with two tags of the other in its HTML. -/
def pair : Definition where
  name := "pair"
  styles := OrderedMap.empty
  routes := OrderedMap.empty
  render := some fun _ _ => .done (.ok (.fragment
    [(Element.ofTag "picky").toMarkup, .text "and", (Element.ofTag "picky").toMarkup]))
  properties := .inferred

def pickyBlank : Definition := ⟨"picky", OrderedMap.empty, OrderedMap.empty, none, .inferred⟩

def pairs : Registry :=
  ((Registry.empty .standard).setEntry (.ofDefinition picky) (by decide +kernel)).setEntry
    (.ofDefinition pair) (by decide +kernel)

theorem output_of_failing_picky :
    pairs.definition? picky.name = some picky ∧ picky.Fails ∧ pickyBlank.IsBlank ∧
      pickyBlank.name = picky.name ∧ ∃ replaced, pairs.register pickyBlank = .ok replaced ∧
        ((Machine.Call.session .standard (.render "pair" OrderedMap.empty)).run replaced).1 =
          .ok ⟨"and", "", [], []⟩ := by
  have hfails : picky.Fails := fun attributes => ⟨.propertyType "picky" ⟨"size", .number, "none"⟩, rfl⟩
  have hblank : pickyBlank.IsBlank := ⟨rfl, fun _ => ⟨Markup.empty, "", rfl, rfl⟩⟩
  refine ⟨rfl, hfails, hblank, rfl, _, rfl, ?_⟩
  refine (output_of_failing .standard rfl hfails hblank rfl rfl _ ?_).1.trans ?_
  · intro attributes h
    injection h with hname
    exact absurd hname (by decide)
  · rw [Machine.Call.session, Session.fst_render]
    decide +kernel

end HtmlComponents.Component
