import HtmlComponents.Proofs.Component.Depth

/-!
# Tags that are left

What an expansion writes falls into texts and tags that the guards have stopped (`Library.parts`), and which it
falls into does not hang on whether a marker is put in the place of such a tag. So the two ways of writing them
are two readings of one list, and nothing else of an output tells them apart (`markers_presentational`).
-/

namespace HtmlComponents.Component

open Document (Piece pieces)

/-- The same options, with or without markers. -/
def Options.marked (options : Options) (markers : Bool) : Options := { options with markers }

/-- A part of what an expansion writes. -/
inductive Part where
  | text (s : List Char)
  /-- A tag that a guard has stopped, with the text that it is written in. -/
  | stopped (warning : Warning) (tag : StartTag) (source : List Char)

namespace Part

/-- How a part is written: the tag itself stands for a tag that was stopped, unless a marker does. -/
def html (markers : Bool) : Part → List Char
  | text s => s
  | stopped warning _ source => if markers then warning.marker.toList else source

def warning? : Part → Option Warning
  | text _ => none
  | stopped warning _ _ => some warning

end Part

/-- What an outcome writes and warns of is read off parts in their order. -/
structure Written (markers : Bool) (outcome : Outcome) (parts : List Part) : Prop where
  html : outcome.html = parts.flatMap (Part.html markers)
  warnings : outcome.warnings = parts.filterMap Part.warning?

namespace Written

variable {markers : Bool} {outcome other : Outcome} {parts others : List Part}

theorem literal (markers : Bool) (s : List Char) : Written markers (.literal s) [.text s] :=
  ⟨(List.append_nil s).symm, rfl⟩

theorem nil (markers : Bool) : Written markers (.literal []) [] := ⟨rfl, rfl⟩

theorem append (h : Written markers outcome parts) (h' : Written markers other others) :
    Written markers (outcome.append other) (parts ++ others) := by
  refine ⟨?_, ?_⟩
  · rw [Outcome.append, List.flatMap_append, h.html, h'.html]
  · rw [Outcome.append, List.filterMap_append, h.warnings, h'.warnings]

theorem guarded (options : Options) (warning : Warning) (tag : StartTag) (source : List Char) :
    Written options.markers (.guarded options warning source) [.stopped warning tag source] :=
  ⟨(List.append_nil _).symm, rfl⟩

theorem dropped (markers : Bool) (e : Error) : Written markers (.dropped e) [] := ⟨rfl, rfl⟩

theorem styled (name css : String) (h : Written markers outcome parts) :
    Written markers (.styled name css outcome) parts := ⟨h.html, h.warnings⟩

end Written

namespace Library

/-- The parts that the tag of a component comes to, with those of the HTML that the component renders. -/
def partsFrom (library : Library) (depth : Nat) (scope : Scope) (tag : StartTag) (source : List Char)
    (inner : (name : String) → name ∈ scope.idle → List Char → List Part) : List Part :=
  if h : tag.localName ∈ scope.idle then
    if scope.active.length > depth then [.stopped (.depthLimit tag.localName depth) tag source]
    else
      match library.renderTag tag.localName tag.rawAttributes with
      | .error _ => []
      | .ok (markup, _) => inner tag.localName h markup.chars
  else [.stopped (.cycle tag.localName (scope.active ++ [tag.localName])) tag source]

def partsOf (parts : StartTag → List Char → List Part) : Piece → List Part
  | .literal s => [.text s]
  | .element tag source => parts tag source

/-- The parts that HTML comes to when the tags of components are expanded. -/
def parts (library : Library) (depth : Nat) (scope : Scope) (html : List Char) : List Part :=
  (pieces (fun tag => (library tag.localName).isSome) (Document.ofChars html).roots).flatMap
    (partsOf fun tag source => library.partsFrom depth scope tag source fun name _h html =>
      library.parts depth (scope.enter name) html)
termination_by scope.idle.length
decreasing_by exact Scope.length_idle_enter_lt _h

variable {library : Library} {options : Options}

theorem written_useOutcome {scope : Scope} (tag : StartTag) (source : List Char)
    {inner : (name : String) → name ∈ scope.idle → List Char → Outcome}
    {parts : (name : String) → name ∈ scope.idle → List Char → List Part}
    (hinner : ∀ name h html, Written options.markers (inner name h html) (parts name h html)) :
    Written options.markers
      (library.useOutcome options scope tag.localName tag.rawAttributes source inner)
      (library.partsFrom options.maxDepth scope tag source parts) := by
  unfold useOutcome partsFrom
  split
  · rename_i hidle
    split
    · exact .guarded options _ tag source
    · cases library.renderTag tag.localName tag.rawAttributes with
      | error e => exact .dropped options.markers e
      | ok rendered => exact (hinner tag.localName hidle rendered.1.chars).styled tag.localName rendered.2
  · exact .guarded options _ tag source

theorem written_concat {markers : Bool} {use : StartTag → List Char → Outcome}
    {parts : StartTag → List Char → List Part}
    (h : ∀ tag source, Written markers (use tag source) (parts tag source)) (ps : List Piece) :
    Written markers (.concat (ps.map (Session.pieceOutcome use))) (ps.flatMap (partsOf parts)) := by
  induction ps with
  | nil => exact .nil markers
  | cons piece rest ih =>
    cases piece with
    | literal s => exact (Written.literal markers s).append ih
    | element tag source => exact (h tag source).append ih

theorem written_outcome (scope : Scope) (html : List Char) :
    Written options.markers (library.outcome options scope html) (library.parts options.maxDepth scope html) := by
  rw [outcome, parts]
  refine written_concat (fun tag source => written_useOutcome tag source fun name h html => ?_) _
  exact written_outcome (scope.enter name) html
termination_by scope.idle.length
decreasing_by exact Scope.length_idle_enter_lt h

theorem usesFrom_congr {scope : Scope} (name : String) (attributes : RawAttributes) (markers : Bool)
    {inner inner' : (name : String) → name ∈ scope.idle → List Char → List Use}
    (hinner : ∀ name h html, inner name h html = inner' name h html) :
    library.usesFrom (options.marked markers) scope name attributes inner =
      library.usesFrom options scope name attributes inner' := by
  unfold usesFrom
  split
  · rename_i hidle
    simp only [hinner]
    rfl
  · rfl

/-- Whether there are markers does not show in what expansion comes to. -/
theorem uses_marked (markers : Bool) (scope : Scope) (html : List Char) :
    library.uses (options.marked markers) scope html = library.uses options scope html := by
  rw [uses, uses]
  congr 2
  funext tag
  exact usesFrom_congr tag.localName tag.rawAttributes markers fun name h html =>
    uses_marked markers (scope.enter name) html
termination_by scope.idle.length
decreasing_by exact Scope.length_idle_enter_lt h

end Library

/-- The HTML of a use that is rendered. -/
def Use.html? (use : Use) : Option (List Char) :=
  match use.verdict with
  | .rendered markup _ => some markup.chars
  | _ => none

/-- A tag that was stopped stands in one of the texts, for the component of the warning, and the part has the whole
source of its element. -/
def Part.IsFrom (library : Library) (texts : List (List Char)) : Part → Prop
  | .text _ => True
  | .stopped warning tag source => warning.component = tag.localName ∧ ∃ html ∈ texts,
      .element tag source ∈ pieces (fun tag => (library tag.localName).isSome) (Document.ofChars html).roots

theorem Part.IsFrom.mono {library : Library} {texts others : List (List Char)} {part : Part}
    (h : part.IsFrom library texts) (hsub : texts ⊆ others) : part.IsFrom library others := by
  cases part with
  | text s => trivial
  | stopped warning tag source =>
    obtain ⟨hcomponent, html, hmem, hpiece⟩ := h
    exact ⟨hcomponent, html, hsub hmem, hpiece⟩

namespace Library

variable {library : Library} {options : Options}

/-- HTML, and that of the uses of components that expanding it comes to. -/
def texts (library : Library) (options : Options) (scope : Scope) (html : List Char) : List (List Char) :=
  html :: (library.uses options scope html).filterMap Use.html?

theorem isFrom_partsFrom {scope : Scope} {tag : StartTag} {source : List Char} {texts : List (List Char)}
    (htag : ∃ html ∈ texts, .element tag source ∈
      pieces (fun tag => (library tag.localName).isSome) (Document.ofChars html).roots)
    {parts : (name : String) → name ∈ scope.idle → List Char → List Part}
    {uses : (name : String) → name ∈ scope.idle → List Char → List Use}
    (hinner : ∀ name h html, ∀ part ∈ parts name h html,
      part.IsFrom library (html :: (uses name h html).filterMap Use.html?))
    (huses : (library.usesFrom options scope tag.localName tag.rawAttributes uses).filterMap Use.html? ⊆ texts) :
    ∀ part ∈ library.partsFrom options.maxDepth scope tag source parts, part.IsFrom library texts := by
  unfold usesFrom at huses
  unfold partsFrom
  split
  · rename_i hidle
    rw [dif_pos hidle] at huses
    split
    · exact List.forall_mem_singleton.mpr ⟨rfl, htag⟩
    · rename_i hdepth
      rw [if_neg hdepth] at huses
      cases hrender : library.renderTag tag.localName tag.rawAttributes with
      | error e => exact List.forall_mem_nil _
      | ok rendered =>
        rw [hrender] at huses
        exact fun part hpart => (hinner tag.localName hidle rendered.1.chars part hpart).mono huses
  · exact List.forall_mem_singleton.mpr ⟨rfl, htag⟩

/-- Every tag that is stopped stands, as it is written, in a text that is expanded. -/
theorem isFrom_parts (scope : Scope) (html : List Char) :
    ∀ part ∈ library.parts options.maxDepth scope html, part.IsFrom library (library.texts options scope html) := by
  rw [parts, List.forall_mem_flatMap]
  intro piece hpiece
  cases piece with
  | literal s => exact List.forall_mem_singleton.mpr trivial
  | element tag source =>
    refine isFrom_partsFrom ⟨html, List.mem_cons_self, hpiece⟩
      (fun name h html => isFrom_parts (scope.enter name) html) ?_
    -- the uses of a piece are among those of the whole
    refine List.Subset.trans (List.filterMap_subset _ ?_) (List.subset_cons_self _ _)
    rw [uses]
    exact fun use huse => List.mem_flatMap.mpr ⟨_, hpiece, huse⟩
termination_by scope.idle.length
decreasing_by exact Scope.length_idle_enter_lt h

end Library

namespace Machine.Call

def parts (depth : Nat) (registry : Registry) : Call → List Part
  | .expandHtml html => Library.parts registry.definition? depth (Scope.outside registry) html.toList
  | .render name attributes =>
    match Library.renderTag registry.definition? name attributes with
    | .error _ => []
    | .ok (markup, _) =>
      Library.parts registry.definition? depth ((Scope.outside registry).enter name) markup.chars

/-- The HTML that a call is given, and that of the uses of components it comes to. -/
def texts (options : Options) (registry : Registry) (call : Call) : List (List Char) :=
  (match call with
    | .expandHtml html => [html.toList]
    | .render _ _ => []) ++ (call.uses options registry).filterMap Use.html?

variable {options : Options} {registry : Registry} {call : Call}

theorem written_outcome {found : Outcome} (h : call.outcome options registry = .ok found) :
    Written options.markers found (call.parts options.maxDepth registry) := by
  cases call with
  | expandHtml html =>
    cases h
    exact Library.written_outcome _ _
  | render name attributes =>
    obtain ⟨⟨markup, css⟩, hrender, rfl⟩ := exists_of_map_eq_ok h
    rw [parts, hrender]
    exact (Library.written_outcome _ _).styled name css

theorem uses_marked (options : Options) (markers : Bool) (registry : Registry) (call : Call) :
    call.uses (options.marked markers) registry = call.uses options registry := by
  cases call with
  | expandHtml html => exact Library.uses_marked markers _ _
  | render name attributes =>
    rw [uses, uses]
    simp only [Library.uses_marked]

theorem isFrom_parts (options : Options) (registry : Registry) (call : Call) :
    ∀ part ∈ call.parts options.maxDepth registry,
      part.IsFrom registry.definition? (call.texts options registry) := by
  cases call with
  | expandHtml html => exact Library.isFrom_parts _ _
  | render name attributes =>
    rw [parts, texts, uses]
    cases hrender : Library.renderTag registry.definition? name attributes with
    | error e => exact List.forall_mem_nil _
    | ok rendered => exact Library.isFrom_parts _ _

theorem outcome_eq_error {e : Error} (h : call.outcome options registry = .error e) (other : Options) :
    call.outcome other registry = .error e := by
  cases call with
  | expandHtml html => cases h
  | render name attributes =>
    rw [outcome] at h ⊢
    cases hrender : Library.renderTag registry.definition? name attributes with
    | error cause => rwa [hrender] at h
    | ok rendered =>
      rw [hrender] at h
      cases h

theorem output_marked {markers markers' : Bool} {output output' : Output}
    (h : ((call.session (options.marked markers)).run registry).1 = .ok output)
    (h' : ((call.session (options.marked markers')).run registry).1 = .ok output') :
    output'.css = output.css ∧ output'.errors = output.errors ∧ output'.warnings = output.warnings := by
  obtain ⟨found, rfl, hrecords⟩ := records_call h
  obtain ⟨found', rfl, hrecords'⟩ := records_call h'
  -- both are read off the same uses
  rw [uses_marked] at hrecords hrecords'
  simp only [Output.ofOutcome, hrecords.styles, hrecords'.styles, hrecords.errors, hrecords'.errors,
    hrecords.warnings, hrecords'.warnings, and_self]

end Machine.Call

/-- Without tags that were stopped there is one way to write the parts. -/
theorem Part.flatMap_html_of_filterMap_warning? {parts : List Part} (h : parts.filterMap warning? = [])
    (markers markers' : Bool) : parts.flatMap (html markers) = parts.flatMap (html markers') := by
  refine List.flatMap_congr fun part hpart => ?_
  cases part with
  | text s => rfl
  | stopped warning tag source => cases List.filterMap_eq_nil_iff.mp h _ hpart

open Machine (Call)

/-- Markers are presentation. A call has an error with and without them, the same one, or else an output with the
same css, the same errors and the same warnings. Both outputs are written from the same parts: the one has a
marker in the place of every tag that was stopped, the other that tag itself, as it stands in the HTML in which it
was found. The warnings are those of these tags, so without warnings the outputs are the same. -/
theorem markers_presentational (options : Options) (registry : Registry) (call : Call) :
    let run := fun markers => ((call.session (options.marked markers)).run registry).1
    let parts := call.parts options.maxDepth registry
    ((∃ e, run true = .error e ∧ run false = .error e) ∨
      ∃ marked plain, run true = .ok marked ∧ run false = .ok plain ∧
        plain.css = marked.css ∧ plain.errors = marked.errors ∧ plain.warnings = marked.warnings ∧
        marked.html = String.ofList (parts.flatMap (Part.html true)) ∧
        plain.html = String.ofList (parts.flatMap (Part.html false)) ∧
        marked.warnings = parts.filterMap Part.warning? ∧
        (marked.warnings = [] → plain.html = marked.html)) ∧
    ∀ part ∈ parts, part.IsFrom registry.definition? (call.texts options registry) := by
  intro run parts
  refine ⟨?_, call.isFrom_parts options registry⟩
  have hrun : ∀ markers, run markers = (call.outcome (options.marked markers) registry).map Output.ofOutcome :=
    fun markers => Call.fst_session (options.marked markers) registry call
  cases hmarked : call.outcome (options.marked true) registry with
  | error e =>
    have hplain := Call.outcome_eq_error hmarked (options.marked false)
    exact .inl ⟨e, by rw [hrun, hmarked]; rfl, by rw [hrun, hplain]; rfl⟩
  | ok marked =>
    cases hplain : call.outcome (options.marked false) registry with
    | error e =>
      rw [Call.outcome_eq_error hplain (options.marked true)] at hmarked
      cases hmarked
    | ok plain =>
      have hresult : run true = .ok (.ofOutcome marked) := by rw [hrun, hmarked]; rfl
      have hresult' : run false = .ok (.ofOutcome plain) := by rw [hrun, hplain]; rfl
      obtain ⟨hcss, herrors, hwarnings⟩ := Call.output_marked hresult hresult'
      have hwritten : Written true marked parts := Call.written_outcome hmarked
      have hwritten' : Written false plain parts := Call.written_outcome hplain
      refine .inr ⟨_, _, hresult, hresult', hcss, herrors, hwarnings, congrArg String.ofList hwritten.html,
        congrArg String.ofList hwritten'.html, hwritten.warnings, fun hnone => congrArg String.ofList ?_⟩
      have hparts : parts.filterMap Part.warning? = [] := hwritten.warnings.symm.trans hnone
      rw [hwritten.html, hwritten'.html, Part.flatMap_html_of_filterMap_warning? hparts]

/-- A component with the tag of another in its HTML. -/
def ring (name inner : String) : Definition where
  name := name
  styles := OrderedMap.empty
  routes := OrderedMap.empty
  render := some fun _ _ => .done (.ok ((Element.ofTag "b").addChild
    ((Element.ofTag inner).addChild (.text "x")).toMarkup).toMarkup)
  properties := .inferred

/-- Two components, each inside the other. -/
def rings : Registry :=
  ((Registry.empty .standard).setEntry (.ofDefinition (ring "odd" "even")) (by decide +kernel)).setEntry
    (.ofDefinition (ring "even" "odd")) (by decide +kernel)

theorem markers_presentational_rings :
    let run := fun markers =>
      (((Call.expandHtml "<odd></odd>!").session (Options.standard.marked markers)).run rings).1
    ∃ marked plain, run true = .ok marked ∧ run false = .ok plain ∧
      marked.html = "<b><b><!-- sprig:cycle odd -> even -> odd --></b></b>!" ∧
      plain.html = "<b><b><odd>x</odd></b></b>!" := by
  intro run
  obtain ⟨⟨e, herror, -⟩ | ⟨marked, plain, hmarked, hplain, -, -, -, hhtml, hhtml', -⟩, -⟩ :=
    markers_presentational .standard rings (.expandHtml "<odd></odd>!")
  · cases (Call.fst_session ..).symm.trans herror
  · exact ⟨marked, plain, hmarked, hplain, hhtml.trans (by decide +kernel), hhtml'.trans (by decide +kernel)⟩

end HtmlComponents.Component
