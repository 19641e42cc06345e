import HtmlComponents.Proofs.Component.Meaning
import HtmlComponents.Proofs.Component.TopLevel
import HtmlComponents.Proofs.Except
import HtmlComponents.Proofs.Markup.Sealed

/-!
# Expanding once is enough

If render functions give readable markup, the output of an expansion holds no tag of a component, and
expanding it again changes nothing (`settled_output`). What stands in the place of a tag is sealed: the
expanded HTML of its component, a comment that no name can end, or nothing.
-/

namespace HtmlComponents.Component

open Document (KeepsComment Node Piece Sealed Bare pieces)

/-! ### Comments in the place of tags -/

section
variable {name : String} {path : List String} {accepts : StartTag → Bool}

theorem keepsComment_pathText (h : ∀ name ∈ path, '>' ∉ name.toList) :
    KeepsComment (Warning.pathText path).toList := by
  induction path with
  | nil => exact .of_notMem (by decide)
  | cons name rest ih =>
    obtain ⟨hname, hrest⟩ := List.forall_mem_cons.mp h
    cases rest with
    | nil =>
      have hsingle : (Warning.pathText [name]).toList = name.toList := by simp [Warning.pathText]
      rw [hsingle]
      exact .of_notMem hname
    | cons next others =>
      have hcons : (Warning.pathText (name :: next :: others)).toList =
          name.toList ++ ' ' :: (['-', '>'] ++ ' ' :: (Warning.pathText (next :: others)).toList) := by
        simp [Warning.pathText, String.toList_intercalate]
      rw [hcons]
      exact (KeepsComment.of_notMem hname).append (.append .arrow (ih hrest))

theorem sealed_marker {kind text : String} (hkind : '>' ∉ kind.toList)
    (htext : KeepsComment text.toList) :
    Sealed accepts ("<!-- " ++ kind ++ " " ++ text ++ " -->").toList := by
  have hmarker : ("<!-- " ++ kind ++ " " ++ text ++ " -->").toList = Document.commentStart ++
      (([] ++ ' ' :: (kind.toList ++ ' ' :: text.toList)) ++ ' ' :: Document.commentEnd) := by
    simp [Document.commentStart, Document.commentEnd]
  have hblank : KeepsComment [] := .of_notMem List.not_mem_nil
  rw [hmarker]
  exact .comment (hblank.append ((KeepsComment.of_notMem hkind).append htext))

theorem sealed_cycle (h : ∀ name ∈ path, '>' ∉ name.toList) :
    Sealed accepts (Warning.cycle name path).marker.toList :=
  @sealed_marker _ "sprig:cycle" _ (by decide +kernel) (keepsComment_pathText h)

theorem sealed_depthLimit {limit : Nat} (h : '>' ∉ name.toList) :
    Sealed accepts (Warning.depthLimit name limit).marker.toList :=
  @sealed_marker _ "sprig:depth-limit" _ (by decide +kernel) (.of_notMem h)

end

/-! ### Outcomes -/

/-- The render function gives only markup whose HTML can be read back. -/
def Definition.IsReadable (definition : Definition) : Prop :=
  ∀ api classes props markup, (definition.rendering api classes).run props = .ok markup →
    markup.isReadable = true

/-- All render functions give only markup whose HTML can be read back. -/
def Registry.IsReadable (registry : Registry) : Prop :=
  ∀ name definition, registry.definition? name = some definition → definition.IsReadable

namespace Library

/-- Components with names that end no comment and with render functions that give readable markup. -/
structure IsReadable (library : Library) : Prop where
  names : ∀ name, (library name).isSome = true → '>' ∉ name.toList
  definitions : ∀ name definition, library name = some definition → definition.IsReadable

variable {library : Library} {options : Options}

theorem IsReadable.renderTag (h : library.IsReadable) {name css : String} {attributes : RawAttributes}
    {markup : Markup} (hrender : library.renderTag name attributes = .ok (markup, css)) :
    '>' ∉ name.toList ∧ markup.isReadable = true := by
  unfold Library.renderTag at hrender
  split at hrender
  · cases hrender
  · rename_i definition hdefinition
    refine ⟨h.names name (by rw [hdefinition]; rfl), ?_⟩
    obtain ⟨compiled, props, -, -, hrun, -⟩ := Definition.exists_of_renderTag_eq_ok hrender
    exact h.definitions name definition hdefinition compiled.api compiled.classes props markup hrun

theorem sealed_useOutcome (hlibrary : library.IsReadable) (hmarkers : options.markers = true)
    {scope : Scope} (hactive : ∀ name ∈ scope.active, '>' ∉ name.toList) {name : String}
    (hname : '>' ∉ name.toList) (attributes : RawAttributes) (source : List Char)
    {inner : (name : String) → name ∈ scope.idle → List Char → Outcome} {accepts : StartTag → Bool}
    (hinner : ∀ h (markup : Markup), markup.isReadable = true →
      Sealed accepts (inner name h markup.chars).html) :
    Sealed accepts (library.useOutcome options scope name attributes source inner).html := by
  unfold useOutcome
  split
  · rename_i hidle
    split
    · rw [Outcome.guarded, if_pos hmarkers]
      exact sealed_depthLimit hname
    · cases hrender : library.renderTag name attributes with
      | error e => exact .nil
      | ok rendered => exact hinner hidle rendered.1 (hlibrary.renderTag hrender).2
  · rw [Outcome.guarded, if_pos hmarkers]
    exact sealed_cycle (List.forall_mem_append.mpr ⟨hactive, List.forall_mem_singleton.mpr hname⟩)

/-- Expanding the HTML of readable markup leaves no tag of a component, in whatever text it is put. -/
theorem sealed_outcome (hlibrary : library.IsReadable) (hmarkers : options.markers = true)
    (scope : Scope) (hactive : ∀ name ∈ scope.active, '>' ∉ name.toList) (markup : Markup)
    (h : markup.isReadable = true) :
    Sealed (fun tag => (library tag.localName).isSome)
      (library.outcome options scope markup.chars).html := by
  have hfilled (use : StartTag → List Char → Outcome) :
      (fun piece => (Session.pieceOutcome use piece).html) =
        Piece.filled fun tag source => (use tag source).html := by
    funext piece
    cases piece <;> rfl
  rw [outcome, Outcome.html_concat, List.flatMap_map, hfilled, Document.roots_ofChars h,
    Document.filled_joinTexts]
  refine Document.sealed_filled (fun tag source haccepts => ?_) markup h
  have hname := hlibrary.names tag.localName haccepts
  have henter : ∀ other ∈ (scope.enter tag.localName).active, '>' ∉ other.toList :=
    List.forall_mem_append.mpr ⟨hactive, List.forall_mem_singleton.mpr hname⟩
  -- what the component renders is readable again, and one component fewer is idle while it is expanded
  refine sealed_useOutcome hlibrary hmarkers hactive hname tag.rawAttributes source
    fun hidle inside hinside => ?_
  exact sealed_outcome hlibrary hmarkers (scope.enter tag.localName) henter inside hinside
termination_by scope.idle.length
decreasing_by exact Scope.length_idle_enter_lt hidle

end Library

namespace Session

open Outcome (literal)

theorem expandPieces_bare {use : StartTag → List Char → Session Outcome} {accepts : StartTag → Bool}
    {nodes : List Node} (h : Bare accepts nodes) :
    expandPieces use (pieces accepts nodes) = return literal (Node.charsList nodes) := by
  rw [← Document.source_pieces accepts]
  -- the nodes do not matter from here on, only that their pieces are literal
  unfold Bare at h
  generalize pieces accepts nodes = ps at h
  induction ps with
  | nil => rfl
  | cons piece rest ih =>
    have hrest := ih fun tag source hmem => h tag source (List.mem_cons_of_mem _ hmem)
    cases piece with
    | literal s =>
      rw [expandPieces, hrest, pure_bind, ← Outcome.literal_append]
      rfl
    | element tag source => exact absurd List.mem_cons_self (h tag source)

/-- Text with nothing left to expand. -/
structure Settled (registry : Registry) (html : String) : Prop where
  /-- No element, at any depth, has the name of a component. -/
  plain : ∀ p ∈ (Document.parse html).placed, ∀ tag, p.node.tag? = some tag →
    registry.contains tag.localName = false
  /-- Expanding gives the text back and has nothing to report. -/
  again : ∀ options, (expandHtml options html).run registry = (⟨html, "", [], []⟩, registry)

theorem settled_of_sealed {registry : Registry} {html : String}
    (h : Sealed (fun tag => registry.contains tag.localName) html.toList) : Settled registry html := by
  obtain ⟨nodes, hread, hbare⟩ := h
  have hroots : (Document.ofChars html.toList).roots = Document.joinTexts nodes := hread.roots
  have hchars : Node.charsList (Document.joinTexts nodes) = html.toList := by
    rw [← hroots]
    exact Document.chars_ofChars html.toList
  refine ⟨fun p hp tag htag => ?_, fun options => ?_⟩
  · rw [Document.placed, Document.parse, hroots] at hp
    exact Document.accepts_placeNodes _ hbare.joinTexts hp htag
  · rw [expandHtml, run_bind, run_get, expand_eq_expandPieces, run_bind, run_bind, run_get, hroots,
      expandPieces_bare hbare.joinTexts, hchars]
    have houtput : Output.ofOutcome (literal html.toList) = ⟨html, "", [], []⟩ := by
      rw [Output.ofOutcome, literal, String.ofList_toList]
      rfl
    exact congrArg (·, registry) houtput

variable {registry : Registry}

theorem isReadable_definition? (h : registry.IsReadable) : Library.IsReadable registry.definition? := by
  refine ⟨fun name hname hmem => ?_, h⟩
  rw [← registry.contains_eq_isSome] at hname
  rcases chars_of_isComponentName (Registry.isComponentName_of_contains hname) '>' hmem with h | h | h <;>
    exact absurd h (by decide)

theorem sealed_contains {registry later : Registry} (h : registry.Same later) {s : List Char}
    (hsealed : Sealed (fun tag => (registry.definition? tag.localName).isSome) s) :
    Sealed (fun tag => later.contains tag.localName) s := by
  simp only [← registry.contains_eq_isSome, h.contains] at hsealed
  exact hsealed

/-- Expansion reaches a fixpoint in one call, also where a guard stopped it and where a tag was dropped. -/
theorem settled_output (options : Options) (registry : Registry) (hmarkers : options.markers = true)
    (hreadable : registry.IsReadable) :
    (∀ markup : Markup, markup.isReadable = true →
      Settled ((expandHtml options markup.toHtml).run registry).2
        ((expandHtml options markup.toHtml).run registry).1.html) ∧
    ∀ name attributes output, ((render options name attributes).run registry).1 = .ok output →
      Settled ((render options name attributes).run registry).2 output.html := by
  have hlibrary := isReadable_definition? hreadable
  refine ⟨fun markup h => ?_, fun name attributes output hrun => ?_⟩
  · have hsame := (stable_expandHtml options markup.toHtml).keeps registry
    refine settled_of_sealed (sealed_contains hsame ?_)
    rw [fst_expandHtml, Output.ofOutcome, String.toList_ofList, Markup.toHtml, String.toList_ofList]
    exact Library.sealed_outcome hlibrary hmarkers _ (by simp [Scope.outside]) markup h
  · have hsame := (stable_render options name attributes).keeps registry
    refine settled_of_sealed (sealed_contains hsame ?_)
    rw [fst_render] at hrun
    obtain ⟨⟨markup, css⟩, hrender, rfl⟩ := exists_of_map_eq_ok hrun
    obtain ⟨hname, hmarkup⟩ := hlibrary.renderTag hrender
    dsimp only [Output.ofOutcome, Outcome.styled]
    rw [String.toList_ofList]
    refine Library.sealed_outcome hlibrary hmarkers _ (fun other hother => ?_) markup hmarkup
    rw [List.mem_singleton.mp hother]
    exact hname

/-- A component that fails. -/
def broken : Definition where
  name := "broken"
  styles := OrderedMap.empty
  routes := OrderedMap.empty
  render := some fun _ _ => .done (.error (.failed "no title"))
  properties := .declared Property.Schema.empty

/-- A component in itself, with a failing one beside it. -/
def spiral : Definition where
  name := "spiral"
  styles := OrderedMap.empty
  routes := OrderedMap.empty
  render := some fun _ _ => .done (.ok (((Element.ofTag "p").attr "title" "--><spiral>").addChildren
    [(Element.ofTag "broken").toMarkup, (Element.ofTag "spiral").toMarkup, .text "<spiral>"]).toMarkup)
  properties := .inferred

def spirals : Registry :=
  ((Registry.empty .standard).setEntry (.ofDefinition broken) (by decide +kernel)).setEntry
    (.ofDefinition spiral) (by decide +kernel)

theorem isReadable_spirals : spirals.IsReadable := by
  intro name definition h
  rw [spirals, Registry.definition?_setEntry, Registry.definition?_setEntry] at h
  intro api classes props markup hrun
  split at h
  · cases h
    cases hrun
    decide +kernel
  · split at h
    · cases h
      cases hrun
    · cases h

theorem settled_output_spirals :
    spirals.IsReadable ∧ (Element.ofTag "SPIRAL").toMarkup.isReadable = true ∧
      Settled ((expandHtml .standard (Element.ofTag "SPIRAL").toMarkup.toHtml).run spirals).2
        ((expandHtml .standard (Element.ofTag "SPIRAL").toMarkup.toHtml).run spirals).1.html ∧
      ((expandHtml .standard (Element.ofTag "SPIRAL").toMarkup.toHtml).run spirals).1 =
        ⟨"<p title=\"--&gt;&lt;spiral&gt;\"><!-- sprig:cycle spiral -> spiral -->&lt;spiral&gt;</p>", "",
          [.failed "broken" "no title"], [.cycle "spiral" ["spiral", "spiral"]]⟩ := by
  have hspiral : (Element.ofTag "SPIRAL").toMarkup.isReadable = true := by decide +kernel
  have hsettled := (settled_output .standard spirals rfl isReadable_spirals).1 _ hspiral
  refine ⟨isReadable_spirals, hspiral, hsettled, ?_⟩
  rw [fst_expandHtml]
  decide +kernel

end Session

end HtmlComponents.Component
