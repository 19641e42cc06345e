import HtmlComponents.Proofs.Component.Compositional
import HtmlComponents.Proofs.Component.Trace

/-!
# Outputs in parts

What expanding a text puts out is put together from what expanding the elements found in it puts out, each of
them on its own (`expandHtml_composed`): the HTML, the errors, the warnings, and the components that give the css.
-/

namespace HtmlComponents.Component

open Document (Piece Placed Located)
open Machine (Call Passes)

/-- The outputs and the components that give their css, of a text and of the elements found in it, each read
alone. The elements are replaced and what is between them is copied; the rest is gathered in their order, every
component once. -/
structure Output.Composed (alone : String → Output) (contributors : String → List String) (text : String)
    (found : List (StartTag × Placed)) : Prop where
  html : ∃ ps, Located 0 ps found ∧ ps.flatMap Piece.source = text.toList ∧
    (alone text).html.toList =
      ps.flatMap (Document.replaced fun source => (alone (String.ofList source)).html.toList)
  errors : (alone text).errors = found.flatMap fun f => (alone (String.ofList f.2.node.chars)).errors
  warnings : (alone text).warnings = found.flatMap fun f => (alone (String.ofList f.2.node.chars)).warnings
  contributors : contributors text =
    (found.flatMap fun f => contributors (String.ofList f.2.node.chars)).eraseDups

namespace Session

variable {options : Options} {registry : Registry} {html : String}

theorem expandHtml_eq_outcome (options : Options) (registry : Registry) (html : String) :
    ((expandHtml options html).run registry).1 = .ofOutcome (outcome options registry html.toList) := rfl

theorem uses_found {found : StartTag × Placed}
    (h : found ∈ (Document.ofChars html.toList).outermost fun tag => registry.contains tag.localName) :
    (Call.expandHtml (String.ofList found.2.node.chars)).uses options registry =
      Library.tagUses registry.definition? options (Scope.outside registry) found.1 := by
  have hlocated := @Document.located_outermostAmong (fun tag => registry.contains tag.localName) none 0 0
    (Document.ofChars html.toList).roots
  have hpieces := Document.pieces_of_mem_pieces (hlocated.mem h)
  simp only [registry.contains_eq_isSome] at hpieces
  rw [Call.uses, String.toList_ofList, Library.uses, hpieces, List.flatMap_singleton]
  rfl

theorem uses_eq_flatMap (options : Options) (registry : Registry) (html : String) :
    (Call.expandHtml html).uses options registry =
      ((Document.parse html).outermost fun tag => registry.contains tag.localName).flatMap fun f =>
        (Call.expandHtml (String.ofList f.2.node.chars)).uses options registry := by
  rw [Call.uses, Library.uses_eq]
  simp only [← registry.contains_eq_isSome]
  exact List.flatMap_congr fun f hf => (uses_found hf).symm

theorem contributors_eq_eraseDups (options : Options) (registry : Registry) (html : String) :
    (Call.expandHtml html).contributors options registry =
      (((Document.parse html).outermost fun tag => registry.contains tag.localName).flatMap fun f =>
        (Call.expandHtml (String.ofList f.2.node.chars)).contributors options registry).eraseDups := by
  rw [Call.contributors, uses_eq_flatMap, List.filter_flatMap, List.map_flatMap]
  exact (eraseDups_flatMap_eraseDups _ _).symm

theorem composed_output (options : Options) (registry : Registry) (html : String) :
    Output.Composed (fun text => ((expandHtml options text).run registry).1)
      (fun text => (Call.expandHtml text).contributors options registry) html
      ((Document.parse html).outermost fun tag => registry.contains tag.localName) := by
  have hcomposed := composed_outcome options registry html.toList
  rw [← Document.parse] at hcomposed
  simp only [expandHtml_eq_outcome]
  refine ⟨?_, ?_, ?_, contributors_eq_eraseDups options registry html⟩
  · obtain ⟨ps, hlocated, hsource, hhtml⟩ := hcomposed.html
    refine ⟨ps, hlocated, hsource, ?_⟩
    simpa [Output.ofOutcome] using hhtml
  · simpa [Output.ofOutcome] using hcomposed.errors
  · simpa [Output.ofOutcome] using hcomposed.warnings

theorem output_of_error {found : StartTag × Placed} {e : Error}
    (h : found ∈ (Document.parse html).outermost fun tag => registry.contains tag.localName)
    (herror : ((renderTag found.1.localName found.1.rawAttributes).run registry).1 = .error e) :
    ((expandHtml options (String.ofList found.2.node.chars)).run registry).1 = ⟨"", "", [e], []⟩ := by
  have hlocated := @Document.located_outermostAmong (fun tag => registry.contains tag.localName) none 0 0
    (Document.parse html).roots
  rw [expandHtml_eq_outcome, String.toList_ofList, outcome_of_error (hlocated.mem h) herror]
  rfl

/-- Expansion is compositional: the output of a text is put together from those of its outermost component tags,
each expanded on its own and at any time. The css is that of the components that are rendered on the way, and a
tag whose component fails becomes nothing. -/
theorem expandHtml_composed (options : Options) (registry : Registry) (html : String) :
    let found := (Document.parse html).outermost fun tag => registry.contains tag.localName
    let alone (text : String) : Output := ((expandHtml options text).run registry).1
    let contributors (text : String) := (Call.expandHtml text).contributors options registry
    Output.Composed alone contributors html found ∧
      (∀ text, registry.HasCss (contributors text) (alone text).css ∧
        ∃ last uses, Passes options ((Call.expandHtml text).start registry) uses last ∧
          last.result? = some (.ok (alone text)) ∧
          contributors text = ((uses.filter Use.isRendered).map Use.name).eraseDups) ∧
      (∀ f ∈ found, ∀ e, ((renderTag f.1.localName f.1.rawAttributes).run registry).1 = .error e →
        alone (String.ofList f.2.node.chars) = ⟨"", "", [e], []⟩) ∧
      ∀ earlier text,
        ((expandHtml options text).run ((expandHtml options earlier).run registry).2).1 = alone text := by
  intro found alone contributors
  refine ⟨composed_output options registry html, fun text => ⟨hasCss_contributors rfl, ?_⟩,
    fun f hf e herror => output_of_error hf herror, fun earlier text => ?_⟩
  · obtain ⟨last, hpasses, -, hresult⟩ := (Call.expandHtml text).passes_uses options registry
    exact ⟨last, _, hpasses, hresult, rfl⟩
  · have hsame := (stable_expandHtml options earlier).keeps registry
    exact ((stable_expandHtml options text).result _ _ hsame).symm

/-- A component, one that fails, and one that is left inside itself. -/
def shelfText : String := "<p><badge></badge> &amp; <mute></mute><shelf></shelf></p>"

/-- The parts of a text and the whole of it. `badge` is in two of the parts and gives its css once. -/
theorem expandHtml_composed_shelves :
    let parts := ["<badge></badge>", "<mute></mute>", "<shelf></shelf>"]
    let output (text : String) : Output := ((expandHtml .standard text).run shelves).1
    let contributors (text : String) := (Call.expandHtml text).contributors .standard shelves
    parts.map output =
        [⟨"<b></b>", ".dot \x7b color: red; \x7d", [], []⟩,
          ⟨"", "", [.failed "mute" "no title"], []⟩,
          ⟨"<b></b><b></b><!-- sprig:cycle shelf -> shelf -->",
            ".row \x7b margin: 0; \x7d\n.dot \x7b color: red; \x7d", [.failed "mute" "no title"],
            [.cycle "shelf" ["shelf", "shelf"]]⟩] ∧
      output shelfText =
        ⟨"<p><b></b> &amp; <b></b><b></b><!-- sprig:cycle shelf -> shelf --></p>",
          ".dot \x7b color: red; \x7d\n.row \x7b margin: 0; \x7d",
          [.failed "mute" "no title", .failed "mute" "no title"], [.cycle "shelf" ["shelf", "shelf"]]⟩ ∧
      parts.map contributors = [["badge"], [], ["shelf", "sleeve", "badge"]] ∧
      contributors shelfText = ["badge", "shelf", "sleeve"] ∧
      (output shelfText).errors = parts.flatMap (fun part => (output part).errors) ∧
      contributors shelfText = (parts.flatMap contributors).eraseDups ∧
      shelves.HasCss (contributors shelfText) (output shelfText).css := by
  intro parts output contributors
  obtain ⟨hcomposed, hcss, -, -⟩ := expandHtml_composed .standard shelves shelfText
  have hparts : (((Document.parse shelfText).outermost fun tag => shelves.contains tag.localName).map
      fun f => String.ofList f.2.node.chars) = parts := by decide +kernel
  refine ⟨?_, ?_, by decide +kernel, by decide +kernel, ?_, ?_, (hcss shelfText).1⟩
  · simp only [parts, output, fst_expandHtml]
    decide +kernel
  · simp only [output, fst_expandHtml]
    decide +kernel
  · rw [← hparts, List.flatMap_map]
    exact hcomposed.errors
  · rw [← hparts, List.flatMap_map]
    exact hcomposed.contributors

end Session

end HtmlComponents.Component
