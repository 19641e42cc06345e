import HtmlComponents.Proofs.Component.Piecewise
import HtmlComponents.Proofs.Markup.RoundTrip

/-!
# Expansion of markup

What becomes of markup, said on its tree and without its HTML. `expand_toHtml`: writing readable markup
as HTML, reading that, searching it for tags and replacing them by offsets comes to the same.
-/

namespace HtmlComponents

open Document (Node pieces joinTexts)

namespace Opening

/-- The attribute texts of an element by name; an attribute without a value has the empty text. -/
def rawAttributes (opening : Opening) : OrderedMap String :=
  opening.attributes.mapValues fun _ value => value.getD ""

theorem rawAttributes_startTag (opening : Opening) :
    opening.startTag.rawAttributes = opening.rawAttributes := by
  refine OrderedMap.eq_of_entries ?_
  rw [StartTag.rawAttributes, decodedAttributes_startTag, OrderedMap.entries_ofListFirst]
  · rfl
  · exact (opening.attributes.mapValues fun _ value => value.getD "").nodup

end Opening

namespace Document

theorem charsList_nodes {markup : Markup} (h : markup.isReadable = true) :
    Node.charsList markup.nodes = markup.chars := by
  rw [← charsList_joinTexts, ← roots_ofChars h]
  exact chars_ofChars markup.chars

end Document

namespace Component.Session

open Outcome (literal)

section
variable (use : StartTag → List Char → Session Outcome) (accepts : StartTag → Bool)

/-- Joining texts changes nothing for expansion. -/
theorem expandPieces_joinTexts (nodes : List Node) :
    expandPieces use (pieces accepts (joinTexts nodes)) = expandPieces use (pieces accepts nodes) := by
  induction nodes with
  | nil => rfl
  | cons node rest ih =>
    rcases Document.joinTexts_cons node rest with ⟨a, b, more, rfl, hrest, hjoin⟩ | hjoin
    · have htexts : expandPieces use (pieces accepts rest) = (do
          return (literal b).append (← expandPieces use (pieces accepts more))) := by
        rw [← ih, hrest]
        rfl
      rw [hjoin, pieces, pieces, Document.piecesIn, Document.piecesIn]
      simp only [List.singleton_append, expandPieces, htexts, Outcome.literal_append,
        Outcome.append_assoc, bind_assoc, pure_bind]
    · rw [hjoin, pieces, pieces, expandPieces_append, expandPieces_append, ih]

end

variable (options : Options) (scope : Scope) (registered : String → Bool)

mutual

/-- What becomes of a node of markup, given the names of components. -/
def expandNode : Markup → Session Outcome
  | .text s => return literal (s.toList.flatMap Text.escapeTextChar)
  | .raw html => return literal html.toList
  | .fragment children => expandNodes children
  | .element opening children =>
    if registered opening.tag.toLower then
      expandUse options scope opening.tag.toLower opening.rawAttributes
        (Markup.element opening children).chars fun name _ html =>
          expand options (scope.enter name) html
    else if opening.isChildless then return literal opening.chars
    else do
      let inner ← expandNodes children
      return (literal opening.chars).append (inner.append (literal (endTagChars opening.tag)))

/-- What becomes of nodes of markup, one after another. -/
def expandNodes : List Markup → Session Outcome
  | [] => return literal []
  | node :: rest => do
    let first ← expandNode node
    return first.append (← expandNodes rest)

end

/-- What becomes of markup. -/
def expandMarkup (markup : Markup) : Session Outcome := do
  let registry ← get
  expandNode options scope registry.contains markup

theorem expandEntering_startTag (opening : Opening) (source : List Char) :
    expandEntering options scope opening.startTag source =
      expandUse options scope opening.tag.toLower opening.rawAttributes source fun name _ html =>
        expand options (scope.enter name) html := by
  rw [expandEntering, expandTag, Opening.rawAttributes_startTag]
  rfl

mutual

theorem expandPieces_nodes : (markup : Markup) → markup.isReadable = true →
    expandPieces (expandEntering options scope)
        (pieces (fun tag => registered tag.localName) markup.nodes) =
      expandNode options scope registered markup
  | .text s, _ => by
    rw [Markup.nodes, expandNode]
    split
    · rename_i hempty
      rw [List.isEmpty_iff.mp hempty]
      rfl
    · exact expandPieces_literal ..
  | .raw _, h => by simp [Markup.isReadable] at h
  | .fragment children, h => by
    rw [Markup.isReadable] at h
    rw [Markup.nodes, expandNode]
    exact expandPieces_nodesList children h
  | .element opening children, h => by
    have hchars := Document.charsList_nodes h
    rw [Markup.isReadable, Bool.and_eq_true] at h
    rw [Markup.nodes] at hchars ⊢
    rw [expandNode]
    by_cases hregistered : registered opening.tag.toLower = true
    · -- a use of a component is one piece, whose source is the whole element
      rw [if_pos hregistered, ← expandEntering_startTag, ← hchars]
      by_cases hchildless : opening.isChildless = true
      · rw [if_pos hchildless, pieces, pieces, Document.piecesIn,
          if_pos (show registered opening.startTag.localName = true from hregistered)]
        simp only [List.append_nil, expandPieces_element, Node.charsList, Node.chars]
      · rw [if_neg hchildless, pieces, pieces, Document.piecesIn,
          if_pos (show registered opening.startTag.localName = true from hregistered)]
        simp only [List.append_nil, expandPieces_element, Node.charsList]
    · rw [if_neg hregistered]
      by_cases hchildless : opening.isChildless = true
      · rw [if_pos hchildless, if_pos hchildless, pieces, pieces, Document.piecesIn,
          if_neg (show ¬registered opening.startTag.localName = true from hregistered)]
        exact expandPieces_literal ..
      · have hchildren := expandPieces_nodesList children h.2
        rw [if_neg hchildless, if_neg hchildless, pieces, pieces, Document.piecesIn,
          if_neg (show ¬registered opening.startTag.localName = true from hregistered)]
        simp only [List.append_nil, expandPieces, expandPieces_append, expandPieces_joinTexts,
          hchildren, Outcome.append_literal_nil, bind_assoc, pure_bind]

theorem expandPieces_nodesList : (children : List Markup) → Markup.isReadableList children = true →
    expandPieces (expandEntering options scope)
        (pieces (fun tag => registered tag.localName) (Markup.nodesList children)) =
      expandNodes options scope registered children
  | [], _ => rfl
  | node :: rest, h => by
    rw [Markup.isReadableList, Bool.and_eq_true] at h
    rw [Markup.nodesList, Document.pieces_append, expandPieces_append, expandPieces_nodes node h.1,
      expandPieces_nodesList rest h.2, expandNodes]

end

/-- Expanding the HTML of markup is expanding its tree. -/
theorem expand_toHtml (options : Options) (scope : Scope) (markup : Markup)
    (h : markup.isReadable = true) :
    expand options scope markup.toHtml.toList = expandMarkup options scope markup := by
  rw [expand_eq_expandPieces, expandMarkup, Markup.toHtml, String.toList_ofList]
  congr 1
  funext registry
  rw [Document.roots_ofChars h, expandPieces_joinTexts, expandPieces_nodes options scope _ markup h]

theorem expand_toHtml_nested :
    Document.nested.isReadable = true ∧
      expand .standard ⟨["div-x"], ["x-y"]⟩ Document.nested.toHtml.toList =
        expandMarkup .standard ⟨["div-x"], ["x-y"]⟩ Document.nested :=
  ⟨by decide +kernel, expand_toHtml _ _ _ (by decide +kernel)⟩

end Component.Session

end HtmlComponents
