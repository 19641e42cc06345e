import HtmlComponents.Proofs.Component.Meaning
import HtmlComponents.Proofs.Component.TopLevel
import HtmlComponents.Proofs.Markup.Lexical
import HtmlComponents.Proofs.Markup.Written

/-!
# The paired form of a component tag

The tag of a component with content and an end tag has the output of the self-closing tag exactly when it is
read as one element (`expandHtml_paired`). It is not if the name is that of a void element, and it may not be
if raw text is ended early.
-/

namespace HtmlComponents

open Document (Node Builder Frame ofChars pieces)

namespace Document.Builder

/-! ### The first node of a document -/

/-- All nodes read so far, last first, if nothing that is open is closed any more. -/
def nodes (builder : Builder) : List Node := builder.frames.foldl flatten builder.level

/-- The first node is an element with this start tag. Later nodes stand before it, last first. -/
def Leads (tag : StartTag) (nodes : List Node) : Prop := nodes.getLast?.bind Node.tag? = some tag

theorem foldl_flatten (level : List Node) (frames : List Frame) :
    frames.foldl flatten level = level ++ frames.foldl flatten [] := by
  induction frames generalizing level with
  | nil => rw [List.foldl_nil, List.foldl_nil, List.append_nil]
  | cons frame outer ih =>
    rw [List.foldl_cons, List.foldl_cons, ih, ih (flatten [] frame), flatten, flatten]
    simp

section
variable {tag : StartTag} {level all : List Node}

theorem leads_append {front back : List Node} :
    Leads tag (front ++ back) ↔ Leads tag back ∨ back = [] ∧ Leads tag front := by
  rcases List.eq_nil_or_concat back with rfl | ⟨init, node, rfl⟩
  · simp [Leads]
  · simp [Leads, List.getLast?_append]

theorem leads_cons {node : Node} :
    Leads tag (node :: all) ↔ Leads tag all ∨ all = [] ∧ node.tag? = some tag :=
  @leads_append tag [node] all

theorem Leads.cons (h : Leads tag all) (node : Node) : Leads tag (node :: all) := leads_cons.mpr (.inl h)

theorem Leads.tail_text {s : List Char} (h : Leads tag (.text s :: all)) : Leads tag all := by
  rcases leads_cons.mp h with h | ⟨-, htext⟩
  · exact h
  · cases htext

theorem Leads.exists_eq (h : Leads tag all) : ∃ front node, all = front ++ [node] ∧ node.tag? = some tag := by
  rcases List.eq_nil_or_concat all with rfl | ⟨front, node, rfl⟩
  · cases h
  · rw [List.concat_eq_append] at h ⊢
    rw [Leads, List.getLast?_concat] at h
    exact ⟨front, node, rfl, h⟩

theorem exists_addText (s : List Char) (level : List Node) :
    ∃ before more, addText s level = .text (before ++ s) :: more ∧
      ∀ tag outer, Leads tag (level ++ outer) → Leads tag (more ++ outer) := by
  unfold addText
  split
  · rename_i before rest
    exact ⟨before, rest, rfl, fun tag outer => Leads.tail_text⟩
  · exact ⟨[], level, rfl, fun tag outer h => h⟩

theorem nodes_eq (level : List Node) (frames : List Frame) :
    nodes ⟨level, frames⟩ = level ++ frames.foldl flatten [] := foldl_flatten level frames

theorem Leads.addText {frames : List Frame} (h : Leads tag (Builder.nodes ⟨level, frames⟩)) (s : List Char) :
    Leads tag (Builder.nodes ⟨Builder.addText s level, frames⟩) := by
  rw [nodes_eq] at h ⊢
  obtain ⟨before, more, heq, hmore⟩ := exists_addText s level
  rw [heq]
  exact (hmore _ _ h).cons _

/-- A token changes the first node at most from an element without an end tag to one with an end tag. -/
theorem Leads.add {builder : Builder} (h : Leads tag builder.nodes) (token : Token) :
    Leads tag (builder.add token).nodes := by
  obtain ⟨level, frames⟩ := builder
  have hcons : ∀ node, Leads tag (Builder.nodes ⟨node :: level, frames⟩) := by
    intro node
    have hnode := h.cons node
    rw [nodes_eq] at hnode ⊢
    exact hnode
  cases token with
  | text s => exact h.addText s
  | comment s => exact hcons _
  | declaration s => exact hcons _
  | startTag other s =>
    rw [Builder.add]
    split
    · exact hcons _
    · -- the nodes are the same, whether the element is open or has no end tag
      exact hcons (.lone other s)
  | endTag name s =>
    rcases nearest_or_none name frames with hnone | ⟨inner, frame, outer, rfl, hinner, hframe⟩
    · rw [Builder.add, close?_eq_none hnone]
      exact h.addText s
    · rw [Builder.add, close?_append hinner hframe]
      dsimp only
      rw [nodes, List.foldl_append, List.foldl_cons, foldl_flatten, flatten, List.append_assoc] at h
      rw [nodes_eq]
      -- the nodes of the element stood behind it
      rcases leads_append.mp h with h | ⟨hnil, -⟩
      · rw [List.cons_append, leads_cons] at h ⊢
        exact h
      · cases hnil

theorem Leads.foldl_add {builder : Builder} (h : Leads tag builder.nodes) (tokens : List Token) :
    Leads tag (tokens.foldl Builder.add builder).nodes := by
  induction tokens generalizing builder with
  | nil => exact h
  | cons token rest ih => exact ih (h.add token)

end

/-! ### An element with its end tag -/

section
variable {tag : StartTag} {name : String} {s ending : List Char}

theorem isNamed_of_eq (h : tag.name = name) : tag.isNamed name = true := h ▸ sameName_refl tag.name

theorem finish_ending (hnamed : tag.isNamed name = true) (level : List Node) :
    (Builder.add ⟨level, [⟨tag, s, []⟩]⟩ (.endTag name ending)).finish =
      [.paired tag s level.reverse ending] := by
  rw [Builder.add, close?, if_pos hnamed]
  rfl

/-- An end tag pairs the element that is alone open, and it is the text at the end of the document if none
is open. -/
theorem finish_ending_cases {after : Builder} (hnamed : tag.isNamed name = true) (hending : ending ≠ [])
    (hframes : after.frames <:+ [⟨tag, s, []⟩])
    (hleads : Leads tag (after.add (.endTag name ending)).nodes) :
    (∃ children, (after.add (.endTag name ending)).finish = [.paired tag s children ending]) ∨
      ∃ node middle t, (after.add (.endTag name ending)).finish = node :: (middle ++ [.text t]) ∧
        node.tag? = some tag ∧ t ≠ [] := by
  obtain ⟨level, frames⟩ := after
  rcases List.suffix_cons_iff.mp hframes with heq | hnil
  · dsimp only at heq
    rw [heq]
    exact .inl ⟨_, finish_ending hnamed level⟩
  · have heq : frames = [] := List.suffix_nil.mp hnil
    rw [heq] at hleads ⊢
    obtain ⟨before, more, htext, -⟩ := exists_addText ending level
    have hadd : Builder.add ⟨level, []⟩ (.endTag name ending) = ⟨.text (before ++ ending) :: more, []⟩ := by
      rw [Builder.add, close?, htext]
    rw [hadd] at hleads ⊢
    obtain ⟨front, node, rfl, htag⟩ := Leads.exists_eq (Leads.tail_text hleads)
    refine .inr ⟨node, front.reverse, before ++ ending, ?_, htag, by simp [hending]⟩
    show (.text (before ++ ending) :: (front ++ [node])).reverse = _
    simp

variable {content : Markup}

theorem endTagChars_ne_nil (name : String) : endTagChars name ≠ [] := List.cons_ne_nil _ _

theorem roots_eq_finish (name : String) (s : List Char) (content : Markup) :
    (ofChars (s ++ content.chars ++ endTagChars name)).roots =
      (Builder.start.read (s ++ (content.chars ++ (endTagChars name ++ [])))).finish := by
  rw [List.append_nil, ← List.append_assoc]
  rfl

/-- A document that begins with a start tag has its element as the first node. -/
theorem leads_read (hread : ∀ rest, readStartTag? (s ++ rest) = some (tag, rest)) (rest : List Char) :
    Leads tag (Builder.start.read (s ++ rest)).nodes := by
  rcases hsplit : splitAfter (.startTag tag s) rest with ⟨raw, left⟩
  have hopening : Leads tag (Builder.start.add (.startTag tag s)).nodes := by
    rw [Builder.add]
    split <;> rfl
  rw [Builder.read_startTag (hread _) hsplit]
  exact (hopening.foldl_add _).foldl_add _

theorem read_content (hread : ∀ rest, readStartTag? (s ++ rest) = some (tag, rest))
    (hclosed : tag.selfClosing = false) (hcontent : content.isLexical = true) {rest : List Char}
    (hends : startsEndOf tag.name rest = true) :
    ∃ after : Builder, Builder.start.read (s ++ (content.chars ++ rest)) = after.read rest ∧
      after.frames <:+ [⟨tag, s, []⟩] := by
  have hlexical := Markup.isLexical_parts content hcontent
  have hshrinks := (Markup.closed_parts content).shrinks hlexical
  rw [← Markup.charsList_parts content]
  by_cases hvoid : isVoid tag.name = true
  · -- a void element is not opened, and its content is read beside it
    have hraw : isRawText tag.name = false := by
      rw [Bool.eq_false_iff]
      intro hraw
      rw [isVoid_of_isRawText hraw] at hvoid
      cases hvoid
    obtain ⟨after, hafter, hframes⟩ := hshrinks _ (List.suffix_refl _)
      (Builder.start.add (.startTag tag s)) rest
    rw [add_lone tag s (by rw [hvoid, Bool.or_true])] at hframes
    have hnone : after.frames = [] := List.suffix_nil.mp hframes
    refine ⟨after, ?_, hnone ▸ List.nil_suffix⟩
    rw [Builder.read_startTag (hread _) (splitAfter_startTag hraw s _)]
    exact hafter
  · have hopen : (tag.selfClosing || isVoid tag.name) = false := by
      rw [hclosed, Bool.false_or]
      exact Bool.eq_false_iff.mpr hvoid
    exact read_inside hread hopen hlexical hshrinks hends .start

/-- A start tag with content and an end tag is one element, or the end tag closes nothing. -/
theorem roots_cases (hread : ∀ rest, readStartTag? (s ++ rest) = some (tag, rest))
    (hname : isTagName name = true) (hnamed : tag.name = name) (hclosed : tag.selfClosing = false)
    (hcontent : content.isLexical = true) :
    (∃ children, (ofChars (s ++ content.chars ++ endTagChars name)).roots =
        [.paired tag s children (endTagChars name)]) ∨
      ∃ node middle t, (ofChars (s ++ content.chars ++ endTagChars name)).roots =
        node :: (middle ++ [.text t]) ∧ node.tag? = some tag ∧ t ≠ [] := by
  have hends : startsEndOf tag.name (endTagChars name ++ []) = true := by
    rw [hnamed]
    exact startsEndOf_endTagChars name []
  have hleads := leads_read hread (content.chars ++ (endTagChars name ++ []))
  obtain ⟨after, hafter, hframes⟩ := read_content hread hclosed hcontent hends
  rw [roots_eq_finish]
  rw [hafter, read_endTag hname, read_nil] at hleads ⊢
  exact finish_ending_cases (isNamed_of_eq hnamed) (endTagChars_ne_nil name) hframes hleads

theorem roots_of_unbroken (hread : ∀ rest, readStartTag? (s ++ rest) = some (tag, rest))
    (hname : isTagName name = true) (hnamed : tag.name = name)
    (hopen : (tag.selfClosing || isVoid tag.name) = false) (hcontent : content.isLexical = true)
    (hunbroken : content.isUnbrokenIn tag.name = true) :
    ∃ children, (ofChars (s ++ content.chars ++ endTagChars name)).roots =
      [.paired tag s children (endTagChars name)] := by
  have hends : startsEndOf tag.name (endTagChars name ++ []) = true := by
    rw [hnamed]
    exact startsEndOf_endTagChars name []
  rw [Markup.isUnbrokenIn] at hunbroken
  obtain ⟨level, hlevel⟩ := read_keeping hread hopen hends
    (fun hraw => by rwa [if_pos hraw, Bool.not_eq_true'] at hunbroken)
    (fun hraw => by
      rw [hraw, if_neg Bool.false_ne_true] at hunbroken
      exact keeps_chars content hcontent hunbroken) .start
  refine ⟨level.reverse, ?_⟩
  rw [roots_eq_finish, hlevel, read_endTag hname, read_nil]
  exact finish_ending (isNamed_of_eq hnamed) level

end

end Document.Builder

/-- The document is one element with content and an end tag. -/
def Document.IsPaired (document : Document) : Prop :=
  ∃ tag s children ending, document.roots = [.paired tag s children ending]

namespace Component

namespace Library

variable {library : Library} {options : Options} {scope : Scope}

/-- The outcome of the tag of a component. -/
def tagOutcome (library : Library) (options : Options) (scope : Scope) (tag : StartTag)
    (source : List Char) : Outcome :=
  library.useOutcome options scope tag.localName tag.rawAttributes source fun name _ html =>
    library.outcome options (scope.enter name) html

/-- What becomes of a tag that no guard stops hangs neither on its source nor on its form. -/
theorem tagOutcome_congr {tag tag' : StartTag} (hidle : tag.localName ∈ scope.idle)
    (hdepth : ¬scope.active.length > options.maxDepth) (hname : tag.name = tag'.name)
    (hattributes : tag.attributes = tag'.attributes) (source source' : List Char) :
    library.tagOutcome options scope tag source = library.tagOutcome options scope tag' source' := by
  obtain ⟨name, attributes, selfClosing⟩ := tag
  obtain ⟨name', attributes', selfClosing'⟩ := tag'
  obtain rfl : name = name' := hname
  obtain rfl : attributes = attributes' := hattributes
  have hidle' : StartTag.localName ⟨name, attributes, selfClosing'⟩ ∈ scope.idle := hidle
  rw [tagOutcome, tagOutcome, useOutcome, useOutcome, dif_pos hidle, dif_pos hidle', if_neg hdepth,
    if_neg hdepth]
  rfl

/-- The outcome of HTML that begins with the tag of a component is that of the tag, and then that of the
other nodes. -/
theorem outcome_of_roots {html : List Char} {node : Node} {more : List Node} {tag : StartTag}
    (hroots : (ofChars html).roots = node :: more) (htag : node.tag? = some tag)
    (hname : (library tag.localName).isSome = true) :
    library.outcome options scope html =
      (library.tagOutcome options scope tag node.chars).append
        (.concat ((pieces (fun tag => (library tag.localName).isSome) more).map
          (Session.pieceOutcome (library.tagOutcome options scope)))) := by
  have hpieces : pieces (fun tag => (library tag.localName).isSome) (node :: more) =
      .element tag node.chars :: pieces (fun tag => (library tag.localName).isSome) more := by
    rw [← List.singleton_append, Document.pieces_append, Document.pieces_singleton htag hname]
    rfl
  rw [outcome, hroots, hpieces, List.map_cons]
  rfl

theorem html_concat_append_text (use : StartTag → List Char → Outcome) (accepts : StartTag → Bool)
    (nodes : List Node) (t : List Char) :
    (Outcome.concat ((pieces accepts (nodes ++ [.text t])).map (Session.pieceOutcome use))).html =
      (Outcome.concat ((pieces accepts nodes).map (Session.pieceOutcome use))).html ++ t := by
  rw [Document.pieces_append, List.map_append, Outcome.html_concat, Outcome.html_concat,
    List.flatMap_append]
  simp [pieces, Document.piecesIn, Session.pieceOutcome, Outcome.literal]

end Library

namespace Session

variable {options : Options} {registry : Registry} {name : String}
  {attributes : List WrittenAttribute} {content : Markup}

theorem roots_alone (hname : isTagName name = true) (hattributes : ∀ a ∈ attributes, a.IsLexical) :
    (ofChars (startTagChars name attributes true)).roots =
      [.lone (writtenTag name attributes true) (startTagChars name attributes true)] := by
  have hread := Document.readStartTag?_startTagChars hname hattributes true []
  obtain ⟨c, rest, hcons, -⟩ := Document.exists_of_readStartTag? hread
  rw [List.append_nil] at hread hcons
  rw [hcons] at hread
  have htoken := Document.readToken_startTag hread
  rw [← hcons, ← List.append_nil (startTagChars _ _ _), Document.upTo_append_left] at htoken
  exact Document.roots_startTag htoken

theorem outcome_of_written (options : Options) (hname : registry.contains name = true)
    (hattributes : ∀ a ∈ attributes, a.IsLexical) {html : List Char} {node : Node} {more : List Node}
    (hroots : (ofChars html).roots = node :: more)
    (hnode : node.tag? = some (writtenTag name attributes false)) :
    let use := Library.tagOutcome registry.definition? options (Scope.outside registry)
    Library.outcome registry.definition? options (Scope.outside registry) html =
      (Library.outcome registry.definition? options (Scope.outside registry)
        (startTagChars name attributes true)).append
        (.concat ((pieces (fun tag => (registry.definition? tag.localName).isSome) more).map
          (pieceOutcome use))) := by
  intro use
  have hvalid := Registry.isComponentName_of_contains hname
  have hlocal : name.toLower = name := toLower_of_isComponentName hvalid
  have haccepts : (registry.definition? name.toLower).isSome = true := by
    rw [hlocal, ← registry.contains_eq_isSome]
    exact hname
  have hidle : name.toLower ∈ (Scope.outside registry).idle := by
    rw [hlocal]
    exact Registry.contains_iff_mem_names.mp hname
  have hdepth : ¬(Scope.outside registry).active.length > options.maxDepth := Nat.not_lt_zero _
  have hroot := roots_alone (isTagName_of_isComponentName hvalid) hattributes
  have hsource : use (writtenTag name attributes false) node.chars =
      use (writtenTag name attributes true) (startTagChars name attributes true) :=
    Library.tagOutcome_congr hidle hdepth rfl rfl _ _
  have hnone : Library.outcome registry.definition? options (Scope.outside registry)
      (startTagChars name attributes true) =
        use (writtenTag name attributes true) (startTagChars name attributes true) := by
    rw [Library.outcome_of_roots hroot rfl haccepts]
    exact Outcome.append_literal_nil _
  rw [Library.outcome_of_roots hroots hnode haccepts, hnone, ← hsource]

/-- The tag of a component has the same output with content and an end tag as without, exactly when the two
tags and what is between them are read as one element. They never are for the name of a void element, and
they are for every other name if no raw text is ended early. -/
theorem expandHtml_paired (options : Options) (hname : registry.contains name = true)
    (hattributes : ∀ a ∈ attributes, a.IsLexical) (hcontent : content.isLexical = true) :
    let Same := ((expandHtml options (pairedHtml name attributes content)).run registry).1 =
      ((expandHtml options (aloneHtml name attributes)).run registry).1
    (Same ↔ (Document.parse (pairedHtml name attributes content)).IsPaired) ∧
      (isVoid name = true → ¬Same) ∧
      (isVoid name = false → content.isUnbrokenIn name = true → Same) := by
  intro Same
  have htag := isTagName_of_isComponentName (Registry.isComponentName_of_contains hname)
  have hread := Document.readStartTag?_startTagChars htag hattributes false
  have hparse : (Document.parse (pairedHtml name attributes content)).roots =
      (ofChars (startTagChars name attributes false ++ content.chars ++ endTagChars name)).roots := by
    rw [Document.parse, pairedHtml, String.toList_ofList]
  have hsame : Same ↔
      Output.ofOutcome (Library.outcome registry.definition? options (Scope.outside registry)
        (startTagChars name attributes false ++ content.chars ++ endTagChars name)) =
      Output.ofOutcome (Library.outcome registry.definition? options (Scope.outside registry)
        (startTagChars name attributes true)) := by
    simp only [Same, pairedHtml, aloneHtml, fst_expandHtml, String.toList_ofList]
  rcases Document.Builder.roots_cases hread htag rfl rfl hcontent with
    ⟨children, hroots⟩ | ⟨node, middle, t, hroots, hnode, ht⟩
  · have hpaired : (Document.parse (pairedHtml name attributes content)).IsPaired :=
      ⟨_, _, _, _, hparse.trans hroots⟩
    have hequal : Same := by
      rw [hsame, outcome_of_written options hname hattributes hroots rfl]
      exact congrArg Output.ofOutcome (Outcome.append_literal_nil _)
    refine ⟨⟨fun _ => hpaired, fun _ => hequal⟩, fun hvoid => ?_, fun _ _ => hequal⟩
    -- a void element has no end tag, so it is not the one element
    have hsound := (Document.soundLevel_ofChars _).sound _ (hroots ▸ List.mem_cons_self)
    cases hsound with
    | paired _ _ notVoid => exact absurd hvoid (Bool.eq_false_iff.mp notVoid)
  · have hunpaired : ¬(Document.parse (pairedHtml name attributes content)).IsPaired := by
      rintro ⟨tag, s, children, ending, hpaired⟩
      rw [hparse, hroots] at hpaired
      simp at hpaired
    -- the end tag is left as text, which the self-closing tag does not have
    have hunequal : ¬Same := by
      rw [hsame, outcome_of_written options hname hattributes hroots hnode]
      intro heq
      have hhtml := String.ofList_injective (congrArg Output.html heq)
      rw [Outcome.append, Library.html_concat_append_text, List.append_right_eq_self] at hhtml
      exact ht (List.append_eq_nil_iff.mp hhtml).2
    refine ⟨⟨fun h => absurd h hunequal, fun h => absurd h hunpaired⟩, fun _ => hunequal,
      fun hvoid hunbroken => ?_⟩
    obtain ⟨children, hone⟩ := Document.Builder.roots_of_unbroken hread htag rfl hvoid hcontent hunbroken
    exact absurd ⟨_, _, _, _, hparse.trans hone⟩ hunpaired

/-- A title in single quotes, with signs in it that have a meaning outside of quotes. -/
def quoted : WrittenAttribute := ⟨['\n', ' '], "main-title", [], [' '], '\'', "\"</x-titled>".toList⟩

/-- Content with an element of the same name, and with raw text. -/
def quotedContent : Markup :=
  .fragment [(Element.ofTag "X-titled").toMarkup, .text "</x-titled>",
    ((Element.ofTag "script").addChild (Element.ofTag "b").toMarkup).toMarkup]

theorem expandHtml_paired_quoted :
    titles.contains "x-titled" = true ∧ (∀ a ∈ [quoted], a.IsLexical) ∧ quotedContent.isLexical = true ∧
      isVoid "x-titled" = false ∧ quotedContent.isUnbrokenIn "x-titled" = true ∧
      ((expandHtml .standard (pairedHtml "x-titled" [quoted] quotedContent)).run titles).1 =
        ⟨"<b>\"&lt;/x-titled&gt;</b>", "", [], []⟩ := by
  have hname : titles.contains "x-titled" = true := by decide +kernel
  have hquoted : ∀ a ∈ [quoted], a.IsLexical := by
    intro a ha
    rw [List.mem_singleton.mp ha]
    exact ⟨List.cons_ne_nil _ _, by simp [quoted, Text.isGap], by decide +kernel, List.forall_mem_nil _,
      by simp [quoted, Text.isGap], .inr rfl, by simp [quoted]⟩
  have hcontent : quotedContent.isLexical = true := by decide +kernel
  have hvoid : isVoid "x-titled" = false := by decide +kernel
  have hunbroken : quotedContent.isUnbrokenIn "x-titled" = true := by decide +kernel
  have hsame := (expandHtml_paired .standard hname hquoted hcontent).2.2 hvoid hunbroken
  refine ⟨hname, hquoted, hcontent, hvoid, hunbroken, hsame.trans ?_⟩
  rw [fst_expandHtml]
  decide +kernel

def glyph (name : String) : Definition where
  name := name
  styles := OrderedMap.empty
  routes := OrderedMap.empty
  render := some fun _ _ => .done (.ok (.text "x"))
  properties := .inferred

/-- Components with the names of a void element and of a raw text element, and one with another name. -/
def glyphs : Registry :=
  (((Registry.empty .standard).setEntry (.ofDefinition (glyph "br")) (by decide +kernel)).setEntry
    (.ofDefinition (glyph "title")) (by decide +kernel)).setEntry (.ofDefinition (glyph "box"))
      (by decide +kernel)

/-- The content of a void element is kept, and an end tag in raw text may be that of the component. -/
theorem paired_not_same :
    let content := fun name => (Element.ofTag name).toMarkup
    let script := fun child => ((Element.ofTag "script").addChild child).toMarkup
    let inBox := script ((Element.ofTag "box").addChild (content "script")).toMarkup
    let html := fun source => ((expandHtml .standard source).run glyphs).1.html
    glyphs.contains "br" = true ∧ (Markup.text "y").isLexical = true ∧
      html (pairedHtml "br" [] (.text "y")) = "xy</br>" ∧ html (aloneHtml "br" []) = "x" ∧
    glyphs.contains "title" = true ∧ (content "title").isLexical = true ∧
      html (pairedHtml "title" [] (content "title")) = "x</title>" ∧ html (aloneHtml "title" []) = "x" ∧
    glyphs.contains "box" = true ∧ inBox.isLexical = true ∧
      html (pairedHtml "box" [] inBox) = "x</script></box>" ∧ html (aloneHtml "box" []) = "x" := by
  simp only [fst_expandHtml]
  decide +kernel

end Session

end Component

end HtmlComponents
