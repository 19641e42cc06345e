import HtmlComponents.Proofs.Component.Structural
import HtmlComponents.Proofs.Document.Pieces

/-!
# Texts that read alike everywhere

A text reads as given nodes if it does so wherever it stands (`ReadAs`). Texts of this kind may follow one
another and stand in elements, so what is written in the place of elements of markup cannot run into what
is around it. A text is sealed if it reads as nodes without an element of some kind, and markup stays
sealed when sealed texts are put in the place of all these elements (`sealed_filled`).
-/

namespace HtmlComponents.Document

/-- A text that reads as the same nodes whatever is around it. -/
def ReadAs (s : List Char) (nodes : List Node) : Prop :=
  ∀ (builder : Builder) (rest : List Char),
    builder.read (s ++ rest) = (Builder.mk (Builder.place builder.level nodes) builder.frames).read rest

namespace ReadAs

variable {s t : List Char} {nodes others : List Node} {opening : Opening}

theorem nil : ReadAs [] [] := fun _ _ => rfl

theorem append (h : ReadAs s nodes) (h' : ReadAs t others) : ReadAs (s ++ t) (nodes ++ others) := by
  intro builder rest
  rw [List.append_assoc, h, h', Builder.place_append]

theorem chars {markup : Markup} (h : markup.isReadable = true) : ReadAs markup.chars markup.nodes :=
  Builder.read_chars markup h

theorem element (hopening : opening.isReadable = true) (hchildless : opening.isChildless = false)
    (hraw : isRawText opening.tag = true → '<' ∉ s) (h : ReadAs s nodes) :
    ReadAs (opening.chars ++ s ++ endTagChars opening.tag)
      [.paired opening.startTag opening.chars (joinTexts nodes) (endTagChars opening.tag)] := by
  intro builder rest
  have htag : isTagName opening.tag = true := by
    rw [Opening.isReadable, Bool.and_eq_true] at hopening
    exact hopening.1
  rw [List.append_assoc, List.append_assoc, Builder.read_opening hopening, Builder.add_opening hchildless, h,
    Builder.read_endTag htag, Builder.add_endTag, Builder.reverse_place_nil]
  · rfl
  · intro hrawText _
    exact ⟨s, rest, hraw hrawText, rfl⟩

theorem roots (h : ReadAs s nodes) : (ofChars s).roots = joinTexts nodes := by
  have hread := h .start []
  rw [List.append_nil] at hread
  have hroots : (ofChars s).roots = (Builder.start.read s).finish := rfl
  rw [hroots, hread, ← Builder.reverse_place_nil, Builder.read, tokens]
  rfl

end ReadAs

/-! ### Comments -/

/-- A text that ends no comment when a blank follows it. -/
def KeepsComment (s : List Char) : Prop :=
  ∀ rest, findFrom? commentEnd (s ++ ' ' :: rest) = findFrom? commentEnd (' ' :: rest)

theorem findFrom?_blank (rest : List Char) :
    findFrom? commentEnd (' ' :: rest) = findFrom? commentEnd rest := rfl

namespace KeepsComment

variable {s t : List Char}

theorem of_notMem (h : '>' ∉ s) : KeepsComment s := by
  intro rest
  induction s with
  | nil => rfl
  | cons c s ih =>
    rw [List.mem_cons, not_or] at h
    have hstep : commentEnd.isPrefixOf (c :: (s ++ ' ' :: rest)) = false := by
      -- an end of the comment would have its last character in `s`, or a blank inside
      match s, h.2 with
      | [], _ => simp [commentEnd, List.isPrefixOf]
      | [d], _ => simp [commentEnd, List.isPrefixOf]
      | d :: e :: _, hs =>
        rw [List.mem_cons, List.mem_cons, not_or, not_or] at hs
        simp [commentEnd, List.isPrefixOf, hs.2.1]
    rw [List.cons_append, findFrom?, hstep]
    exact ih h.2

theorem arrow : KeepsComment ['-', '>'] := fun _ => rfl

theorem append (h : KeepsComment s) (h' : KeepsComment t) : KeepsComment (s ++ ' ' :: t) := by
  intro rest
  rw [List.append_assoc, List.cons_append, h, findFrom?_blank, h']

end KeepsComment

theorem ReadAs.comment {s : List Char} (h : KeepsComment s) :
    ReadAs (commentStart ++ (s ++ ' ' :: commentEnd))
      [.comment (commentStart ++ (s ++ ' ' :: commentEnd))] := by
  intro builder rest
  have hstart : commentStart.isPrefixOf (commentStart ++ (s ++ ' ' :: commentEnd) ++ rest) = true := by
    rw [List.append_assoc]
    exact List.isPrefixOf_iff_prefix.mpr (List.prefix_append ..)
  have hafter : afterComment (commentStart ++ (s ++ ' ' :: commentEnd) ++ rest) = rest := by
    rw [List.append_assoc, List.append_assoc, afterComment_commentStart, List.cons_append, h]
    rfl
  obtain ⟨left, hleft⟩ : ∃ left,
      commentStart ++ (s ++ ' ' :: commentEnd) ++ rest = '<' :: left := ⟨_, rfl⟩
  have htoken : readToken '<' left = (.comment (commentStart ++ (s ++ ' ' :: commentEnd)), rest) := by
    rw [readToken, ← hleft]
    simp only [hstart, hafter, upTo_append_left, if_true]
  rw [Builder.read, hleft, tokens, htoken]
  rfl

/-! ### Sealed texts -/

section
variable (accepts : StartTag → Bool)

/-- Nodes without an element that `accepts` takes. -/
def Bare (nodes : List Node) : Prop := ∀ tag source, .element tag source ∉ pieces accepts nodes

/-- A text that reads as nodes without an element that `accepts` takes, wherever it stands. -/
def Sealed (s : List Char) : Prop := ∃ nodes, ReadAs s nodes ∧ Bare accepts nodes

/-- A piece, with a text in the place of an element. -/
def Piece.filled (fill : StartTag → List Char → List Char) : Piece → List Char
  | .literal s => s
  | .element tag source => fill tag source

end

variable {accepts : StartTag → Bool} {fill : StartTag → List Char → List Char} {s t : List Char}
  {nodes others : List Node}

theorem mem_pieces_joinTexts {tag : StartTag} {source : List Char} :
    .element tag source ∈ pieces accepts (joinTexts nodes) ↔
      .element tag source ∈ pieces accepts nodes := by
  induction nodes with
  | nil => rfl
  | cons node rest ih =>
    rcases joinTexts_cons node rest with ⟨a, b, more, rfl, hrest, hjoin⟩ | hjoin
    · rw [hrest] at ih
      simpa [hjoin, pieces, piecesIn] using ih
    · rw [hjoin, pieces, pieces, List.mem_append, List.mem_append, ih]

theorem filled_joinTexts (nodes : List Node) :
    (pieces accepts (joinTexts nodes)).flatMap (Piece.filled fill) =
      (pieces accepts nodes).flatMap (Piece.filled fill) := by
  induction nodes with
  | nil => rfl
  | cons node rest ih =>
    rcases joinTexts_cons node rest with ⟨a, b, more, rfl, hrest, hjoin⟩ | hjoin
    · rw [hrest] at ih
      rw [hjoin, pieces, pieces, List.flatMap_append, List.flatMap_append, ← ih]
      simp [pieces, piecesIn, Piece.filled]
    · rw [hjoin, pieces, pieces, List.flatMap_append, List.flatMap_append, ih]

namespace Bare

theorem nil : Bare accepts [] := fun _ _ h => nomatch h

theorem append (h : Bare accepts nodes) (h' : Bare accepts others) : Bare accepts (nodes ++ others) := by
  intro tag source hmem
  rw [pieces_append, List.mem_append] at hmem
  exact hmem.elim (h tag source) (h' tag source)

theorem joinTexts (h : Bare accepts nodes) : Bare accepts (joinTexts nodes) :=
  fun tag source hmem => h tag source (mem_pieces_joinTexts.mp hmem)

theorem of_texts (h : ∀ node ∈ nodes, ∃ s, node = .text s) : Bare accepts nodes := by
  induction nodes with
  | nil => exact nil
  | cons node rest ih =>
    obtain ⟨s, rfl⟩ := h node List.mem_cons_self
    have hrest := ih fun n hn => h n (List.mem_cons_of_mem _ hn)
    intro tag source hmem
    rw [pieces, List.mem_append] at hmem
    rcases hmem with hmem | hmem
    · cases List.mem_singleton.mp hmem
    · exact hrest tag source hmem

theorem filled (h : Bare accepts nodes) (fill : StartTag → List Char → List Char) :
    (pieces accepts nodes).flatMap (Piece.filled fill) = Node.charsList nodes := by
  rw [← source_pieces accepts, List.flatMap_def, List.flatMap_def]
  congr 1
  refine List.map_congr_left fun piece hpiece => ?_
  cases piece with
  | literal s => rfl
  | element tag source => exact absurd hpiece (h tag source)

end Bare

mutual

theorem text_of_isOnlyText : (markup : Markup) → markup.isOnlyText = true →
    ∀ node ∈ markup.nodes, ∃ s, node = .text s
  | .text s, _ => by
    intro node hnode
    rw [Markup.nodes] at hnode
    split at hnode
    · cases hnode
    · exact ⟨_, List.mem_singleton.mp hnode⟩
  | .raw _, h => by simp [Markup.isOnlyText] at h
  | .fragment children, h => by
    rw [Markup.isOnlyText] at h
    rw [Markup.nodes]
    exact text_of_isOnlyTextList children h
  | .element _ _, h => by simp [Markup.isOnlyText] at h

theorem text_of_isOnlyTextList : (children : List Markup) → Markup.isOnlyTextList children = true →
    ∀ node ∈ Markup.nodesList children, ∃ s, node = .text s
  | [], _ => fun _ hnode => nomatch hnode
  | child :: rest, h => by
    rw [Markup.isOnlyTextList, Bool.and_eq_true] at h
    intro node hnode
    rw [Markup.nodesList, List.mem_append] at hnode
    rcases hnode with hnode | hnode
    · exact text_of_isOnlyText child h.1 node hnode
    · exact text_of_isOnlyTextList rest h.2 node hnode

end

theorem lt_notMem_filled {children : List Markup} (hreadable : Markup.isReadableList children = true)
    (h : Markup.isOnlyTextList children = true) :
    '<' ∉ (pieces accepts (Markup.nodesList children)).flatMap (Piece.filled fill) := by
  have hbare : Bare accepts (Markup.nodesList children) := .of_texts (text_of_isOnlyTextList children h)
  have hchars : Node.charsList (Markup.nodesList children) = Markup.charsList children :=
    @charsList_nodes (.fragment children) hreadable
  rw [hbare.filled, hchars]
  exact Markup.lt_notMem_charsList children h

namespace Sealed

variable {opening : Opening}

theorem nil : Sealed accepts [] := ⟨[], .nil, .nil⟩

theorem append (h : Sealed accepts s) (h' : Sealed accepts t) : Sealed accepts (s ++ t) := by
  obtain ⟨nodes, hread, hbare⟩ := h
  obtain ⟨others, hread', hbare'⟩ := h'
  exact ⟨nodes ++ others, hread.append hread', hbare.append hbare'⟩

theorem comment (h : KeepsComment s) : Sealed accepts (commentStart ++ (s ++ ' ' :: commentEnd)) := by
  refine ⟨_, .comment h, fun tag source hmem => ?_⟩
  cases List.mem_singleton.mp hmem

theorem of_bare {markup : Markup} (h : markup.isReadable = true) (hbare : Bare accepts markup.nodes)
    (fill : StartTag → List Char → List Char) :
    Sealed accepts ((pieces accepts markup.nodes).flatMap (Piece.filled fill)) := by
  rw [hbare.filled, charsList_nodes h]
  exact ⟨markup.nodes, .chars h, hbare⟩

theorem element (hopening : opening.isReadable = true) (hchildless : opening.isChildless = false)
    (hraw : isRawText opening.tag = true → '<' ∉ s) (haccepts : accepts opening.startTag = false)
    (h : Sealed accepts s) : Sealed accepts (opening.chars ++ s ++ endTagChars opening.tag) := by
  obtain ⟨nodes, hread, hbare⟩ := h
  refine ⟨_, hread.element hopening hchildless hraw, fun tag source hmem => ?_⟩
  rw [pieces, pieces, piecesIn, haccepts, List.append_nil] at hmem
  rcases List.mem_cons.mp hmem with hmem | hmem
  · cases hmem
  · rcases List.mem_append.mp hmem with hmem | hmem
    · exact hbare.joinTexts tag source hmem
    · cases List.mem_singleton.mp hmem

end Sealed

/-! ### Elements in markup -/

section
variable {opening : Opening} (children : List Markup)

theorem pieces_of_accepts (h : accepts opening.startTag = true) :
    ∃ source, pieces accepts (Markup.element opening children).nodes =
      [.element opening.startTag source] := by
  rw [Markup.nodes]
  split
  · exact ⟨opening.chars, by rw [pieces, pieces, piecesIn, if_pos h, List.append_nil]⟩
  · refine ⟨Node.chars (.paired opening.startTag opening.chars
      (joinTexts (Markup.nodesList children)) (endTagChars opening.tag)), ?_⟩
    rw [pieces, pieces, piecesIn, if_pos h, List.append_nil]

theorem bare_of_isChildless (h : accepts opening.startTag = false) (hchildless : opening.isChildless = true) :
    Bare accepts (Markup.element opening children).nodes := by
  intro tag source hmem
  rw [Markup.nodes, if_pos hchildless, pieces, pieces, piecesIn, h] at hmem
  cases List.mem_singleton.mp hmem

theorem filled_element (h : accepts opening.startTag = false) (hchildless : opening.isChildless = false) :
    (pieces accepts (Markup.element opening children).nodes).flatMap (Piece.filled fill) =
      opening.chars ++ (pieces accepts (Markup.nodesList children)).flatMap (Piece.filled fill) ++
        endTagChars opening.tag := by
  rw [Markup.nodes, if_neg (Bool.eq_false_iff.mp hchildless), pieces, pieces, piecesIn, h,
    if_neg Bool.false_ne_true, List.append_nil, List.flatMap_cons, List.flatMap_append, filled_joinTexts,
    List.flatMap_singleton, ← List.append_assoc]
  rfl

end

mutual

/-- Markup with sealed texts in the place of all elements that `accepts` takes is sealed. -/
theorem sealed_filled (hfill : ∀ tag source, accepts tag = true → Sealed accepts (fill tag source)) :
    (markup : Markup) → markup.isReadable = true →
    Sealed accepts ((pieces accepts markup.nodes).flatMap (Piece.filled fill))
  | .text s, h => .of_bare h (.of_texts (text_of_isOnlyText (.text s) rfl)) fill
  | .raw _, h => by simp [Markup.isReadable] at h
  | .fragment children, h => by
    rw [Markup.isReadable] at h
    rw [Markup.nodes]
    exact sealed_filledList hfill children h
  | .element opening children, h => by
    cases haccepts : accepts opening.startTag with
    | true =>
      -- the whole element is one piece
      obtain ⟨source, hpieces⟩ := pieces_of_accepts children haccepts
      rw [hpieces, List.flatMap_singleton]
      exact hfill opening.startTag source haccepts
    | false =>
      cases hchildless : opening.isChildless with
      | true => exact .of_bare h (bare_of_isChildless children haccepts hchildless) fill
      | false =>
        rw [Markup.isReadable, Bool.and_eq_true, Bool.and_eq_true] at h
        obtain ⟨⟨hopening, hraw⟩, hchildren⟩ := h
        rw [filled_element children haccepts hchildless]
        refine .element hopening hchildless (fun hrawText => ?_) haccepts
          (sealed_filledList hfill children hchildren)
        rw [hrawText, Bool.not_true, Bool.false_or] at hraw
        exact lt_notMem_filled hchildren hraw

theorem sealed_filledList (hfill : ∀ tag source, accepts tag = true → Sealed accepts (fill tag source)) :
    (children : List Markup) → Markup.isReadableList children = true →
    Sealed accepts ((pieces accepts (Markup.nodesList children)).flatMap (Piece.filled fill))
  | [], _ => .nil
  | node :: rest, h => by
    rw [Markup.isReadableList, Bool.and_eq_true] at h
    rw [Markup.nodesList, pieces_append, List.flatMap_append]
    exact (sealed_filled hfill node h.1).append (sealed_filledList hfill rest h.2)

end

mutual

theorem accepts_placeNode {parent : Option Nat} {id start : Nat} {p : Placed} {tag : StartTag} :
    (node : Node) → (∀ tag source, .element tag source ∉ piecesIn accepts node) →
    p ∈ placeNode parent id start node → p.node.tag? = some tag → accepts tag = false
  | .text _, _, hp, htag | .comment _, _, hp, htag | .declaration _, _, hp, htag => by
    rw [List.mem_singleton.mp hp] at htag
    cases htag
  | .lone _ s, h, hp, htag => by
    rw [List.mem_singleton.mp hp] at htag
    cases htag
    rw [Bool.eq_false_iff]
    intro haccepts
    refine h tag s ?_
    rw [piecesIn, if_pos haccepts]
    exact List.mem_singleton_self _
  | .paired own s children ending, h, hp, htag => by
    by_cases haccepts : accepts own = true
    · refine absurd ?_ (h own (Node.chars (.paired own s children ending)))
      rw [piecesIn, if_pos haccepts]
      exact List.mem_singleton_self _
    · rcases List.mem_cons.mp hp with rfl | hp
      · cases htag
        exact Bool.eq_false_iff.mpr haccepts
      · refine accepts_placeNodes children (fun other source hmem => h other source ?_) hp htag
        rw [piecesIn, if_neg haccepts]
        exact List.mem_cons_of_mem _ (List.mem_append_left _ hmem)

theorem accepts_placeNodes {parent : Option Nat} {id start : Nat} {p : Placed} {tag : StartTag} :
    (nodes : List Node) → Bare accepts nodes → p ∈ placeNodes parent id start nodes →
    p.node.tag? = some tag → accepts tag = false
  | [], _, hp, _ => nomatch hp
  | node :: rest, h, hp, htag => by
    rw [placeNodes, List.mem_append] at hp
    rcases hp with hp | hp
    · exact accepts_placeNode node
        (fun other source hmem => h other source (List.mem_append_left _ hmem)) hp htag
    · exact accepts_placeNodes rest
        (fun other source hmem => h other source (List.mem_append_right _ hmem)) hp htag

end

end HtmlComponents.Document
