import HtmlComponents.Proofs.Document.Pieces
import HtmlComponents.Proofs.Document.Reads
import HtmlComponents.Proofs.Document.Sound

/-!
# Elements read alone

The source of an element, read as a document of its own, is that element again (`alone_ofChars`). While
an element is open, nothing that is read touches what is around it (`Builder.Within`): an end tag that
closes an element further out takes away the open one. So the tokens since its start tag build the same
element with nothing around it.
-/

namespace HtmlComponents.Document

/-- A node whose elements, itself included, are read alone as they are read here. -/
inductive Node.Alone : Node → Prop
  | text (s : List Char) : Alone (.text s)
  | comment (s : List Char) : Alone (.comment s)
  | declaration (s : List Char) : Alone (.declaration s)
  | lone {tag : StartTag} {s : List Char} (roots : (ofChars s).roots = [.lone tag s]) :
      Alone (.lone tag s)
  | paired {tag : StartTag} {s ending : List Char} {children : List Node}
      (roots : (ofChars (Node.paired tag s children ending).chars).roots =
        [.paired tag s children ending])
      (content : ∀ node ∈ children, Alone node) : Alone (.paired tag s children ending)

structure Frame.Alone (frame : Frame) : Prop where
  opening : (ofChars frame.source).roots = [.lone frame.tag frame.source]
  earlier : ∀ node ∈ frame.earlier, node.Alone

def Frame.detached (frame : Frame) : Frame := { frame with earlier := [] }

namespace Builder

section
variable {name : String} {ending : List Char} {level : List Node} {inner outer : List Frame}
  {frame : Frame}

theorem close?_eq_none {frames : List Frame} (h : ∀ frame ∈ frames, frame.tag.isNamed name = false) :
    close? name ending level frames = none := by
  induction frames generalizing level with
  | nil => rfl
  | cons frame outer ih =>
    obtain ⟨hframe, houter⟩ := List.forall_mem_cons.mp h
    rw [close?, hframe, if_neg Bool.false_ne_true, ih houter]

/-- The nearest open element of the name is closed around all that was opened in it. -/
theorem close?_append (hinner : ∀ frame ∈ inner, frame.tag.isNamed name = false)
    (hframe : frame.tag.isNamed name = true) :
    close? name ending level (inner ++ frame :: outer) =
      some ⟨.paired frame.tag frame.source (inner.foldl flatten level).reverse ending :: frame.earlier,
        outer⟩ := by
  induction inner generalizing level with
  | nil => rw [List.nil_append, close?, if_pos hframe, List.foldl_nil]
  | cons first inner ih =>
    obtain ⟨hfirst, hinner⟩ := List.forall_mem_cons.mp hinner
    rw [List.cons_append, close?, hfirst, if_neg Bool.false_ne_true, ih hinner, List.foldl_cons]

theorem nearest_or_none (name : String) (frames : List Frame) :
    (∀ frame ∈ frames, frame.tag.isNamed name = false) ∨
      ∃ inner frame outer, frames = inner ++ frame :: outer ∧
        (∀ other ∈ inner, other.tag.isNamed name = false) ∧ frame.tag.isNamed name = true := by
  induction frames with
  | nil => exact .inl fun _ h => absurd h List.not_mem_nil
  | cons first frames ih =>
    by_cases hfirst : first.tag.isNamed name = true
    · exact .inr ⟨[], first, frames, rfl, fun _ h => absurd h List.not_mem_nil, hfirst⟩
    · rw [Bool.not_eq_true] at hfirst
      rcases ih with hnone | ⟨inner, frame, outer, rfl, hinner, hframe⟩
      · exact .inl (List.forall_mem_cons.mpr ⟨hfirst, hnone⟩)
      · exact .inr ⟨first :: inner, frame, outer, rfl, List.forall_mem_cons.mpr ⟨hfirst, hinner⟩,
          hframe⟩

end

/-- `inside` is the part of a tree under construction that is in its open element `frame`, with that
element and without what is around it. -/
def Within (frame : Frame) (outer : List Frame) (inside whole : Builder) : Prop :=
  ∃ inner, whole.frames = inner ++ frame :: outer ∧
    inside = ⟨whole.level, inner ++ [frame.detached]⟩

section
variable {frame : Frame} {outer : List Frame} {inside whole : Builder} {token : Token}

theorem Within.isOpen (h : Within frame outer inside whole) :
    ∃ inner, whole.frames = inner ++ frame :: outer := by
  obtain ⟨inner, hframes, -⟩ := h
  exact ⟨inner, hframes⟩

/-- A token that leaves an element open is added in the element as it is added in the whole tree. -/
theorem Within.add (h : Within frame outer inside whole)
    (hopen : ∃ inner, (whole.add token).frames = inner ++ frame :: outer) :
    Within frame outer (inside.add token) (whole.add token) := by
  obtain ⟨level, frames⟩ := whole
  obtain ⟨inner, hframes, rfl⟩ := h
  dsimp only at hframes
  subst hframes
  cases token with
  | text s => exact ⟨inner, rfl, rfl⟩
  | comment s => exact ⟨inner, rfl, rfl⟩
  | declaration s => exact ⟨inner, rfl, rfl⟩
  | startTag tag s =>
    simp only [Builder.add]
    split
    · exact ⟨inner, rfl, rfl⟩
    · exact ⟨⟨tag, s, level⟩ :: inner, rfl, rfl⟩
  | endTag name s =>
    obtain ⟨kept, hkept⟩ := hopen
    rcases nearest_or_none name (inner ++ frame :: outer) with
      hnone | ⟨before, closed, behind, hsplit, hbefore, hclosed⟩
    · have hinside : ∀ other ∈ inner ++ [frame.detached], other.tag.isNamed name = false := by
        intro other hother
        rcases List.mem_append.mp hother with hother | hother
        · exact hnone other (List.mem_append_left _ hother)
        · rw [List.mem_singleton.mp hother]
          exact hnone frame (List.mem_append_right _ List.mem_cons_self)
      -- a stray end tag is text, in the element as in the whole tree
      simp only [Builder.add, close?_eq_none hnone, close?_eq_none hinside]
      exact ⟨inner, rfl, rfl⟩
    · -- the element that is closed is an inner one, as `frame` is still open
      rw [Builder.add, hsplit, close?_append hbefore hclosed] at hkept
      dsimp only at hkept
      have hinner : inner = before ++ closed :: kept := by
        refine (List.append_left_inj (frame :: outer)).mp ?_
        rw [hsplit, hkept, List.append_assoc, List.cons_append]
      simp only [Builder.add, hinner, List.append_assoc, List.cons_append,
        close?_append hbefore hclosed]
      exact ⟨kept, rfl, rfl⟩

theorem open_of_add {inner : List Frame} (h : (whole.add token).frames = inner ++ frame :: outer) :
    (∃ inner, whole.frames = inner ++ frame :: outer) ∨
      ∃ tag s, token = .startTag tag s ∧ frame = ⟨tag, s, whole.level⟩ ∧ inner = [] ∧
        outer = whole.frames ∧ (tag.selfClosing || isVoid tag.name) = false := by
  cases token with
  | text s => exact .inl ⟨inner, h⟩
  | comment s => exact .inl ⟨inner, h⟩
  | declaration s => exact .inl ⟨inner, h⟩
  | startTag tag s =>
    rw [add] at h
    split at h
    · exact .inl ⟨inner, h⟩
    · rename_i hopen
      rw [Bool.not_eq_true] at hopen
      cases inner with
      | nil =>
        obtain ⟨rfl, rfl⟩ := List.cons.inj h
        exact .inr ⟨tag, s, rfl, rfl, rfl, rfl, hopen⟩
      | cons first inner => exact .inl ⟨inner, (List.cons.inj h).2⟩
  | endTag name s =>
    rcases nearest_or_none name whole.frames with
      hnone | ⟨before, closed, behind, hsplit, hbefore, hclosed⟩
    · rw [add, close?_eq_none hnone] at h
      exact .inl ⟨inner, h⟩
    · rw [add, hsplit, close?_append hbefore hclosed] at h
      dsimp only at h
      rw [hsplit, h]
      exact .inl ⟨before ++ closed :: inner, by simp⟩

end

section
variable {level : List Node} {frames : List Frame}

theorem alone_addText (h : ∀ node ∈ level, node.Alone) (s : List Char) :
    ∀ node ∈ addText s level, node.Alone := by
  unfold addText
  split
  · rename_i s' rest
    exact List.forall_mem_cons.mpr ⟨.text (s' ++ s), (List.forall_mem_cons.mp h).2⟩
  · exact List.forall_mem_cons.mpr ⟨.text s, h⟩

theorem alone_flatten (h : ∀ node ∈ level, node.Alone) {frame : Frame} (hframe : frame.Alone) :
    ∀ node ∈ flatten level frame, node.Alone := by
  intro node hnode
  rcases List.mem_append.mp hnode with hnode | hnode
  · exact h node hnode
  · rcases List.mem_cons.mp hnode with rfl | hnode
    · exact .lone hframe.opening
    · exact hframe.earlier node hnode

theorem alone_foldl_flatten (h : ∀ node ∈ level, node.Alone)
    (hframes : ∀ frame ∈ frames, frame.Alone) :
    ∀ node ∈ frames.foldl flatten level, node.Alone := by
  induction frames generalizing level with
  | nil => exact h
  | cons frame frames ih =>
    obtain ⟨hframe, hframes⟩ := List.forall_mem_cons.mp hframes
    exact ih (alone_flatten h hframe) hframes

end

section
variable {frame : Frame} {outer : List Frame} {inside whole : Builder}

theorem frames_addChars (builder : Builder) (s : List Char) :
    ((textToken s).foldl add builder).frames = builder.frames := by
  cases s <;> rfl

theorem alone_addChars {builder : Builder} (h : ∀ node ∈ builder.level, node.Alone) (s : List Char) :
    ∀ node ∈ ((textToken s).foldl add builder).level, node.Alone := by
  cases s with
  | nil => exact h
  | cons c s => exact alone_addText h (c :: s)

theorem Within.addChars (h : Within frame outer inside whole) (s : List Char) :
    Within frame outer ((textToken s).foldl Builder.add inside)
      ((textToken s).foldl Builder.add whole) := by
  cases s with
  | nil => exact h
  | cons c s =>
    have hopen : ∃ inner, (whole.add (.text (c :: s))).frames = inner ++ frame :: outer := h.isOpen
    exact h.add hopen

end

/-- A tree under construction in front of the text `left`: its elements are read alone as they are, and
what was read since the start of an open element builds what is in that element. -/
structure Alone (builder : Builder) (left : List Char) : Prop where
  level : ∀ node ∈ builder.level, node.Alone
  frames : ∀ frame ∈ builder.frames, frame.Alone
  inside : ∀ inner frame outer, builder.frames = inner ++ frame :: outer →
    ∃ front ts, Reads (front ++ left) ts left ∧ Within frame outer (ts.foldl add start) builder

end Builder

section
variable {c : Char} {rest after content behind : List Char} {token : Token}

theorem chars_of_roots {text : List Char} {node : Node} (h : (ofChars text).roots = [node]) :
    node.chars = text := by
  have hchars := chars_ofChars text
  rwa [chars, h, Node.charsList, Node.charsList, List.append_nil] at hchars

theorem IsEndTag.cuttable {name : String} {s : List Char} (h : IsEndTag name s) (front : List Char) :
    Cuttable (front ++ s) := by
  obtain ⟨gaps, -, rfl⟩ := h
  intro d hd
  rw [← List.append_assoc, List.getLast?_concat] at hd
  cases hd
  rfl

theorem roots_startTag {tag : StartTag} {s : List Char}
    (htoken : readToken c rest = (.startTag tag s, after)) :
    (ofChars s).roots = [.lone tag s] := by
  have hsource := source_readToken c rest
  have hsound := sound_readToken c rest
  rw [htoken] at hsource hsound
  obtain ⟨d, s', rfl⟩ := List.exists_cons_of_ne_nil (IsStartTag.ne_nil hsound)
  obtain ⟨rfl, rfl⟩ := List.cons.inj hsource
  have hread : readToken d s' = (.startTag tag (d :: s'), []) := readToken_cut htoken
  have hraw : splitAfter (.startTag tag (d :: s')) [] = ([], []) := by
    rw [splitAfter]
    split <;> rfl
  rw [ofChars, tokens_cons hread hraw, tokens, ofTokens]
  simp only [textToken, List.isEmpty_nil, if_true, List.nil_append, List.foldl_cons, List.foldl_nil]
  rw [Builder.add]
  split <;> rfl

/-- What stands between a start tag and the end tag that closes it, with both tags, is read alone as the
element that they make up. -/
theorem roots_paired {name : String} {s front : List Char} {ts : List Token} {level : List Node}
    {inner : List Frame} {frame : Frame} (htoken : readToken c rest = (.endTag name s, after))
    (hreads : Reads (front ++ c :: rest) ts (c :: rest))
    (hinside : ts.foldl Builder.add .start = ⟨level, inner ++ [frame.detached]⟩)
    (hinner : ∀ other ∈ inner, other.tag.isNamed name = false)
    (hframe : frame.tag.isNamed name = true) :
    (ofChars (Node.paired frame.tag frame.source (inner.foldl Builder.flatten level).reverse s).chars
      ).roots = [.paired frame.tag frame.source (inner.foldl Builder.flatten level).reverse s] := by
  have hsource := source_readToken c rest
  have hsound := sound_readToken c rest
  rw [htoken] at hsource hsound
  have hwhole : Reads (front ++ s ++ after) (ts ++ [.endTag name s]) after := by
    rw [List.append_assoc, show s ++ after = c :: rest from hsource]
    exact hreads.append (.cons htoken rfl (.nil after))
  have htokens := hwhole.tokens (hsound.cuttable front)
  have hroots : (ofChars (front ++ s)).roots =
      [.paired frame.tag frame.source (inner.foldl Builder.flatten level).reverse s] := by
    have hdetached : frame.detached.tag.isNamed name = true := hframe
    rw [ofChars, htokens, ofTokens, List.foldl_append, hinside, List.foldl_cons, List.foldl_nil]
    simp only [Builder.add, Builder.close?_append hinner hdetached]
    rfl
  rw [chars_of_roots hroots, hroots]

namespace Builder.Alone

variable {builder : Builder}

theorem add_nodes (h : builder.Alone (c :: rest)) (htoken : readToken c rest = (token, after)) :
    (∀ node ∈ (builder.add token).level, node.Alone) ∧
      ∀ frame ∈ (builder.add token).frames, frame.Alone := by
  cases token with
  | text s => exact ⟨alone_addText h.level s, h.frames⟩
  | comment s => exact ⟨List.forall_mem_cons.mpr ⟨.comment s, h.level⟩, h.frames⟩
  | declaration s => exact ⟨List.forall_mem_cons.mpr ⟨.declaration s, h.level⟩, h.frames⟩
  | startTag tag s =>
    have hroots := roots_startTag htoken
    rw [Builder.add]
    split
    · exact ⟨List.forall_mem_cons.mpr ⟨.lone hroots, h.level⟩, h.frames⟩
    · exact ⟨fun _ hmem => absurd hmem List.not_mem_nil,
        List.forall_mem_cons.mpr ⟨⟨hroots, h.level⟩, h.frames⟩⟩
  | endTag name s =>
    rcases nearest_or_none name builder.frames with
      hnone | ⟨inner, frame, outer, hsplit, hinner, hframe⟩
    · rw [Builder.add, close?_eq_none hnone]
      exact ⟨alone_addText h.level s, h.frames⟩
    · -- the tokens since its start tag have built the element that is closed
      obtain ⟨front, ts, hreads, inner', hinner', hinside⟩ := h.inside inner frame outer hsplit
      obtain rfl : inner = inner' := List.append_cancel_right (hsplit.symm.trans hinner')
      have hframes := h.frames
      rw [hsplit, List.forall_mem_append, List.forall_mem_cons] at hframes
      rw [Builder.add, hsplit, close?_append hinner hframe]
      refine ⟨List.forall_mem_cons.mpr ⟨.paired ?_ ?_, hframes.2.1.earlier⟩, hframes.2.2⟩
      · exact roots_paired htoken hreads hinside hinner hframe
      · intro node hnode
        exact alone_foldl_flatten h.level hframes.1 node (List.mem_reverse.mp hnode)

/-- An open element has been built alone by the tokens since its start tag, the last token included. -/
theorem inside_add {inner outer : List Frame} {frame : Frame} (h : builder.Alone (c :: rest))
    (hopen : (builder.add token).frames = inner ++ frame :: outer) :
    ∃ front ts, Reads (front ++ c :: rest) ts (c :: rest) ∧
      Within frame outer ((ts.foldl Builder.add .start).add token) (builder.add token) := by
  rcases open_of_add hopen with ⟨before, hbefore⟩ | ⟨tag, s, rfl, rfl, rfl, rfl, hopens⟩
  · obtain ⟨front, ts, hreads, hwithin⟩ := h.inside before frame outer hbefore
    exact ⟨front, ts, hreads, hwithin.add ⟨inner, hopen⟩⟩
  · -- the token opens the element, and nothing has been read in it
    refine ⟨[], [], .nil _, [], hopen, ?_⟩
    simp only [List.foldl_nil, Builder.add, hopens, Bool.false_eq_true, if_false]
    rfl

theorem step (h : builder.Alone (c :: rest)) (htoken : readToken c rest = (token, after))
    (hraw : splitAfter token after = (content, behind)) :
    ((textToken content).foldl Builder.add (builder.add token)).Alone behind := by
  obtain ⟨hlevel, hframes⟩ := h.add_nodes htoken
  have hsame := frames_addChars (builder.add token) content
  refine ⟨alone_addChars hlevel content, by rwa [hsame], fun inner frame outer hopen => ?_⟩
  rw [hsame] at hopen
  obtain ⟨front, ts, hreads, hwithin⟩ := h.inside_add hopen
  refine ⟨front ++ (token.source ++ content), ts ++ (token :: (textToken content ++ [])), ?_, ?_⟩
  · have hstep := hreads.append (.cons htoken hraw (.nil behind))
    rwa [source_append_of_readToken htoken hraw, ← List.append_assoc] at hstep
  · rw [List.append_nil, List.foldl_append, List.foldl_cons]
    exact hwithin.addChars content

theorem foldl_tokens {text : List Char} (h : builder.Alone text) :
    ((tokens text).foldl Builder.add builder).Alone [] := by
  fun_induction tokens text generalizing builder with
  | case1 => exact h
  | case2 c rest token raw =>
    rename_i ih
    rw [List.foldl_cons, List.foldl_append]
    exact ih (h.step rfl rfl)

end Builder.Alone

end

/-- Every element of a tree that was read is read alone as it is there. -/
theorem alone_ofChars (text : List Char) : ∀ node ∈ (ofChars text).roots, node.Alone := by
  have hstart : Builder.start.Alone text := by
    refine ⟨by simp [Builder.start], by simp [Builder.start], fun inner frame outer hopen => ?_⟩
    exact absurd hopen.symm (by simp [Builder.start])
  have hend := hstart.foldl_tokens
  intro node hnode
  exact Builder.alone_foldl_flatten hend.level hend.frames node (List.mem_reverse.mp hnode)

/-! ### Found elements -/

section
variable {accepts : StartTag → Bool} {tag : StartTag} {source : List Char}

mutual

theorem roots_of_mem_piecesIn : (node : Node) → node.Alone → .element tag source ∈ piecesIn accepts node →
    accepts tag = true ∧ ∃ node : Node, node.tag? = some tag ∧ (ofChars source).roots = [node]
  | .text _, _, h | .comment _, _, h | .declaration _, _, h => by simp [piecesIn] at h
  | .lone _ s, halone, h => by
    rw [piecesIn] at h
    split at h
    · rename_i haccepts
      cases halone with
      | lone hroots =>
        cases List.mem_singleton.mp h
        exact ⟨haccepts, _, rfl, hroots⟩
    · cases List.mem_singleton.mp h
  | .paired _ s children ending, halone, h => by
    cases halone with
    | paired hroots hcontent =>
      rw [piecesIn] at h
      split at h
      · rename_i haccepts
        cases List.mem_singleton.mp h
        exact ⟨haccepts, _, rfl, hroots⟩
      · have hmem : .element tag source ∈ pieces accepts children := by simpa using h
        exact roots_of_mem_pieces children hcontent hmem

/-- An element among the pieces of a document is the only node of its own source. -/
theorem roots_of_mem_pieces : (nodes : List Node) → (∀ node ∈ nodes, node.Alone) →
    .element tag source ∈ pieces accepts nodes →
    accepts tag = true ∧ ∃ node : Node, node.tag? = some tag ∧ (ofChars source).roots = [node]
  | [], _, h => by cases h
  | node :: rest, halone, h => by
    obtain ⟨hnode, hrest⟩ := List.forall_mem_cons.mp halone
    rw [pieces] at h
    rcases List.mem_append.mp h with h | h
    · exact roots_of_mem_piecesIn node hnode h
    · exact roots_of_mem_pieces rest hrest h

end

theorem pieces_singleton {node : Node} (htag : node.tag? = some tag) (haccepts : accepts tag = true) :
    pieces accepts [node] = [.element tag node.chars] := by
  cases node with
  | text | comment | declaration => cases htag
  | lone | paired =>
    cases htag
    rw [pieces, pieces, piecesIn, if_pos haccepts]
    rfl

theorem pieces_of_mem_pieces {text : List Char}
    (h : .element tag source ∈ pieces accepts (ofChars text).roots) :
    pieces accepts (ofChars source).roots = [.element tag source] := by
  obtain ⟨haccepts, node, htag, hroots⟩ := roots_of_mem_pieces _ (alone_ofChars text) h
  rw [hroots, pieces_singleton htag haccepts, chars_of_roots hroots]

end

end HtmlComponents.Document
