import HtmlComponents.Proofs.Document.Alone
import HtmlComponents.Proofs.Document.WellFormed

/-!
# Raw text elements

The content of a raw text element is taken as text up to the first place that looks like the beginning of
its end tag. What stands from there on is read as ordinary markup, while the element is still open. So the
element holds nothing but text exactly when that rest reads as text and end tags
(`isText_children_iff`).
-/

namespace HtmlComponents.Document

/-- Text, or an end tag, which is text where it closes nothing. -/
def Token.isTextual : Token → Bool
  | .text _ => true
  | .endTag _ _ => true
  | _ => false

theorem isTextual_of_mem_textToken {s : List Char} {token : Token} (h : token ∈ textToken s) :
    token.isTextual = true := by
  cases s with
  | nil => cases h
  | cons c s =>
    rw [List.mem_singleton.mp h]
    rfl

theorem Token.Sound.source_ne_nil {token : Token} (h : token.Sound) : token.source ≠ [] := by
  cases token with
  | text | comment | declaration => exact h
  | startTag => exact IsStartTag.ne_nil h
  | endTag => exact IsEndTag.ne_nil h

theorem eq_nil_of_sources {tokens : List Token} (hsources : ∀ token ∈ tokens, token.source ≠ [])
    (h : tokens.flatMap Token.source = []) : tokens = [] := by
  refine List.eq_nil_iff_forall_not_mem.mpr fun token htoken => ?_
  exact hsources token htoken (List.flatMap_eq_nil_iff.mp h token htoken)

namespace Builder

/-- Only `frame` is open, and there is nothing but text in it. -/
structure Textual (frame : Frame) (builder : Builder) : Prop where
  frames : builder.frames = [frame]
  level : ∀ node ∈ builder.level, node.isText = true

section
variable {frame : Frame} {builder : Builder} {token : Token} {s : List Char}

theorem isText_addText_iff {level : List Node} :
    (∀ node ∈ addText s level, node.isText = true) ↔ ∀ node ∈ level, node.isText = true := by
  unfold addText
  split <;> simp [Node.isText]

theorem textual_addText_iff :
    Textual frame { builder with level := addText s builder.level } ↔ Textual frame builder :=
  ⟨fun h => ⟨h.frames, isText_addText_iff.mp h.level⟩,
    fun h => ⟨h.frames, isText_addText_iff.mpr h.level⟩⟩

theorem not_textual_cons {node : Node} {nodes : List Node} {frames : List Frame}
    (hnode : node.isText = false) : ¬Textual frame ⟨node :: nodes, frames⟩ := fun h => by
  have htext := h.level node List.mem_cons_self
  rw [hnode] at htext
  cases htext

/-- A token that leaves an element open adds nothing but text to it if it is textual, and only then. -/
theorem textual_add_iff (hbefore : ∃ inner, builder.frames = inner ++ [frame])
    (hopen : ∃ inner, (builder.add token).frames = inner ++ [frame]) :
    Textual frame (builder.add token) ↔ Textual frame builder ∧ token.isTextual = true := by
  cases token with
  | text s => simpa only [add, Token.isTextual, and_true] using textual_addText_iff
  | comment s => simpa [add, Token.isTextual] using not_textual_cons rfl
  | declaration s => simpa [add, Token.isTextual] using not_textual_cons rfl
  | startTag tag s =>
    simp only [Token.isTextual, Bool.false_eq_true, and_false, iff_false, add]
    split
    · exact not_textual_cons rfl
    · -- the new element is open beside `frame`
      intro h
      obtain ⟨inner, hinner⟩ := hbefore
      have hnone := (List.cons.inj h.frames).2
      simp [hinner] at hnone
  | endTag name s =>
    rcases nearest_or_none name builder.frames with
      hnone | ⟨before, closed, behind, hsplit, hbefore, hclosed⟩
    · simpa only [add, close?_eq_none hnone, Token.isTextual, and_true] using textual_addText_iff
    · -- the element that is closed is an inner one, and then there is more than text
      rw [add, hsplit, close?_append hbefore hclosed] at hopen ⊢
      obtain ⟨inner, hinner⟩ := hopen
      dsimp only at hinner ⊢
      refine ⟨fun h => absurd h (not_textual_cons rfl), fun h => ?_⟩
      have hlength := congrArg List.length (hsplit.symm.trans h.1.frames)
      simp only [hinner, List.length_append, List.length_cons, List.length_nil] at hlength
      omega

end

/-- Tokens of which the first opens the outermost open element: nothing but text is in it exactly when the
others are textual. -/
theorem textual_foldl_iff {tag : StartTag} {s : List Char} {tokens : List Token} {inner : List Frame}
    (hsources : ∀ token ∈ tokens, token.source ≠ [])
    (h : (tokens.foldl add start).frames = inner ++ [⟨tag, s, []⟩]) :
    ∃ rest, tokens = .startTag tag s :: rest ∧
      (Textual ⟨tag, s, []⟩ (tokens.foldl add start) ↔ ∀ token ∈ rest, token.isTextual = true) := by
  induction tokens using List.reverseRecOn generalizing inner with
  | nil => simp [start] at h
  | append_singleton earlier token ih =>
    rw [List.foldl_append, List.foldl_cons, List.foldl_nil] at h ⊢
    rcases open_of_add h with ⟨before, hbefore⟩ | ⟨tag', s', rfl, hframe, rfl, houter, hopen⟩
    · obtain ⟨rest, rfl, hrest⟩ := ih (fun t ht => hsources t (List.mem_append_left _ ht)) hbefore
      refine ⟨rest ++ [token], rfl, ?_⟩
      rw [textual_add_iff ⟨before, hbefore⟩ ⟨inner, h⟩, hrest]
      simp [or_imp, forall_and]
    · -- the element is opened with nothing before it, so by the first token
      obtain ⟨rfl, rfl, hlevel⟩ := Frame.mk.inj hframe
      have hchars := chars_foldl_add start earlier
      rw [← hlevel, ← houter] at hchars
      obtain rfl : earlier = [] :=
        eq_nil_of_sources (fun t ht => hsources t (List.mem_append_left _ ht)) hchars.symm
      refine ⟨[], rfl, ?_⟩
      simp only [List.foldl_nil, add, hopen, start]
      exact ⟨fun _ => by simp, fun _ => ⟨rfl, by simp⟩⟩

theorem exists_lone_of_foldl_flatten (level : List Node) {frames : List Frame} (h : frames ≠ []) :
    ∃ tag s, .lone tag s ∈ frames.foldl flatten level := by
  obtain ⟨inner, frame, rfl⟩ := (List.eq_nil_or_concat frames).resolve_left h
  refine ⟨frame.tag, frame.source, ?_⟩
  rw [List.concat_eq_append, List.foldl_append, List.foldl_cons, List.foldl_nil]
  exact List.mem_append_right _ List.mem_cons_self

section
variable {builder : Builder} {token : Token} {tag : StartTag} {s ending : List Char}
  {children : List Node}

theorem eq_of_finish (h : builder.finish = [.paired tag s children ending]) :
    builder = ⟨[.paired tag s children ending], []⟩ := by
  obtain ⟨level, frames⟩ := builder
  have hlevel : frames.foldl flatten level = [.paired tag s children ending] :=
    List.reverse_eq_iff.mp h
  by_cases hframes : frames = []
  · subst hframes
    exact congrArg (Builder.mk · []) hlevel
  · obtain ⟨tag', s', hlone⟩ := exists_lone_of_foldl_flatten level hframes
    rw [hlevel] at hlone
    cases List.mem_singleton.mp hlone

theorem addText_ne_paired {text : List Char} {level rest : List Node} :
    addText text level ≠ .paired tag s children ending :: rest := by
  unfold addText
  split <;> exact fun h => nomatch (List.cons.inj h).1

theorem closes_of_add (h : builder.add token = ⟨[.paired tag s children ending], []⟩) :
    ∃ name inner, token = .endTag name ending ∧ builder.frames = inner ++ [⟨tag, s, []⟩] ∧
      children = (inner.foldl flatten builder.level).reverse := by
  cases token with
  | text s' => exact absurd (Builder.mk.inj h).1 addText_ne_paired
  | comment | declaration => cases (Builder.mk.inj h).1
  | startTag tag' s' =>
    rw [add] at h
    split at h
    · cases (Builder.mk.inj h).1
    · cases (Builder.mk.inj h).2
  | endTag name s' =>
    rcases nearest_or_none name builder.frames with
      hnone | ⟨before, closed, behind, hsplit, hbefore, hclosed⟩
    · rw [add, close?_eq_none hnone] at h
      exact absurd (Builder.mk.inj h).1 addText_ne_paired
    · rw [add, hsplit, close?_append hbefore hclosed] at h
      obtain ⟨hlevel, rfl⟩ := Builder.mk.inj h
      obtain ⟨hnode, hearlier⟩ := List.cons.inj hlevel
      obtain ⟨tag', s'', earlier⟩ := closed
      cases hnode
      cases hearlier
      exact ⟨name, before, rfl, hsplit, rfl⟩

theorem isText_iff_textual {frame : Frame} {inner : List Frame}
    (h : builder.frames = inner ++ [frame]) :
    (∀ node ∈ (inner.foldl flatten builder.level).reverse, node.isText = true) ↔
      Textual frame builder := by
  simp only [List.mem_reverse]
  constructor
  · intro htext
    have hinner : inner = [] := by
      by_contra hne
      obtain ⟨tag', s', hlone⟩ := exists_lone_of_foldl_flatten builder.level hne
      cases htext _ hlone
    subst hinner
    exact ⟨h, htext⟩
  · intro htextual
    have hinner : inner = [] := by
      have hlength := congrArg List.length (h.symm.trans htextual.frames)
      simpa using hlength
    subst hinner
    exact htextual.level

end

end Builder

section
variable {tag : StartTag} {s ending raw behind : List Char} {children : List Node}

/-- An element that is read alone falls into its start tag, raw text, and what is read as markup up to and
with its end tag. -/
theorem tokens_of_roots (h : (ofChars (Node.chars (.paired tag s children ending))).roots =
      [.paired tag s children ending])
    (hraw : splitAfter (.startTag tag s) (Node.charsList children ++ ending) = (raw, behind)) :
    ∃ name rest, textToken raw ++ tokens behind = rest ++ [.endTag name ending] ∧
      ((∀ node ∈ children, node.isText = true) ↔ ∀ token ∈ rest, token.isTextual = true) := by
  generalize htext : Node.chars (.paired tag s children ending) = text at h
  have hbuilt := Builder.eq_of_finish h
  cases text with
  | nil => rw [tokens] at hbuilt; cases hbuilt
  | cons c more =>
    -- the last token closes the element and the first one opens it
    obtain ⟨earlier, last, htokens⟩ : ∃ earlier last, tokens (c :: more) = earlier ++ [last] := by
      rcases List.eq_nil_or_concat (tokens (c :: more)) with hnil | ⟨earlier, last, hlast⟩
      · rw [hnil] at hbuilt
        cases hbuilt
      · exact ⟨earlier, last, hlast.trans List.concat_eq_append⟩
    have hsources : ∀ token ∈ earlier, token.source ≠ [] := fun token htoken =>
      (sound_tokens (c :: more) token (htokens ▸ List.mem_append_left _ htoken)).source_ne_nil
    rw [htokens, List.foldl_append, List.foldl_cons, List.foldl_nil] at hbuilt
    obtain ⟨name, inner, rfl, hframes, hchildren⟩ := Builder.closes_of_add hbuilt
    obtain ⟨rest, rfl, htextual⟩ := Builder.textual_foldl_iff hsources hframes
    -- so what is read behind the start tag is the content and the end tag
    rcases htoken : readToken c more with ⟨first, after⟩
    rcases hbehind : splitAfter first after with ⟨content, left⟩
    have hsource := source_readToken c more
    have hfirst := tokens_cons htoken hbehind
    rw [htoken] at hsource
    rw [htokens, List.cons_append] at hfirst
    obtain ⟨rfl, hrest⟩ := List.cons.inj hfirst
    have hafter : after = Node.charsList children ++ ending := by
      have hbehind : s ++ (Node.charsList children ++ ending) = c :: more :=
        (List.append_assoc ..).symm.trans htext
      exact List.append_cancel_left (hsource.trans hbehind.symm)
    cases hraw.symm.trans (hafter ▸ hbehind)
    refine ⟨name, rest, hrest.symm, ?_⟩
    rw [hchildren, Builder.isText_iff_textual hframes, htextual]

theorem isText_children_iff (h : (ofChars (Node.chars (.paired tag s children ending))).roots =
      [.paired tag s children ending])
    (hraw : splitAfter (.startTag tag s) (Node.charsList children ++ ending) = (raw, behind)) :
    (∀ node ∈ children, node.isText = true) ↔ ∀ token ∈ tokens behind, token.isTextual = true := by
  obtain ⟨name, rest, htokens, hchildren⟩ := tokens_of_roots h hraw
  have hboth : (∀ token ∈ rest, token.isTextual = true) ↔
      ∀ token ∈ textToken raw ++ tokens behind, token.isTextual = true := by
    rw [htokens]
    simp [or_imp, forall_and, Token.isTextual]
  rw [hchildren, hboth]
  constructor
  · exact fun h token htoken => h token (List.mem_append_right _ htoken)
  · intro h token htoken
    rcases List.mem_append.mp htoken with htoken | htoken
    · exact isTextual_of_mem_textToken htoken
    · exact h token htoken

theorem isText_children_of_rest_eq (h : (ofChars (Node.chars (.paired tag s children ending))).roots =
      [.paired tag s children ending])
    (hraw : splitAfter (.startTag tag s) (Node.charsList children ++ ending) = (raw, ending)) :
    ∀ node ∈ children, node.isText = true := by
  rw [isText_children_iff h hraw]
  obtain ⟨name, rest, htokens, -⟩ := tokens_of_roots h hraw
  rcases List.eq_nil_or_concat (tokens ending) with hnil | ⟨earlier, last, hlast⟩
  · rw [hnil]
    exact fun _ htoken => absurd htoken List.not_mem_nil
  · rw [List.concat_eq_append] at hlast
    rw [hlast, ← List.append_assoc] at htokens
    obtain ⟨-, hclosing⟩ := List.append_inj' htokens rfl
    obtain rfl := List.singleton_inj.mp hclosing
    have hsources := sources_tokens ending
    rw [hlast, List.flatMap_append, List.flatMap_singleton, Token.source,
      List.append_left_eq_self] at hsources
    have hearlier : earlier = [] := eq_nil_of_sources
      (fun t ht => (sound_tokens ending t (hlast ▸ List.mem_append_left _ ht)).source_ne_nil) hsources
    rw [hlast, hearlier]
    exact fun token htoken => List.mem_singleton.mp htoken ▸ rfl

end

/-! ### Where raw text ends -/

section
variable {name : String} {content ending : List Char}

/-- What an end tag begins with holds one `<`, so it does not run into a tag that follows. -/
theorem startsEndOf_of_append (hname : '<' ∉ name.toLower.toList) (hending : ending.head? = some '<')
    (hne : content ≠ []) (h : startsEndOf name (content ++ ending) = true) :
    startsEndOf name content = true := by
  unfold startsEndOf at h ⊢
  dsimp only at h ⊢
  generalize hsought : '<' :: '/' :: name.toLower.toList = sought at h ⊢
  by_cases hlength : sought.length ≤ content.length
  · rwa [List.take_append_of_le_length hlength] at h
  · -- the second `<` would be among the letters of the name
    have hwhole : sought = ((content ++ ending).take sought.length).map Char.toLower := by
      refine (List.isPrefixOf_iff_prefix.mp h).eq_of_length_le ?_
      rw [List.length_map, List.length_take]
      omega
    obtain ⟨c, more, rfl⟩ := List.exists_cons_of_ne_nil hne
    obtain ⟨rest, rfl⟩ := List.head?_eq_some_iff.mp hending
    obtain ⟨n, hn⟩ : ∃ n, sought.length = more.length + n + 1 + 1 := by
      refine ⟨sought.length - more.length - 2, ?_⟩
      simp only [List.length_cons] at hlength
      omega
    have htail : '/' :: name.toLower.toList =
        (more ++ '<' :: rest.take n).map Char.toLower := by
      rw [hn, ← hsought, List.cons_append, List.take_succ_cons, List.map_cons] at hwhole
      have htake : (more ++ '<' :: rest).take (more.length + n + 1) = more ++ '<' :: rest.take n := by
        rw [Nat.add_assoc, List.take_length_add_append, List.take_succ_cons]
      rw [(List.cons.inj hwhole).2, htake]
    have hmem : '<' ∈ '/' :: name.toLower.toList := by
      rw [htail]
      exact List.mem_map.mpr ⟨'<', by simp, rfl⟩
    rcases List.mem_cons.mp hmem with heq | hmem
    · cases heq
    · exact absurd hmem hname

/-- Content in which nothing looks like an end tag is raw text up to its end. -/
theorem splitRaw_of_free (hname : '<' ∉ name.toLower.toList) (hending : ending.head? = some '<')
    (hstarts : startsEndOf name ending = true)
    (hfree : ∀ rest, rest <:+ content → startsEndOf name rest = false) :
    splitRaw name (content ++ ending) = (content, ending) := by
  induction content with
  | nil =>
    obtain ⟨rest, rfl⟩ := List.head?_eq_some_iff.mp hending
    rw [List.nil_append, splitRaw, if_pos hstarts]
  | cons c more ih =>
    have hnot : ¬startsEndOf name (c :: (more ++ ending)) = true := fun hpart => by
      have hpart := startsEndOf_of_append hname hending (List.cons_ne_nil c more) hpart
      rw [hfree _ (List.suffix_refl _)] at hpart
      cases hpart
    rw [List.cons_append, splitRaw, if_neg hnot, ih fun rest hrest => hfree rest (hrest.trans (List.suffix_cons c more))]

end

/-! ### Raw text elements of a document -/

theorem placeNodes_of_isText {parent : Option Nat} {id start : Nat} {nodes : List Node}
    (h : ∀ node ∈ nodes, node.isText = true) :
    placeNodes parent id start nodes = siblings parent id start nodes := by
  induction nodes generalizing id start with
  | nil => rfl
  | cons node rest ih =>
    obtain ⟨hnode, hrest⟩ := List.forall_mem_cons.mp h
    rw [placeNodes, siblings, ih hrest]
    cases node with
    | text s => rfl
    | comment | declaration | lone | paired => cases hnode

section
variable {document : Document} {p : Placed} {tag : StartTag} {s ending : List Char}
  {children : List Node}

theorem isText_of_mem_inside (h : ∀ node ∈ p.node.children, node.isText = true) :
    ∀ q ∈ p.inside, q.node.isText = true := by
  intro q hq
  rw [Placed.inside, placeNodes_of_isText h] at hq
  have hnode := List.mem_map_of_mem (f := Placed.node) hq
  rw [map_node_siblings] at hnode
  exact h _ hnode

theorem id_ne_of_mem_outermost (hp : p ∈ document.placed)
    (h : ∀ node ∈ p.node.children, node.isText = true) (accepts : StartTag → Bool) :
    ∀ found ∈ document.outermost accepts, ∀ q ∈ p.inside, found.2.id ≠ q.id := by
  rintro ⟨tag, found⟩ hfound q hq hid
  have htext := isText_of_mem_inside h q hq
  rw [Placed.inside, placeNodes_of_isText h] at hq
  have hplaced := content_subset_placeNodes document.roots hp hq
  rw [← eq_of_id_eq (mem_placeNodes_of_mem_outermostAmong document.roots hfound) hplaced hid] at htext
  have htag := (tag_of_mem_outermostAmong document.roots hfound).2
  cases hnode : found.node with
  | text s =>
    rw [hnode] at htag
    cases htag
  | comment | declaration | lone | paired =>
    rw [hnode] at htext
    cases htext

end

theorem Node.Alone.children {node : Node} (h : node.Alone) : ∀ child ∈ node.children, child.Alone := by
  cases h with
  | paired _ content => exact content
  | text | comment | declaration | lone => exact fun _ hchild => absurd hchild List.not_mem_nil

section
variable {text : List Char} {p : Placed} {tag : StartTag} {s ending : List Char}
  {children : List Node}

theorem alone_of_mem_placed (hp : p ∈ (ofChars text).placed) : p.node.Alone :=
  holds_of_mem_placeNodes (fun _ hnode => hnode.children) _ (alone_ofChars text) hp

theorem splitAfter_rawText (hp : p ∈ (ofChars text).placed)
    (hnode : p.node = .paired tag s children ending) (hraw : isRawText tag.name = true)
    (rest : List Char) : splitAfter (.startTag tag s) rest = splitRaw tag.name rest := by
  have hsound := hnode ▸ sound_of_mem_placeNodes _ (soundLevel_ofChars text).sound hp
  cases hsound with
  | paired _ hclosed =>
    rw [splitAfter, hraw, hclosed]
    rfl

theorem roots_of_mem_placed (hp : p ∈ (ofChars text).placed)
    (hnode : p.node = .paired tag s children ending) :
    (ofChars (Node.chars (.paired tag s children ending))).roots = [.paired tag s children ending] := by
  have halone := hnode ▸ alone_of_mem_placed hp
  cases halone with
  | paired hroots => exact hroots

/-- A raw text element holds nothing but text exactly when what follows its raw text, up to and with its
end tag, reads as text and end tags. -/
theorem isText_rawText_iff (hp : p ∈ (ofChars text).placed)
    (hnode : p.node = .paired tag s children ending) (hraw : isRawText tag.name = true) :
    (∀ node ∈ children, node.isText = true) ↔
      ∀ token ∈ tokens (splitRaw tag.name (Node.charsList children ++ ending)).2,
        token.isTextual = true :=
  isText_children_iff (roots_of_mem_placed hp hnode) (splitAfter_rawText hp hnode hraw _)

theorem isText_of_free (hp : p ∈ (ofChars text).placed)
    (hnode : p.node = .paired tag s children ending) (hraw : isRawText tag.name = true)
    (hfree : ∀ rest, rest <:+ Node.charsList children → startsEndOf tag.name rest = false) :
    ∀ node ∈ children, node.isText = true := by
  have hsound := hnode ▸ sound_of_mem_placeNodes _ (soundLevel_ofChars text).sound hp
  cases hsound with
  | paired _ _ _ _ _ hnamed hending =>
    have hhead : ending.head? = some '<' := by
      obtain ⟨gaps, -, rfl⟩ := hending
      rfl
    have hname : '<' ∉ tag.name.toLower.toList := fun hmem => by
      cases isLower_of_isRawText hraw '<' hmem
    have hsplit := splitRaw_of_free hname hhead (startsEndOf_of_isEndTag hending hnamed) hfree
    exact isText_children_of_rest_eq (roots_of_mem_placed hp hnode)
      ((splitAfter_rawText hp hnode hraw _).trans hsplit)

end

end HtmlComponents.Document
