import HtmlComponents.Proofs.Document.Reads
import HtmlComponents.Proofs.Document.Tag
import HtmlComponents.Proofs.Markup.Nodes
import HtmlComponents.Proofs.Text.Letters

/-!
# Markup read back

Reading undoes writing: the tree of the HTML of readable markup is the markup itself, with fragments
flattened and texts joined (`parse_toHtml`). A tree under construction is followed over the HTML:
`read_text`, `read_opening` and `read_endTag` say what each written part adds to it.
-/

namespace HtmlComponents

namespace Document

theorem readToken_of_ne {c : Char} (h : c ≠ '<') (rest : List Char) :
    readToken c rest = (.text (c :: rest.takeWhile (· != '<')), rest.dropWhile (· != '<')) := by
  have hcomment : commentStart.isPrefixOf (c :: rest) = false := by
    simp [commentStart, List.isPrefixOf, Ne.symm h]
  have hend : readEndTag? (c :: rest) = none := by
    unfold readEndTag?
    split
    · rename_i heq
      exact absurd (List.cons.inj heq).1 h
    · rfl
  have hstart : readStartTag? (c :: rest) = none := by
    unfold readStartTag?
    split
    · rename_i heq
      exact absurd (List.cons.inj heq).1 h
    · rfl
  have hdeclaration : afterDeclaration? (c :: rest) = none := by
    unfold afterDeclaration?
    split
    · rename_i heq
      exact absurd (List.cons.inj heq).1 h
    · rfl
  simp [readToken, hcomment, hend, hstart, hdeclaration]

theorem tokens_of_ne {c : Char} (h : c ≠ '<') (rest : List Char) :
    tokens (c :: rest) =
      .text (c :: rest.takeWhile (· != '<')) :: tokens (rest.dropWhile (· != '<')) := by
  rw [tokens, readToken_of_ne h]
  rfl

namespace Builder

/-- A tree under construction after the tokens of a text. -/
def read (builder : Builder) (text : List Char) : Builder := (tokens text).foldl add builder

theorem read_nil (builder : Builder) : builder.read [] = builder := by
  rw [read, tokens]
  rfl

/-- A tree under construction after one more text, which may be empty. -/
def addChars (builder : Builder) (s : List Char) : Builder := (textToken s).foldl add builder

theorem addChars_eq {s : List Char} (h : s ≠ []) (builder : Builder) :
    builder.addChars s = { builder with level := addText s builder.level } := by
  cases s with
  | nil => exact absurd rfl h
  | cons c rest => rfl

theorem addChars_append (builder : Builder) (a b : List Char) :
    (builder.addChars a).addChars b = builder.addChars (a ++ b) := by
  cases a with
  | nil => rfl
  | cons c a =>
    cases b with
    | nil => rw [List.append_nil]; rfl
    | cons d b =>
      rw [addChars_eq (List.cons_ne_nil c a), addChars_eq (List.cons_ne_nil d b),
        List.cons_append, addChars_eq (List.cons_ne_nil c (a ++ d :: b)), addText_addText]
      rfl

theorem read_eq (builder : Builder) (text : List Char) :
    builder.read text =
      (builder.addChars (text.takeWhile (· != '<'))).read (text.dropWhile (· != '<')) := by
  cases text with
  | nil => rfl
  | cons c rest =>
    by_cases h : c = '<'
    · subst h
      rfl
    · rw [List.takeWhile_cons_of_pos (by simpa using h), List.dropWhile_cons_of_pos (by simpa using h),
        read, tokens_of_ne h]
      rfl

theorem read_text {s : List Char} (h : '<' ∉ s) (builder : Builder) (rest : List Char) :
    builder.read (s ++ rest) = (builder.addChars s).read rest := by
  have hs : ∀ c ∈ s, (c != '<') = true := by
    intro c hc
    rw [bne_iff_ne]
    rintro rfl
    exact h hc
  rw [read_eq builder, List.takeWhile_append_of_pos hs, List.dropWhile_append_of_pos hs,
    ← addChars_append, ← read_eq]

end Builder

theorem exists_of_readStartTag? {text left : List Char} {tag : StartTag}
    (h : readStartTag? text = some (tag, left)) :
    ∃ c rest, text = '<' :: c :: rest ∧ c ≠ '!' ∧ c ≠ '/' := by
  unfold readStartTag? at h
  split at h
  · rename_i rest
    cases rest with
    | nil => simp [readTagName?] at h
    | cons c rest =>
      refine ⟨c, rest, rfl, ?_, ?_⟩
      · rintro rfl
        simp [readTagName?] at h
      · rintro rfl
        simp [readTagName?] at h
  · cases h

theorem readToken_startTag {tag : StartTag} {c : Char} {left rest : List Char}
    (h : readStartTag? (c :: left) = some (tag, rest)) :
    readToken c left = (.startTag tag (upTo (c :: left) rest), rest) := by
  obtain ⟨d, more, htext, hbang, hslash⟩ := exists_of_readStartTag? h
  have hcomment : commentStart.isPrefixOf (c :: left) = false := by
    rw [htext]
    simp [commentStart, List.isPrefixOf, Ne.symm hbang]
  have hend : readEndTag? (c :: left) = none := by
    rw [htext]
    unfold readEndTag?
    split
    · rename_i heq
      exact absurd (List.cons.inj (List.cons.inj heq).2).1 hslash
    · rfl
  simp only [readToken, hcomment, hend, h, Bool.false_eq_true, if_false]

theorem readToken_endTag {tag : String} (h : isTagName tag = true) {c : Char}
    {left rest : List Char} (hc : endTagChars tag ++ rest = c :: left) :
    readToken c left = (.endTag tag (endTagChars tag), rest) := by
  have hcomment : commentStart.isPrefixOf (endTagChars tag ++ rest) = false := by
    simp [endTagChars, commentStart, List.isPrefixOf]
  have hend := readEndTag?_chars h rest
  rw [readToken, ← hc]
  simp only [hcomment, hend, upTo_append_left, Bool.false_eq_true, if_false]

theorem startsEndOf_of_ne {c : Char} (h : c ≠ '<') (name : String) (rest : List Char) :
    startsEndOf name (c :: rest) = false := by
  simp [startsEndOf, List.isPrefixOf, Ne.symm (Text.toLower_ne (by decide) h)]

theorem startsEndOf_endTagChars (tag : String) (rest : List Char) :
    startsEndOf tag (endTagChars tag ++ rest) = true := by
  have hend : IsEndTag tag (endTagChars tag) := ⟨[], by simp, by simp [endTagChars]⟩
  exact startsEndOf_append (startsEndOf_of_isEndTag hend (sameName_refl tag)) rest

theorem splitRaw_append_of_notMem {s : List Char} (h : '<' ∉ s) (name : String) (rest : List Char) :
    splitRaw name (s ++ rest) = (s ++ (splitRaw name rest).1, (splitRaw name rest).2) := by
  induction s with
  | nil => rfl
  | cons c s ih =>
    rw [List.mem_cons, not_or] at h
    rw [List.cons_append, splitRaw, startsEndOf_of_ne (Ne.symm h.1), ih h.2]
    rfl

theorem splitRaw_of_startsEndOf {name : String} {text : List Char} (h : startsEndOf name text = true) :
    splitRaw name text = ([], text) := by
  cases text with
  | nil => rfl
  | cons c rest => rw [splitRaw, if_pos h]

namespace Builder

theorem read_endTag {tag : String} (h : isTagName tag = true) (builder : Builder)
    (rest : List Char) :
    builder.read (endTagChars tag ++ rest) =
      (builder.add (.endTag tag (endTagChars tag))).read rest := by
  obtain ⟨left, hleft⟩ : ∃ left, endTagChars tag ++ rest = '<' :: left := by simp [endTagChars]
  rw [read, hleft, tokens, readToken_endTag h hleft]
  rfl

/-- A start tag is added, and the raw text behind it, if it opens a raw text element. -/
theorem read_startTag {tag : StartTag} {s rest content left : List Char}
    (h : readStartTag? (s ++ rest) = some (tag, rest))
    (hraw : splitAfter (.startTag tag s) rest = (content, left)) (builder : Builder) :
    builder.read (s ++ rest) = ((builder.add (.startTag tag s)).addChars content).read left := by
  obtain ⟨c, more, hmore, -⟩ := exists_of_readStartTag? h
  have htoken := readToken_startTag (hmore ▸ h)
  rw [← hmore, upTo_append_left] at htoken
  rw [read, hmore, tokens, htoken]
  simp only [hraw, List.foldl_cons, List.foldl_append]
  rfl

/-- A start tag is added; that of a raw text element may be followed by text and its end tag only. -/
theorem read_opening {opening : Opening} (h : opening.isReadable = true) (builder : Builder)
    {rest : List Char}
    (hrest : isRawText opening.tag = true → opening.selfClosing = false →
      ∃ s after, '<' ∉ s ∧ rest = s ++ (endTagChars opening.tag ++ after)) :
    builder.read (opening.chars ++ rest) =
      (builder.add (.startTag opening.startTag opening.chars)).read rest := by
  by_cases hraw : isRawText opening.tag = true ∧ opening.selfClosing = false
  · -- raw text goes up to the end tag, which is all that ordinary reading would take as text
    obtain ⟨s, after, hs, rfl⟩ := hrest hraw.1 hraw.2
    have hsplit : splitAfter (.startTag opening.startTag opening.chars)
        (s ++ (endTagChars opening.tag ++ after)) = (s, endTagChars opening.tag ++ after) := by
      rw [splitAfter, if_pos (by simpa [Opening.startTag] using hraw),
        show opening.startTag.name = opening.tag from rfl, splitRaw_append_of_notMem hs,
        splitRaw_of_startsEndOf (startsEndOf_endTagChars opening.tag after), List.append_nil]
    rw [read_startTag (readStartTag?_chars h _) hsplit, ← read_text hs]
  · have hsplit : splitAfter (.startTag opening.startTag opening.chars) rest = ([], rest) := by
      rw [splitAfter, if_neg (by simpa [Opening.startTag] using hraw)]
    exact read_startTag (readStartTag?_chars h rest) hsplit builder

theorem isVoid_of_isRawText {tag : String} (h : isRawText tag = true) : isVoid tag = false := by
  simp only [isRawText, rawTextElements, List.any_cons, List.any_nil, Bool.or_false, Bool.or_eq_true,
    sameName, beq_iff_eq] at h
  rcases h with h | h | h | h <;> simp only [isVoid, sameName, ← h] <;> decide +kernel

theorem add_lone (tag : StartTag) (s : List Char) (h : (tag.selfClosing || isVoid tag.name) = true)
    (builder : Builder) :
    builder.add (.startTag tag s) = ⟨.lone tag s :: builder.level, builder.frames⟩ := by
  rw [add, if_pos h]

theorem add_open (tag : StartTag) (s : List Char) (h : (tag.selfClosing || isVoid tag.name) = false)
    (builder : Builder) :
    builder.add (.startTag tag s) = ⟨[], ⟨tag, s, builder.level⟩ :: builder.frames⟩ := by
  rw [add, h]
  rfl

theorem add_opening {opening : Opening} (h : opening.isChildless = false) (builder : Builder) :
    builder.add (.startTag opening.startTag opening.chars) =
      ⟨[], ⟨opening.startTag, opening.chars, builder.level⟩ :: builder.frames⟩ :=
  add_open opening.startTag opening.chars h builder

theorem read_childless {opening : Opening} (h : opening.isReadable = true)
    (hchildless : opening.isChildless = true) (builder : Builder) (rest : List Char) :
    builder.read (opening.chars ++ rest) =
      (Builder.mk (.lone opening.startTag opening.chars :: builder.level) builder.frames).read rest := by
  rw [read_opening h, add_lone opening.startTag opening.chars hchildless]
  intro hraw hclosed
  rw [Opening.isChildless, hclosed, isVoid_of_isRawText hraw] at hchildless
  cases hchildless

theorem add_endTag (opening : Opening) (level earlier : List Node) (frames : List Frame) :
    add ⟨level, ⟨opening.startTag, opening.chars, earlier⟩ :: frames⟩
        (.endTag opening.tag (endTagChars opening.tag)) =
      ⟨.paired opening.startTag opening.chars level.reverse (endTagChars opening.tag) :: earlier,
        frames⟩ := by
  have hnamed : opening.startTag.isNamed opening.tag = true := sameName_refl opening.tag
  simp only [add, close?, if_pos hnamed]

mutual

theorem read_chars : (markup : Markup) → markup.isReadable = true → (builder : Builder) →
    (rest : List Char) → builder.read (markup.chars ++ rest) =
      (Builder.mk (place builder.level markup.nodes) builder.frames).read rest
  | .text s, _, builder, rest => by
    rw [Markup.chars, read_text (Text.lt_notMem_escapeText s.toList), Markup.nodes]
    cases hs : s.toList with
    | nil => rfl
    | cons c more =>
      have hne : (c :: more).flatMap Text.escapeTextChar ≠ [] := by
        simp [Text.escapeTextChar_ne_nil]
      rw [addChars_eq hne]
      rfl
  | .raw _, h, _, _ => by simp [Markup.isReadable] at h
  | .fragment children, h, builder, rest => by
    rw [Markup.isReadable] at h
    rw [Markup.chars, Markup.nodes]
    exact read_charsList children h builder rest
  | .element opening children, h, builder, rest => by
    rw [Markup.isReadable, Bool.and_eq_true, Bool.and_eq_true] at h
    obtain ⟨⟨hopening, hraw⟩, hchildren⟩ := h
    rw [Markup.chars, Markup.nodes]
    by_cases hchildless : opening.isChildless = true
    · rw [if_pos hchildless, if_pos hchildless, read_childless hopening hchildless]
      rfl
    · have htag : isTagName opening.tag = true := by
        rw [Opening.isReadable, Bool.and_eq_true] at hopening
        exact hopening.1
      -- the start tag opens a level, the children fill it and the end tag closes it
      rw [if_neg hchildless, if_neg hchildless, List.append_assoc, List.append_assoc,
        read_opening hopening, add_opening (Bool.eq_false_iff.mpr hchildless),
        read_charsList children hchildren, read_endTag htag, add_endTag, reverse_place_nil]
      · rfl
      · intro hrawText _
        rw [hrawText, Bool.not_true, Bool.false_or] at hraw
        exact ⟨_, rest, Markup.lt_notMem_charsList children hraw, rfl⟩

/-- Reading the HTML of markup places its nodes, whatever follows. -/
theorem read_charsList : (children : List Markup) → Markup.isReadableList children = true →
    (builder : Builder) → (rest : List Char) →
    builder.read (Markup.charsList children ++ rest) =
      (Builder.mk (place builder.level (Markup.nodesList children)) builder.frames).read rest
  | [], _, _, _ => rfl
  | node :: more, h, builder, rest => by
    rw [Markup.isReadableList, Bool.and_eq_true] at h
    rw [Markup.charsList, List.append_assoc, read_chars node h.1, read_charsList more h.2,
      Markup.nodesList, place_append]

end

end Builder

theorem roots_ofChars {markup : Markup} (h : markup.isReadable = true) :
    (ofChars markup.chars).roots = joinTexts markup.nodes := by
  have hread := Builder.read_chars markup h .start []
  rw [List.append_nil] at hread
  have hroots : (ofChars markup.chars).roots = (Builder.start.read markup.chars).finish := rfl
  rw [hroots, hread, ← Builder.reverse_place_nil, Builder.read_nil]
  rfl

/-- Reading undoes writing: HTML has the tree of the markup it is written from, and the tag of each
element is read with its name, its form and its attributes with their values. -/
theorem parse_toHtml (markup : Markup) (h : markup.isReadable = true) :
    (parse markup.toHtml).roots = joinTexts markup.nodes ∧
      ∀ opening : Opening, opening.startTag.name = opening.tag ∧
        opening.startTag.selfClosing = opening.selfClosing ∧
        opening.startTag.decodedAttributes = opening.attributes.toList := by
  refine ⟨?_, fun opening => ⟨rfl, rfl, Opening.decodedAttributes_startTag opening⟩⟩
  rw [parse, Markup.toHtml, String.toList_ofList]
  exact roots_ofChars h

/-- Elements of one name in one another, a raw text element, elements without content, and texts and
values that look like tags. -/
def nested : Markup :=
  let inner := ((Element.ofTag "DIV").attr "title" "</div>\"'&amp;").addChildren
    [.text "</div>", .fragment [.text "", .text "<b"], ((Element.ofTag "br").addChild (.text "x")).toMarkup]
  ((Element.ofTag "div").flag "hidden").addChildren
    [inner.toMarkup, ((Element.ofTag "script").addChild (.text "</script>")).toMarkup,
      ((Element.ofTag "x-y").attr "a" "/>").close.toMarkup] |>.toMarkup

theorem parse_toHtml_nested :
    nested.isReadable = true ∧ (parse nested.toHtml).roots = joinTexts nested.nodes :=
  ⟨by decide +kernel, (parse_toHtml nested (by decide +kernel)).1⟩

end Document

end HtmlComponents
