import HtmlComponents.Proofs.Markup.Opening

/-!
# Start tags written by hand

A start tag with attributes in quotes of either kind and with any gaps is read with the values as they
stand between the quotes (`readStartTag?_startTagChars`).
-/

namespace HtmlComponents

/-- An attribute with a value in quotes, as it is written behind a gap. -/
structure WrittenAttribute where
  gap : List Char
  name : String
  beforeSign : List Char
  behindSign : List Char
  quote : Char
  value : List Char

namespace WrittenAttribute

def chars (a : WrittenAttribute) : List Char :=
  a.gap ++ (a.name.toList ++ (a.beforeSign ++ '=' :: (a.behindSign ++ a.quote :: (a.value ++ [a.quote]))))

/-- The name and the value as they are read. -/
def entry (a : WrittenAttribute) : String × Option String := (a.name, some (String.ofList a.value))

/-- The name is read whole, and the quotes hold the value. -/
structure IsLexical (a : WrittenAttribute) : Prop where
  gap_ne_nil : a.gap ≠ []
  gap : ∀ c ∈ a.gap, Text.isGap c = true
  name : isAttributeName a.name = true
  beforeSign : ∀ c ∈ a.beforeSign, Text.isGap c = true
  behindSign : ∀ c ∈ a.behindSign, Text.isGap c = true
  quote : a.quote = '"' ∨ a.quote = '\''
  value : a.quote ∉ a.value

end WrittenAttribute

/-- A start tag with written attributes. -/
def startTagChars (name : String) (attributes : List WrittenAttribute) (selfClosing : Bool) : List Char :=
  '<' :: (name.toList ++
    (attributes.flatMap WrittenAttribute.chars ++ Document.tagEndChars selfClosing))

/-- An element that ends with its start tag. -/
def aloneHtml (name : String) (attributes : List WrittenAttribute) : String :=
  String.ofList (startTagChars name attributes true)

/-- An element with content and an end tag. -/
def pairedHtml (name : String) (attributes : List WrittenAttribute) (content : Markup) : String :=
  String.ofList (startTagChars name attributes false ++ content.chars ++ endTagChars name)

/-- The start tag that is read. -/
def writtenTag (name : String) (attributes : List WrittenAttribute) (selfClosing : Bool) : StartTag :=
  ⟨name, attributes.map WrittenAttribute.entry, selfClosing⟩

namespace Document

open Text (takeWhile_append_stop dropWhile_append_stop)

variable {a : WrittenAttribute} {attributes : List WrittenAttribute}

theorem readUntilQuote?_append {quote : Char} {value : List Char} (h : quote ∉ value) (rest : List Char) :
    readUntilQuote? quote (value ++ quote :: rest) = some (String.ofList value, rest) := by
  have hvalue : ∀ c ∈ value, (c != quote) = true := by
    intro c hc
    rw [bne_iff_ne]
    rintro rfl
    exact h hc
  have hstop : ∀ c ∈ (quote :: rest).head?, (c != quote) = false := by
    intro c hc
    cases hc
    exact bne_self_eq_false quote
  rw [readUntilQuote?, takeWhile_append_stop hvalue hstop, dropWhile_append_stop hvalue hstop]

theorem readAssignment?_written (h : a.IsLexical) (rest : List Char) :
    readAssignment? (a.beforeSign ++ '=' :: (a.behindSign ++ a.quote :: (a.value ++ a.quote :: rest))) =
      some (String.ofList a.value, rest) := by
  have hsign : ∀ c ∈ ('=' :: (a.behindSign ++ a.quote :: (a.value ++ a.quote :: rest))).head?,
      Text.isGap c = false := by
    intro c hc
    cases hc
    rfl
  have hquote : ∀ c ∈ (a.quote :: (a.value ++ a.quote :: rest)).head?, Text.isGap c = false := by
    intro c hc
    cases hc
    rcases h.quote with hquote | hquote <;> rw [hquote] <;> rfl
  rw [readAssignment?, dropWhile_append_stop h.beforeSign hsign]
  show readValue? ((a.behindSign ++ a.quote :: (a.value ++ a.quote :: rest)).dropWhile Text.isGap) = _
  rw [dropWhile_append_stop h.behindSign hquote, readValue?, if_pos h.quote]
  exact readUntilQuote?_append h.value rest

theorem readNextAttribute?_written (h : a.IsLexical) (rest : List Char) :
    readNextAttribute? (a.chars ++ rest) = some (a.entry, rest) := by
  obtain ⟨hne, hall⟩ := isAttributeNameChar_of_mem h.name
  obtain ⟨c, gap, hgap⟩ := List.exists_cons_of_ne_nil h.gap_ne_nil
  obtain ⟨hc, hgaps⟩ := List.forall_mem_cons.mp (hgap ▸ h.gap)
  let value := a.behindSign ++ a.quote :: (a.value ++ a.quote :: rest)
  have hchars : a.chars ++ rest = c :: (gap ++ (a.name.toList ++ (a.beforeSign ++ '=' :: value))) := by
    simp [WrittenAttribute.chars, hgap, value]
  have hname : ∀ d ∈ (a.name.toList ++ (a.beforeSign ++ '=' :: value)).head?, Text.isGap d = false := by
    obtain ⟨d, name, hcons⟩ := List.exists_cons_of_ne_nil hne
    rw [hcons]
    intro e he
    cases he
    exact isGap_eq_false_of_name (hall d (hcons ▸ List.mem_cons_self))
  -- the name ends before the gap that is in front of the equals sign, or before the sign
  have hafter : ∀ d ∈ (a.beforeSign ++ '=' :: value).head?, isAttributeNameChar d = false := by
    intro d hd
    cases hbefore : a.beforeSign with
    | nil =>
      rw [hbefore] at hd
      cases hd
      rfl
    | cons e before =>
      rw [hbefore] at hd
      cases hd
      have hblank := Text.isBlank_of_isGap (h.beforeSign d (hbefore ▸ List.mem_cons_self))
      simp [isAttributeNameChar, hblank]
  have hread := readAttribute?_append (a.beforeSign ++ '=' :: value) h.name hafter
  rw [readAssignment?_written h] at hread
  rw [hchars, readNextAttribute?, if_pos hc, dropWhile_append_stop hgaps hname, hread]
  rfl

theorem readAttributes_written (h : ∀ a ∈ attributes, a.IsLexical) (selfClosing : Bool)
    (rest : List Char) :
    readAttributes (attributes.flatMap WrittenAttribute.chars ++ (tagEndChars selfClosing ++ rest)) =
      (attributes.map WrittenAttribute.entry, tagEndChars selfClosing ++ rest) := by
  induction attributes with
  | nil => exact readAttributes_attributesChars selfClosing rest (List.forall_mem_nil _)
  | cons a more ih =>
    obtain ⟨ha, hmore⟩ := List.forall_mem_cons.mp h
    have hread := readNextAttribute?_written ha
      (more.flatMap WrittenAttribute.chars ++ (tagEndChars selfClosing ++ rest))
    rw [List.flatMap_cons, List.append_assoc, readAttributes]
    split
    · rename_i hsome
      rw [hread] at hsome
      cases hsome
      rw [ih hmore]
      rfl
    · rename_i hnone
      rw [hread] at hnone
      cases hnone

theorem isTagNameChar_of_isGap {c : Char} (h : Text.isGap c = true) : isTagNameChar c = false := by
  simp only [Text.isGap, Bool.or_eq_true, beq_iff_eq] at h
  rcases h with ((rfl | rfl) | rfl) | rfl <;> rfl

theorem readStartTag?_startTagChars {name : String} (hname : isTagName name = true)
    (h : ∀ a ∈ attributes, a.IsLexical) (selfClosing : Bool) (rest : List Char) :
    readStartTag? (startTagChars name attributes selfClosing ++ rest) =
      some (writtenTag name attributes selfClosing, rest) := by
  let after := attributes.flatMap WrittenAttribute.chars ++ (tagEndChars selfClosing ++ rest)
  have hchars : startTagChars name attributes selfClosing ++ rest = '<' :: (name.toList ++ after) := by
    simp [startTagChars, after]
  have hafter : ∀ c ∈ after.head?, isTagNameChar c = false := by
    intro c hc
    cases attributes with
    | nil => cases selfClosing <;> cases hc <;> rfl
    | cons a more =>
      have ha := h a List.mem_cons_self
      obtain ⟨d, gap, hgap⟩ := List.exists_cons_of_ne_nil ha.gap_ne_nil
      have hhead : after.head? = some d := by simp [after, WrittenAttribute.chars, hgap]
      rw [hhead] at hc
      cases hc
      exact isTagNameChar_of_isGap (ha.gap c (hgap ▸ List.mem_cons_self))
  rw [hchars, readStartTag?, readTagName?_append hname hafter]
  dsimp only
  rw [readAttributes_written h, readTagEnd?_tagEndChars]
  rfl

end Document

end HtmlComponents
