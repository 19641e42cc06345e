import HtmlComponents.Document.Tag
import HtmlComponents.Markup.Printer
import HtmlComponents.Proofs.Text.Escape
import HtmlComponents.Proofs.Text.Run

/-!
# Reading of written tags

The tags that markup is written with are read back: `readStartTag?_chars` and `readEndTag?_chars`.
The start tag that is read holds the attributes of the element (`decodedAttributes_startTag`), whatever
their values are.
-/

namespace HtmlComponents

open Document

/-- A name that is read whole as the name of a tag. -/
def isTagName (name : String) : Bool := readTagName? name.toList == some (name, [])

/-- A name that is read whole as the name of an attribute. -/
def isAttributeName (name : String) : Bool :=
  !name.toList.isEmpty && name.toList.all isAttributeNameChar

namespace Opening

/-- The start tag of an element as it is read. -/
def startTag (opening : Opening) : StartTag where
  name := opening.tag
  attributes := opening.attributes.entries.map fun entry => (entry.1, entry.2.map Text.escapeAttribute)
  selfClosing := opening.selfClosing

/-- An element whose names are read whole. -/
def isReadable (opening : Opening) : Bool :=
  isTagName opening.tag && opening.attributes.keys.all isAttributeName

theorem decodedAttributes_startTag (opening : Opening) :
    opening.startTag.decodedAttributes = opening.attributes.toList := by
  have hvalue : ∀ value : Option String,
      (value.map Text.escapeAttribute).map Text.Reference.decode = value := by
    intro value
    cases value with
    | none => rfl
    | some value => exact congrArg some (Text.Reference.decode_escapeAttribute value)
  simp only [StartTag.decodedAttributes, startTag, List.map_map, Function.comp_def, hvalue]
  exact List.map_id _

end Opening

namespace Document

open Text (takeWhile_append_stop dropWhile_append_stop)

theorem isTagName_iff {name : String} :
    isTagName name = true ↔ ∃ c rest, name.toList = c :: rest ∧ c.isAlpha = true ∧
      ∀ d ∈ name.toList, isTagNameChar d = true := by
  unfold isTagName readTagName?
  rw [beq_iff_eq]
  cases hname : name.toList with
  | nil => simp
  | cons c rest =>
    by_cases hc : c.isAlpha = true
    · simp only [hc, if_true, Option.some.injEq, Prod.mk.injEq, List.dropWhile_eq_nil_iff]
      constructor
      · rintro ⟨-, hall⟩
        exact ⟨c, rest, rfl, hc, hall⟩
      · rintro ⟨-, -, -, -, hall⟩
        refine ⟨?_, hall⟩
        rw [← List.append_nil (c :: rest), takeWhile_append_stop hall (by simp), ← hname,
          String.ofList_toList]
    · simp only [hc, Bool.false_eq_true, if_false, reduceCtorEq, false_iff]
      rintro ⟨d, rest', hd, halpha, -⟩
      cases hd
      exact hc halpha

theorem readTagName?_append {name : String} {rest : List Char} (h : isTagName name = true)
    (hrest : ∀ c ∈ rest.head?, isTagNameChar c = false) :
    readTagName? (name.toList ++ rest) = some (name, rest) := by
  obtain ⟨c, more, hname, hc, hall⟩ := isTagName_iff.mp h
  have hcons : name.toList ++ rest = c :: (more ++ rest) := by rw [hname, List.cons_append]
  have htake := takeWhile_append_stop hall hrest
  have hdrop := dropWhile_append_stop hall hrest
  rw [hcons] at htake hdrop ⊢
  simp only [readTagName?, hc, if_true, htake, hdrop, String.ofList_toList]

theorem readEndTag?_chars {tag : String} (h : isTagName tag = true) (rest : List Char) :
    readEndTag? (endTagChars tag ++ rest) = some (tag, rest) := by
  have hname : readTagName? (tag.toList ++ '>' :: rest) = some (tag, '>' :: rest) := by
    refine readTagName?_append h fun c hc => ?_
    cases hc
    rfl
  have hchars : endTagChars tag ++ rest = '<' :: '/' :: (tag.toList ++ '>' :: rest) := by
    simp [endTagChars]
  rw [hchars]
  simp only [readEndTag?, hname]
  rfl

def tagEndChars (selfClosing : Bool) : List Char :=
  if selfClosing then [' ', '/', '>'] else ['>']

theorem readTagEnd?_tagEndChars (selfClosing : Bool) (rest : List Char) :
    readTagEnd? (tagEndChars selfClosing ++ rest) = some (selfClosing, rest) := by
  cases selfClosing <;> rfl

theorem isAttributeNameChar_of_mem {name : String} (h : isAttributeName name = true) :
    name.toList ≠ [] ∧ ∀ c ∈ name.toList, isAttributeNameChar c = true := by
  simp only [isAttributeName, Bool.and_eq_true, Bool.not_eq_true', List.isEmpty_eq_false_iff,
    List.all_eq_true] at h
  exact h

theorem isGap_eq_false_of_name {c : Char} (h : isAttributeNameChar c = true) :
    Text.isGap c = false := by
  rw [Bool.eq_false_iff]
  intro hgap
  simp [isAttributeNameChar, Text.isBlank_of_isGap hgap] at h

theorem ne_eq_sign_of_name {c : Char} (h : isAttributeNameChar c = true) : c ≠ '=' := by
  rintro rfl
  exact absurd h (by decide)

/-- The attributes of a written start tag and all that follows them. -/
def attributesChars (entries : List (String × Option String)) (selfClosing : Bool)
    (rest : List Char) : List Char :=
  entries.flatMap (fun entry => attributeChars entry.1 entry.2) ++ (tagEndChars selfClosing ++ rest)

theorem head?_attributesChars (entries : List (String × Option String)) (selfClosing : Bool)
    (rest : List Char) :
    ∀ c ∈ (attributesChars entries selfClosing rest).head?, c = ' ' ∨ c = '>' := by
  intro c hc
  cases entries with
  | nil =>
    cases selfClosing
    · exact .inr (Option.some.inj hc).symm
    · exact .inl (Option.some.inj hc).symm
  | cons entry more =>
    obtain ⟨name, value⟩ := entry
    cases value <;> exact .inl (Option.some.inj hc).symm

section

variable {entries : List (String × Option String)} (selfClosing : Bool) (rest : List Char)

theorem readAssignment?_attributesChars
    (h : ∀ entry ∈ entries, isAttributeName entry.1 = true) :
    readAssignment? (attributesChars entries selfClosing rest) = none := by
  cases entries with
  | nil => cases selfClosing <;> rfl
  | cons entry more =>
    obtain ⟨name, value⟩ := entry
    obtain ⟨hne, hall⟩ := isAttributeNameChar_of_mem (h (name, value) (List.mem_cons_self ..))
    obtain ⟨c, name', hname⟩ := List.exists_cons_of_ne_nil hne
    have hc := hall c (by rw [hname]; exact List.mem_cons_self ..)
    obtain ⟨left, hleft⟩ : ∃ left, attributesChars ((name, value) :: more) selfClosing rest =
        ' ' :: c :: left := by
      cases value <;> simp [attributesChars, attributeChars, hname]
    have hdrop : (' ' :: c :: left).dropWhile Text.isGap = c :: left := by
      rw [List.dropWhile_cons_of_pos rfl,
        List.dropWhile_cons_of_neg (by simp [isGap_eq_false_of_name hc])]
    rw [hleft, readAssignment?, hdrop]
    split
    · rename_i heq
      exact absurd (List.cons.inj heq).1 (ne_eq_sign_of_name hc)
    · rfl

theorem readAssignment?_quoted (value : String) (left : List Char) :
    readAssignment? ('=' :: '"' :: (value.toList.flatMap Text.escapeAttributeChar ++ '"' :: left)) =
      some (Text.escapeAttribute value, left) := by
  have hquote : ∀ c ∈ value.toList.flatMap Text.escapeAttributeChar, (c != '"') = true := by
    intro c hc
    rw [bne_iff_ne]
    rintro rfl
    exact Text.quote_notMem_escapeAttribute _ hc
  have hstop : ∀ c ∈ ('"' :: left).head?, (c != '"') = false := by
    intro c hc
    cases hc
    rfl
  have htake := takeWhile_append_stop hquote hstop
  have hdrop := dropWhile_append_stop hquote hstop
  have hgap : ∀ (c : Char) (text : List Char), Text.isGap c = false →
      (c :: text).dropWhile Text.isGap = c :: text := by
    intro c text hc
    rw [List.dropWhile_cons_of_neg (by simp [hc])]
  simp only [readAssignment?, hgap '=' _ rfl, hgap '"' _ rfl, readValue?, true_or, if_true,
    readUntilQuote?, htake, hdrop, Text.escapeAttribute]

theorem readAttribute?_append {name : String} (after : List Char)
    (h : isAttributeName name = true) (hafter : ∀ c ∈ after.head?, isAttributeNameChar c = false) :
    readAttribute? (name.toList ++ after) =
      match readAssignment? after with
      | some (value, left) => some ((name, some value), left)
      | none => some ((name, none), after) := by
  obtain ⟨hne, hall⟩ := isAttributeNameChar_of_mem h
  have htake := takeWhile_append_stop hall hafter
  have hdrop := dropWhile_append_stop hall hafter
  unfold readAttribute?
  rw [htake, hdrop]
  split
  · rename_i hnil
    exact absurd hnil hne
  · dsimp only
    cases readAssignment? after with
    | none => exact congrArg (fun name => some ((name, none), after)) String.ofList_toList
    | some found =>
      exact congrArg (fun name => some ((name, some found.1), found.2)) String.ofList_toList

theorem readNextAttribute?_attributesChars {name : String} {value : Option String}
    (h : ∀ entry ∈ (name, value) :: entries, isAttributeName entry.1 = true) :
    readNextAttribute? (attributesChars ((name, value) :: entries) selfClosing rest) =
      some ((name, value.map Text.escapeAttribute), attributesChars entries selfClosing rest) := by
  obtain ⟨hname, hmore⟩ := List.forall_mem_cons.mp h
  obtain ⟨hne, hall⟩ := isAttributeNameChar_of_mem hname
  -- the blank before the name is the whole gap
  have hgap : ∀ after, (name.toList ++ after).dropWhile Text.isGap = name.toList ++ after := by
    intro after
    obtain ⟨c, name', hcons⟩ := List.exists_cons_of_ne_nil hne
    have hc := hall c (by rw [hcons]; exact List.mem_cons_self ..)
    rw [hcons, List.cons_append,
      List.dropWhile_cons_of_neg (by simp [isGap_eq_false_of_name hc])]
  -- a flag ends before the next blank, a value behind the equals sign and the quote
  cases value with
  | none =>
    have hchars : attributesChars ((name, none) :: entries) selfClosing rest =
        ' ' :: (name.toList ++ attributesChars entries selfClosing rest) := by
      simp [attributesChars, attributeChars]
    have hafter : ∀ c ∈ (attributesChars entries selfClosing rest).head?,
        isAttributeNameChar c = false := by
      intro c hc
      rcases head?_attributesChars entries selfClosing rest c hc with rfl | rfl <;> rfl
    have hread := readAttribute?_append _ hname hafter
    rw [readAssignment?_attributesChars selfClosing rest hmore] at hread
    rw [hchars]
    simp only [readNextAttribute?, hgap, hread]
    rfl
  | some value =>
    have hchars : attributesChars ((name, some value) :: entries) selfClosing rest =
        ' ' :: (name.toList ++ '=' :: '"' :: (value.toList.flatMap Text.escapeAttributeChar ++
          '"' :: attributesChars entries selfClosing rest)) := by
      simp [attributesChars, attributeChars]
    have hafter : ∀ c ∈ ('=' :: '"' :: (value.toList.flatMap Text.escapeAttributeChar ++
        '"' :: attributesChars entries selfClosing rest)).head?, isAttributeNameChar c = false := by
      intro c hc
      cases hc
      rfl
    have hread := readAttribute?_append _ hname hafter
    rw [readAssignment?_quoted] at hread
    rw [hchars]
    simp only [readNextAttribute?, hgap, hread]
    rfl

theorem readAttributes_attributesChars (h : ∀ entry ∈ entries, isAttributeName entry.1 = true) :
    readAttributes (attributesChars entries selfClosing rest) =
      (entries.map fun entry => (entry.1, entry.2.map Text.escapeAttribute),
        tagEndChars selfClosing ++ rest) := by
  induction entries with
  | nil =>
    have hnone : readNextAttribute? (tagEndChars selfClosing ++ rest) = none := by
      cases selfClosing <;> rfl
    rw [attributesChars, List.flatMap_nil, List.nil_append, readAttributes]
    split
    · rename_i hsome
      rw [hnone] at hsome
      cases hsome
    · rfl
  | cons entry more ih =>
    have hread := readNextAttribute?_attributesChars selfClosing rest h
    rw [readAttributes]
    split
    · rename_i hsome
      rw [hread] at hsome
      cases hsome
      rw [ih (List.forall_mem_cons.mp h).2]
      rfl
    · rename_i hnone
      rw [hread] at hnone
      cases hnone

end

/-- A start tag is read back, with the values as they were written. -/
theorem readStartTag?_chars {opening : Opening} (h : opening.isReadable = true)
    (rest : List Char) :
    readStartTag? (opening.chars ++ rest) = some (opening.startTag, rest) := by
  simp only [Opening.isReadable, Bool.and_eq_true, List.all_eq_true] at h
  obtain ⟨htag, hnames⟩ := h
  have hchars : opening.chars ++ rest = '<' :: (opening.tag.toList ++
      attributesChars opening.attributes.entries opening.selfClosing rest) := by
    simp [Opening.chars, attributesChars, tagEndChars]
  have hname : readTagName? (opening.tag.toList ++
      attributesChars opening.attributes.entries opening.selfClosing rest) =
      some (opening.tag, attributesChars opening.attributes.entries opening.selfClosing rest) := by
    refine readTagName?_append htag fun c hc => ?_
    rcases head?_attributesChars _ _ _ c hc with rfl | rfl <;> rfl
  have hattributes : ∀ entry ∈ opening.attributes.entries, isAttributeName entry.1 = true :=
    fun entry hentry => hnames entry.1 (List.mem_map_of_mem hentry)
  rw [hchars]
  simp only [readStartTag?, hname, readAttributes_attributesChars _ _ hattributes,
    readTagEnd?_tagEndChars, Option.map_some]
  rfl

end Document

end HtmlComponents
