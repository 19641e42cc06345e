import HtmlComponents.Proofs.Document.Locality
import HtmlComponents.Proofs.Markup.Written

/-!
# Grammar of start tags

A start tag as it is written, with its gaps, its quotes and its slash. What is written by the grammar is read
(`readStartTag?_spelled`), and what is read is written by it (`exists_spelled_of_readStartTag?`).
-/

namespace HtmlComponents.Document

open Text (takeWhile_append_stop dropWhile_append_stop exists_stop head?_cons_stop)

/-! ### Tags as they are written -/

inductive SpelledValue where
  | quoted (quote : Char) (value : List Char)
  | bare (value : List Char)
deriving DecidableEq

/-- A value with the equals sign before it and the gaps on both sides of the sign. -/
structure Assignment where
  beforeSign : List Char
  behindSign : List Char
  value : SpelledValue
deriving DecidableEq

/-- An attribute with the gap before it. -/
structure SpelledAttribute where
  gap : List Char
  name : String
  assignment : Option Assignment
deriving DecidableEq

structure SpelledTag where
  name : String
  attributes : List SpelledAttribute
  /-- The gap before the end of the tag. -/
  gap : List Char
  slash : Bool
deriving DecidableEq

namespace SpelledValue

def chars : SpelledValue → List Char
  | quoted quote value => quote :: (value ++ [quote])
  | bare value => value

/-- The value without its quotes. -/
def text : SpelledValue → List Char
  | quoted _ value => value
  | bare value => value

def isBare : SpelledValue → Bool
  | quoted _ _ => false
  | bare _ => true

inductive IsValid : SpelledValue → Prop
  | quoted {quote : Char} {value : List Char} (hquote : quote = '"' ∨ quote = '\'')
      (hvalue : quote ∉ value) : IsValid (.quoted quote value)
  | bare {value : List Char} (hne : value ≠ []) (hvalue : ∀ c ∈ value, isUnquotedChar c = true) :
      IsValid (.bare value)

end SpelledValue

namespace Assignment

def chars (a : Assignment) : List Char := a.beforeSign ++ '=' :: (a.behindSign ++ a.value.chars)

structure IsValid (a : Assignment) : Prop where
  beforeSign : ∀ c ∈ a.beforeSign, Text.isGap c = true
  behindSign : ∀ c ∈ a.behindSign, Text.isGap c = true
  value : a.value.IsValid

end Assignment

namespace SpelledAttribute

def chars (a : SpelledAttribute) : List Char :=
  a.gap ++ (a.name.toList ++ (a.assignment.map Assignment.chars).getD [])

/-- The name and the value as they are read. -/
def entry (a : SpelledAttribute) : String × Option String :=
  (a.name, a.assignment.map fun assignment => String.ofList assignment.value.text)

def isBare (a : SpelledAttribute) : Bool := a.assignment.any fun assignment => assignment.value.isBare

structure IsValid (a : SpelledAttribute) : Prop where
  gap_ne_nil : a.gap ≠ []
  gap : ∀ c ∈ a.gap, Text.isGap c = true
  name_ne_nil : a.name.toList ≠ []
  name : ∀ c ∈ a.name.toList, isAttributeNameChar c = true
  assignment : ∀ assignment ∈ a.assignment, assignment.IsValid

end SpelledAttribute

/-- A value without quotes goes as far as it can: what stands behind the attribute could not belong to it. -/
def IsLongest (attributes : List SpelledAttribute) (ending : List Char) : Prop :=
  ∀ front a behind, attributes = front ++ a :: behind → a.isBare = true →
    ∀ c ∈ (behind.flatMap SpelledAttribute.chars ++ ending).head?, isUnquotedChar c = false

namespace SpelledTag

/-- The end of the tag, with the gap before it. -/
def endChars (t : SpelledTag) : List Char := t.gap ++ if t.slash then ['/', '>'] else ['>']

def chars (t : SpelledTag) : List Char :=
  '<' :: (t.name.toList ++ (t.attributes.flatMap SpelledAttribute.chars ++ t.endChars))

/-- The tag as it is read. -/
def tag (t : SpelledTag) : StartTag := ⟨t.name, t.attributes.map SpelledAttribute.entry, t.slash⟩

structure IsValid (t : SpelledTag) : Prop where
  name : ∃ c rest, t.name.toList = c :: rest ∧ c.isAlpha = true ∧ ∀ d ∈ rest, isTagNameChar d = true
  attributes : ∀ a ∈ t.attributes, a.IsValid
  gap : ∀ c ∈ t.gap, Text.isGap c = true
  longest : IsLongest t.attributes t.endChars

end SpelledTag

/-! ### Where the parts of a tag end -/

/-- What may follow an attribute: no more of its name, and no equals sign either, if behind a gap. -/
structure Follows (rest : List Char) : Prop where
  head : ∀ c ∈ rest.head?, isAttributeNameChar c = false
  behindGap : ∀ c ∈ (rest.dropWhile Text.isGap).head?, c ≠ '='

theorem isAttributeNameChar_of_isGap {c : Char} (h : Text.isGap c = true) : isAttributeNameChar c = false := by
  simp [isAttributeNameChar, Text.isBlank_of_isGap h]

theorem isUnquotedChar_of_isGap {c : Char} (h : Text.isGap c = true) : isUnquotedChar c = false := by
  simp [isUnquotedChar, Text.isBlank_of_isGap h]

theorem isGap_of_isUnquotedChar {c : Char} (h : isUnquotedChar c = true) : Text.isGap c = false := by
  rw [Bool.eq_false_iff]
  intro hgap
  rw [isUnquotedChar_of_isGap hgap] at h
  cases h

theorem isTagNameChar_of_isAlpha {c : Char} (h : c.isAlpha = true) : isTagNameChar c = true := by
  simp [isTagNameChar, Char.isAlphanum, h]

section
variable {v : SpelledValue} {w : Assignment} {a : SpelledAttribute} {t : SpelledTag} {rest : List Char}

theorem SpelledValue.IsValid.head (h : v.IsValid) (rest : List Char) :
    ∃ c more, v.chars ++ rest = c :: more ∧ Text.isGap c = false ∧
      (v.isBare = true → isUnquotedChar c = true) ∧ (v.isBare = false → c = '"' ∨ c = '\'') := by
  cases h with
  | @quoted quote value hquote =>
    have hgap : Text.isGap quote = false := by rcases hquote with rfl | rfl <;> rfl
    exact ⟨quote, value ++ [quote] ++ rest, by simp [chars], hgap, nofun, fun _ => hquote⟩
  | bare hne hvalue =>
    obtain ⟨c, more, rfl⟩ := List.exists_cons_of_ne_nil hne
    have hc := hvalue c List.mem_cons_self
    exact ⟨c, more ++ rest, rfl, isGap_of_isUnquotedChar hc, fun _ => hc, nofun⟩

theorem SpelledValue.IsValid.stop (h : v.IsValid) (rest : List Char) :
    ∀ c ∈ (v.chars ++ rest).head?, Text.isGap c = false := by
  obtain ⟨c, more, hchars, hc, -⟩ := h.head rest
  rw [hchars]
  exact head?_cons_stop hc more

theorem Assignment.IsValid.stop (h : w.IsValid) (rest : List Char) :
    ∀ c ∈ (w.chars ++ rest).head?, isAttributeNameChar c = false := by
  intro c hc
  cases hbefore : w.beforeSign with
  | nil =>
    rw [chars, hbefore] at hc
    cases hc
    rfl
  | cons d before =>
    rw [chars, hbefore] at hc
    obtain rfl : d = c := Option.some.inj hc
    exact isAttributeNameChar_of_isGap (h.beforeSign d (hbefore ▸ List.mem_cons_self))

theorem SpelledAttribute.IsValid.stop (h : a.IsValid) (rest : List Char) :
    ∀ c ∈ (a.name.toList ++ rest).head?, Text.isGap c = false := by
  obtain ⟨c, more, hname⟩ := List.exists_cons_of_ne_nil h.name_ne_nil
  rw [hname]
  exact head?_cons_stop (isGap_eq_false_of_name (h.name c (hname ▸ List.mem_cons_self))) _

theorem SpelledAttribute.IsValid.behindGap (h : a.IsValid) (rest : List Char) :
    ∃ c more, a.chars ++ rest = a.gap ++ c :: more ∧ isAttributeNameChar c = true := by
  obtain ⟨c, more, hname⟩ := List.exists_cons_of_ne_nil h.name_ne_nil
  refine ⟨c, more ++ ((a.assignment.map Assignment.chars).getD [] ++ rest), by simp [chars, hname], ?_⟩
  exact h.name c (hname ▸ List.mem_cons_self)

theorem SpelledAttribute.IsValid.dropWhile_gap (h : a.IsValid) (rest : List Char) :
    ∀ c ∈ ((a.chars ++ rest).dropWhile Text.isGap).head?, isAttributeNameChar c = true := by
  obtain ⟨d, more, hchars, hd⟩ := h.behindGap rest
  rw [hchars, dropWhile_append_stop h.gap (head?_cons_stop (isGap_eq_false_of_name hd) more)]
  intro c hc
  cases hc
  exact hd

theorem SpelledAttribute.IsValid.head (h : a.IsValid) (rest : List Char) :
    ∀ c ∈ (a.chars ++ rest).head?, Text.isGap c = true := by
  obtain ⟨d, more, hgap⟩ := List.exists_cons_of_ne_nil h.gap_ne_nil
  intro c hc
  rw [chars, hgap] at hc
  obtain rfl : d = c := Option.some.inj hc
  exact h.gap d (hgap ▸ List.mem_cons_self)

theorem SpelledAttribute.IsValid.follows (h : a.IsValid) (rest : List Char) : Follows (a.chars ++ rest) where
  head c hc := isAttributeNameChar_of_isGap (h.head rest c hc)
  behindGap c hc := ne_eq_sign_of_name (h.dropWhile_gap rest c hc)

theorem SpelledTag.endChars_ne_nil (t : SpelledTag) : t.endChars ≠ [] := by
  rw [endChars]
  split <;> simp

theorem SpelledTag.endChars_append (t : SpelledTag) (rest : List Char) :
    ∃ c more, t.endChars ++ rest = t.gap ++ c :: more ∧ (c = '/' ∨ c = '>') := by
  cases hslash : t.slash with
  | true => exact ⟨'/', '>' :: rest, by simp [endChars, hslash], .inl rfl⟩
  | false => exact ⟨'>', rest, by simp [endChars, hslash], .inr rfl⟩

theorem SpelledTag.dropWhile_endChars (hgap : ∀ c ∈ t.gap, Text.isGap c = true) (rest : List Char) :
    ∀ c ∈ ((t.endChars ++ rest).dropWhile Text.isGap).head?, c = '/' ∨ c = '>' := by
  obtain ⟨d, more, hchars, hd⟩ := t.endChars_append rest
  have hstop : Text.isGap d = false := by rcases hd with rfl | rfl <;> rfl
  rw [hchars, dropWhile_append_stop hgap (head?_cons_stop hstop more)]
  intro c hc
  cases hc
  exact hd

theorem SpelledTag.head_endChars (hgap : ∀ c ∈ t.gap, Text.isGap c = true) (rest : List Char) :
    ∀ c ∈ (t.endChars ++ rest).head?, Text.isGap c = true ∨ c = '/' ∨ c = '>' := by
  obtain ⟨d, more, hchars, hd⟩ := t.endChars_append rest
  rw [hchars]
  intro c hc
  cases hcons : t.gap with
  | nil =>
    rw [hcons] at hc
    cases hc
    exact .inr hd
  | cons e gap =>
    rw [hcons] at hc
    cases hc
    exact .inl (hgap c (hcons ▸ List.mem_cons_self))

theorem SpelledTag.follows_endChars (hgap : ∀ c ∈ t.gap, Text.isGap c = true) (rest : List Char) :
    Follows (t.endChars ++ rest) where
  head c hc := by
    rcases t.head_endChars hgap rest c hc with h | rfl | rfl
    · exact isAttributeNameChar_of_isGap h
    · rfl
    · rfl
  behindGap c hc := by
    rcases t.dropWhile_endChars hgap rest c hc with rfl | rfl <;> decide

theorem SpelledTag.head?_ending (t : SpelledTag) (attributes : List SpelledAttribute) (rest : List Char) :
    (attributes.flatMap SpelledAttribute.chars ++ (t.endChars ++ rest)).head? =
      (attributes.flatMap SpelledAttribute.chars ++ t.endChars).head? := by
  rw [← List.append_assoc]
  exact head?_append_eq (List.append_ne_nil_of_right_ne_nil _ t.endChars_ne_nil) rest

theorem follows_attributes {attributes : List SpelledAttribute} (h : ∀ a ∈ attributes, a.IsValid)
    (hrest : Follows rest) : Follows (attributes.flatMap SpelledAttribute.chars ++ rest) := by
  cases attributes with
  | nil => exact hrest
  | cons a more =>
    rw [List.flatMap_cons, List.append_assoc]
    exact (h a List.mem_cons_self).follows _

theorem SpelledTag.IsValid.name_chars (h : t.IsValid) : ∀ c ∈ t.name.toList, isTagNameChar c = true := by
  obtain ⟨c, more, hcons, hc, hmore⟩ := h.name
  rw [hcons]
  exact List.forall_mem_cons.mpr ⟨isTagNameChar_of_isAlpha hc, hmore⟩

theorem SpelledTag.IsValid.stop (h : t.IsValid) (rest : List Char) :
    ∀ c ∈ (t.attributes.flatMap SpelledAttribute.chars ++ (t.endChars ++ rest)).head?,
      isTagNameChar c = false := by
  intro c hc
  cases hattributes : t.attributes with
  | nil =>
    rw [hattributes, List.flatMap_nil, List.nil_append] at hc
    rcases t.head_endChars h.gap rest c hc with hgap | rfl | rfl
    · exact isTagNameChar_of_isGap hgap
    · rfl
    · rfl
  | cons a more =>
    rw [hattributes, List.flatMap_cons, List.append_assoc] at hc
    have ha := h.attributes a (hattributes ▸ List.mem_cons_self)
    exact isTagNameChar_of_isGap (ha.head _ c hc)

theorem isLongest_cons {attributes : List SpelledAttribute} {ending : List Char} :
    IsLongest (a :: attributes) ending ↔
      (a.isBare = true → ∀ c ∈ (attributes.flatMap SpelledAttribute.chars ++ ending).head?,
        isUnquotedChar c = false) ∧ IsLongest attributes ending := by
  constructor
  · intro h
    exact ⟨h [] a attributes rfl, fun front b behind heq => h (a :: front) b behind (by rw [heq]; rfl)⟩
  · rintro ⟨hfirst, hmore⟩ front b behind heq
    cases front with
    | nil =>
      obtain ⟨rfl, rfl⟩ := List.cons.inj heq
      exact hfirst
    | cons d front => exact hmore front b behind (List.cons.inj heq).2

theorem isLongest_nil (ending : List Char) : IsLongest [] ending := fun front a behind h => by simp at h

end

/-! ### What is written is read -/

section
variable {v : SpelledValue} {w : Assignment} {a : SpelledAttribute} {t : SpelledTag} {rest : List Char}

theorem readValue?_spelled (h : v.IsValid)
    (hrest : v.isBare = true → ∀ c ∈ rest.head?, isUnquotedChar c = false) :
    readValue? (v.chars ++ rest) = some (String.ofList v.text, rest) := by
  cases h with
  | @quoted quote value hquote hvalue =>
    have hchars : SpelledValue.chars (.quoted quote value) ++ rest = quote :: (value ++ quote :: rest) := by
      simp [SpelledValue.chars]
    rw [hchars, readValue?, if_pos hquote]
    exact readUntilQuote?_append hvalue rest
  | @bare value hne hvalue =>
    obtain ⟨c, more, rfl⟩ := List.exists_cons_of_ne_nil hne
    have hc := hvalue c List.mem_cons_self
    have hquote : ¬(c = '"' ∨ c = '\'') := by rintro (rfl | rfl) <;> simp [isUnquotedChar] at hc
    show readValue? (c :: (more ++ rest)) = _
    rw [readValue?, if_neg hquote, if_pos hc, ← List.cons_append, takeWhile_append_stop hvalue (hrest rfl),
      dropWhile_append_stop hvalue (hrest rfl)]
    rfl

theorem readAssignment?_spelled (h : w.IsValid)
    (hrest : w.value.isBare = true → ∀ c ∈ rest.head?, isUnquotedChar c = false) :
    readAssignment? (w.chars ++ rest) = some (String.ofList w.value.text, rest) := by
  have hchars : w.chars ++ rest = w.beforeSign ++ '=' :: (w.behindSign ++ (w.value.chars ++ rest)) := by
    simp [Assignment.chars]
  rw [hchars, readAssignment?, dropWhile_append_stop h.beforeSign (head?_cons_stop rfl _)]
  show readValue? ((w.behindSign ++ (w.value.chars ++ rest)).dropWhile Text.isGap) = _
  rw [dropWhile_append_stop h.behindSign (h.value.stop rest)]
  exact readValue?_spelled h.value hrest

theorem readNextAttribute?_spelled (h : a.IsValid) (hfollows : Follows rest)
    (hrest : a.isBare = true → ∀ c ∈ rest.head?, isUnquotedChar c = false) :
    readNextAttribute? (a.chars ++ rest) = some (a.entry, rest) := by
  obtain ⟨c, gap, hgap⟩ := List.exists_cons_of_ne_nil h.gap_ne_nil
  obtain ⟨hc, hgaps⟩ := List.forall_mem_cons.mp (hgap ▸ h.gap)
  have hname : isAttributeName a.name = true := by
    simpa [isAttributeName, List.all_eq_true] using ⟨by simpa using h.name_ne_nil, h.name⟩
  let after := (a.assignment.map Assignment.chars).getD [] ++ rest
  have hchars : a.chars ++ rest = c :: (gap ++ (a.name.toList ++ after)) := by
    simp [SpelledAttribute.chars, hgap, after]
  rw [hchars, readNextAttribute?, if_pos hc, dropWhile_append_stop hgaps (h.stop after)]
  cases hassignment : a.assignment with
  | none =>
    have hafter : after = rest := by simp [after, hassignment]
    rw [hafter, readAttribute?_append rest hname hfollows.head, readAssignment?_eq_none hfollows.behindGap]
    simp [SpelledAttribute.entry, hassignment]
  | some w =>
    have hafter : after = w.chars ++ rest := by simp [after, hassignment]
    have hvalid := h.assignment w hassignment
    have hbare : w.value.isBare = true → a.isBare = true := fun h => by
      simpa [SpelledAttribute.isBare, hassignment] using h
    rw [hafter, readAttribute?_append _ hname (hvalid.stop rest),
      readAssignment?_spelled hvalid fun h => hrest (hbare h)]
    simp [SpelledAttribute.entry, hassignment]

theorem readAttributes_spelled {attributes : List SpelledAttribute} (h : ∀ a ∈ attributes, a.IsValid)
    (hgap : ∀ c ∈ t.gap, Text.isGap c = true) (hlongest : IsLongest attributes t.endChars)
    (rest : List Char) :
    readAttributes (attributes.flatMap SpelledAttribute.chars ++ (t.endChars ++ rest)) =
      (attributes.map SpelledAttribute.entry, t.endChars ++ rest) := by
  induction attributes with
  | nil =>
    refine readAttributes_of_none (readNextAttribute?_eq_none fun c hc => ?_)
    rcases t.dropWhile_endChars hgap rest c hc with rfl | rfl <;> rfl
  | cons a more ih =>
    obtain ⟨ha, hmore⟩ := List.forall_mem_cons.mp h
    obtain ⟨hfirst, hothers⟩ := isLongest_cons.mp hlongest
    have hread := readNextAttribute?_spelled ha (follows_attributes hmore (t.follows_endChars hgap rest))
      fun hbare => t.head?_ending more rest ▸ hfirst hbare
    rw [List.flatMap_cons, List.append_assoc, readAttributes_of_some hread, ih hmore hothers]
    rfl

theorem SpelledTag.readTagEnd?_endChars (hgap : ∀ c ∈ t.gap, Text.isGap c = true) (rest : List Char) :
    readTagEnd? (t.endChars ++ rest) = some (t.slash, rest) := by
  cases hslash : t.slash with
  | true =>
    have hchars : t.endChars ++ rest = t.gap ++ '/' :: '>' :: rest := by simp [endChars, hslash]
    rw [hchars, readTagEnd?, dropWhile_append_stop hgap (head?_cons_stop rfl _)]
    rfl
  | false =>
    have hchars : t.endChars ++ rest = t.gap ++ '>' :: rest := by simp [endChars, hslash]
    rw [hchars, readTagEnd?, dropWhile_append_stop hgap (head?_cons_stop rfl _)]
    rfl

/-- A valid tag is read, whatever stands behind it. -/
theorem readStartTag?_spelled (h : t.IsValid) (rest : List Char) :
    readStartTag? (t.chars ++ rest) = some (t.tag, rest) := by
  let after := t.attributes.flatMap SpelledAttribute.chars ++ (t.endChars ++ rest)
  have hchars : t.chars ++ rest = '<' :: (t.name.toList ++ after) := by simp [SpelledTag.chars, after]
  have hname : isTagName t.name = true := by
    obtain ⟨c, more, hcons, hc, -⟩ := h.name
    exact isTagName_iff.mpr ⟨c, more, hcons, hc, h.name_chars⟩
  rw [hchars, readStartTag?, readTagName?_append hname (h.stop rest)]
  dsimp only
  rw [readAttributes_spelled h.attributes h.gap h.longest, SpelledTag.readTagEnd?_endChars h.gap]
  rfl

end

/-! ### What is read is written so -/

section
variable {text left : List Char} {value : String}

theorem exists_of_readValue? (h : readValue? text = some (value, left)) :
    ∃ v : SpelledValue, v.IsValid ∧ text = v.chars ++ left ∧ value = String.ofList v.text ∧
      (v.isBare = true → ∀ c ∈ left.head?, isUnquotedChar c = false) := by
  cases text with
  | nil => cases h
  | cons c rest =>
    by_cases hquote : c = '"' ∨ c = '\''
    · rw [readValue?, if_pos hquote, readUntilQuote?] at h
      obtain ⟨front, back, rfl, hfront, hback⟩ := exists_stop (· != c) rest
      rw [dropWhile_append_stop hfront hback, takeWhile_append_stop hfront hback] at h
      cases back with
      | nil => cases h
      | cons d back =>
        cases h
        obtain rfl : d = c := by simpa using hback d rfl
        refine ⟨.quoted d front, .quoted hquote fun hmem => ?_, by simp [SpelledValue.chars], rfl,
          fun hbare => ?_⟩
        · simpa using hfront d hmem
        · cases hbare
    · rw [readValue?, if_neg hquote] at h
      split at h
      · rename_i hc
        obtain ⟨front, back, htext, hfront, hback⟩ := exists_stop isUnquotedChar (c :: rest)
        rw [htext, takeWhile_append_stop hfront hback, dropWhile_append_stop hfront hback] at h
        cases h
        refine ⟨.bare front, .bare ?_ hfront, htext, rfl, fun _ => hback⟩
        rintro rfl
        rw [List.nil_append] at htext
        have hstop := hback c (by rw [← htext]; rfl)
        rw [hc] at hstop
        cases hstop
      · cases h

theorem exists_of_readAssignment? (h : readAssignment? text = some (value, left)) :
    ∃ w : Assignment, w.IsValid ∧ text = w.chars ++ left ∧ value = String.ofList w.value.text ∧
      (w.value.isBare = true → ∀ c ∈ left.head?, isUnquotedChar c = false) := by
  obtain ⟨gaps, rest, rfl, hgaps, hrest⟩ := exists_stop Text.isGap text
  rw [readAssignment?, dropWhile_append_stop hgaps hrest] at h
  split at h
  · rename_i rest
    obtain ⟨gaps', rest', rfl, hgaps', hrest'⟩ := exists_stop Text.isGap rest
    rw [dropWhile_append_stop hgaps' hrest'] at h
    obtain ⟨v, hv, rfl, hvalue, hlongest⟩ := exists_of_readValue? h
    exact ⟨⟨gaps, gaps', v⟩, ⟨hgaps, hgaps', hv⟩, by simp [Assignment.chars], hvalue, hlongest⟩
  · cases h

theorem exists_of_readNextAttribute? {entry : String × Option String}
    (h : readNextAttribute? text = some (entry, left)) :
    ∃ a : SpelledAttribute, a.IsValid ∧ text = a.chars ++ left ∧ entry = a.entry ∧
      (a.isBare = true → ∀ c ∈ left.head?, isUnquotedChar c = false) := by
  cases text with
  | nil => cases h
  | cons c rest =>
    rw [readNextAttribute?] at h
    split at h
    · rename_i hc
      obtain ⟨gap, body, rfl, hgap, hbody⟩ := exists_stop Text.isGap rest
      rw [dropWhile_append_stop hgap hbody] at h
      have hgap : ∀ d ∈ c :: gap, Text.isGap d = true := List.forall_mem_cons.mpr ⟨hc, hgap⟩
      obtain ⟨name, after, rfl, hname, hafter⟩ := exists_stop isAttributeNameChar body
      rw [readAttribute?, takeWhile_append_stop hname hafter, dropWhile_append_stop hname hafter] at h
      split at h
      · cases h
      · rename_i hne
        have hne : (String.ofList name).toList ≠ [] := by rwa [String.toList_ofList]
        rw [← String.toList_ofList (l := name)] at hname
        dsimp only at h
        split at h
        · rename_i value left' hassignment
          cases h
          obtain ⟨w, hw, rfl, hvalue, hlongest⟩ := exists_of_readAssignment? hassignment
          refine ⟨⟨c :: gap, String.ofList name, some w⟩, ⟨List.cons_ne_nil _ _, hgap, hne, hname, ?_⟩,
            by simp [SpelledAttribute.chars], by simp [SpelledAttribute.entry, hvalue], hlongest⟩
          exact fun _ hmem => Option.some.inj hmem ▸ hw
        · cases h
          refine ⟨⟨c :: gap, String.ofList name, none⟩,
            ⟨List.cons_ne_nil _ _, hgap, hne, hname, fun _ hmem => ?_⟩, by simp [SpelledAttribute.chars], rfl,
            fun hbare => ?_⟩
          · cases hmem
          · cases hbare
    · cases h

theorem exists_of_readAttributes (text : List Char) :
    ∃ attributes : List SpelledAttribute, (∀ a ∈ attributes, a.IsValid) ∧
      text = attributes.flatMap SpelledAttribute.chars ++ (readAttributes text).2 ∧
      (readAttributes text).1 = attributes.map SpelledAttribute.entry ∧
      IsLongest attributes (readAttributes text).2 := by
  fun_induction readAttributes text with
  | case1 text entry left hnext more rest hrest ih =>
    rw [hrest] at ih
    obtain ⟨attributes, hvalid, rfl, rfl, hlongest⟩ := ih
    obtain ⟨a, ha, rfl, rfl, hbare⟩ := exists_of_readNextAttribute? hnext
    exact ⟨a :: attributes, List.forall_mem_cons.mpr ⟨ha, hvalid⟩, by simp, rfl,
      isLongest_cons.mpr ⟨hbare, hlongest⟩⟩
  | case2 text => exact ⟨[], List.forall_mem_nil _, rfl, rfl, isLongest_nil _⟩

theorem exists_of_readTagEnd? {slash : Bool} (h : readTagEnd? text = some (slash, left)) :
    ∃ gap, (∀ c ∈ gap, Text.isGap c = true) ∧
      text = gap ++ ((if slash then ['/', '>'] else ['>']) ++ left) := by
  unfold readTagEnd? at h
  split at h
  · rename_i hdrop
    cases h
    obtain ⟨gap, hgap, rfl⟩ := exists_of_dropWhile_eq hdrop
    exact ⟨gap, hgap, rfl⟩
  · rename_i hdrop
    cases h
    obtain ⟨gap, hgap, rfl⟩ := exists_of_dropWhile_eq hdrop
    exact ⟨gap, hgap, rfl⟩
  · cases h

theorem exists_of_readTagName? {name : String} (h : readTagName? text = some (name, left)) :
    ∃ c rest, name.toList = c :: rest ∧ c.isAlpha = true ∧ ∀ d ∈ rest, isTagNameChar d = true := by
  cases text with
  | nil => cases h
  | cons c rest =>
    rw [readTagName?] at h
    split at h
    · rename_i hc
      rw [List.takeWhile_cons_of_pos (isTagNameChar_of_isAlpha hc)] at h
      cases h
      exact ⟨c, rest.takeWhile isTagNameChar, String.toList_ofList, hc, fun d hd => List.mem_takeWhile_imp hd⟩
    · cases h

theorem IsLongest.append {attributes : List SpelledAttribute} {ending : List Char} (hne : ending ≠ [])
    (h : IsLongest attributes (ending ++ left)) : IsLongest attributes ending := by
  intro front a behind heq hbare
  have hhead := h front a behind heq hbare
  rwa [← List.append_assoc, head?_append_eq (List.append_ne_nil_of_right_ne_nil _ hne)] at hhead

/-- What is read as a start tag is written as one. -/
theorem exists_spelled_of_readStartTag? {tag : StartTag} (h : readStartTag? text = some (tag, left)) :
    ∃ t : SpelledTag, t.IsValid ∧ text = t.chars ++ left ∧ t.tag = tag := by
  unfold readStartTag? at h
  split at h
  · rename_i rest
    split at h
    · rename_i name after hname
      obtain ⟨⟨slash, left'⟩, hend, heq⟩ := Option.map_eq_some_iff.mp h
      cases heq
      obtain ⟨attributes, hvalid, hafter, hentries, hlongest⟩ := exists_of_readAttributes after
      obtain ⟨gap, hgap, hending⟩ := exists_of_readTagEnd? hend
      let t : SpelledTag := ⟨name, attributes, gap, slash⟩
      have hending : (readAttributes after).2 = t.endChars ++ left := by
        rw [hending, SpelledTag.endChars, List.append_assoc]
      rw [hending] at hafter hlongest
      refine ⟨t, ⟨exists_of_readTagName? hname, hvalid, hgap, hlongest.append t.endChars_ne_nil⟩, ?_, ?_⟩
      · rw [readTagName?_eq hname, hafter]
        simp [SpelledTag.chars, t]
      · exact congrArg (StartTag.mk name · slash) hentries.symm
    · cases h
  · cases h

end

end HtmlComponents.Document
