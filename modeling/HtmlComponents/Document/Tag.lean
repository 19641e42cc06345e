import HtmlComponents.OrderedMap
import HtmlComponents.TagName
import HtmlComponents.Text.Blank
import HtmlComponents.Text.Reference

/-!
# Tags

Reading of start tags and end tags at the start of a text. Each reader gives what it read and the
text that is left, which is a proper suffix of the text.
-/

namespace HtmlComponents

/-- A start tag as written. Attribute values are without their quotes and still hold their character
references. -/
structure StartTag where
  name : String
  attributes : List (String × Option String)
  selfClosing : Bool
deriving DecidableEq

namespace StartTag

/-- The name in small letters. -/
def localName (tag : StartTag) : String := tag.name.toLower

def isNamed (tag : StartTag) (name : String) : Bool := sameName tag.name name

/-- The attributes in order, each value with its character references decoded. -/
def decodedAttributes (tag : StartTag) : List (String × Option String) :=
  tag.attributes.map fun entry => (entry.1, entry.2.map Text.Reference.decode)

/-- The first attribute of a name. -/
def attribute? (tag : StartTag) (name : String) : Option (String × Option String) :=
  tag.decodedAttributes.find? fun entry => entry.1 == name

/-- Attribute texts by name: of several attributes of one name the first counts, and an attribute
without a value has the empty text. -/
def rawAttributes (tag : StartTag) : OrderedMap String :=
  OrderedMap.ofListFirst (tag.decodedAttributes.map fun entry => (entry.1, entry.2.getD ""))

end StartTag

namespace Document

/-- Characters of a tag name after its first, which is a letter. -/
def isTagNameChar (c : Char) : Bool :=
  c.isAlphanum || c == '-' || c == '_' || c == ':' || c == '.'

/-- Characters of an attribute name. -/
def isAttributeNameChar (c : Char) : Bool :=
  !Text.isBlank c && c != '/' && c != '>' && c != '=' && c != '"' && c != '\'' && c != '<'

/-- Characters of an attribute value without quotes. -/
def isUnquotedChar (c : Char) : Bool :=
  !Text.isBlank c && c != '>' && c != '"' && c != '\'' && c != '<' && c != '\x60'

/-- A tag name: a letter, then letters, digits and a few signs. -/
def readTagName? (text : List Char) : Option (String × List Char) :=
  match text with
  | c :: _ =>
    if c.isAlpha then
      some (String.ofList (text.takeWhile isTagNameChar), text.dropWhile isTagNameChar)
    else none
  | [] => none

/-- Text up to a closing quote, which is not part of it. -/
def readUntilQuote? (quote : Char) (text : List Char) : Option (String × List Char) :=
  match text.dropWhile (· != quote) with
  | _ :: left => some (String.ofList (text.takeWhile (· != quote)), left)
  | [] => none

/-- An attribute value: in double quotes, in single quotes, or without quotes and not empty. -/
def readValue? (text : List Char) : Option (String × List Char) :=
  match text with
  | [] => none
  | c :: rest =>
    if c = '"' ∨ c = '\'' then readUntilQuote? c rest
    else if isUnquotedChar c then
      some (String.ofList (text.takeWhile isUnquotedChar), text.dropWhile isUnquotedChar)
    else none

/-- An equals sign with a value after it, with gaps around the sign. -/
def readAssignment? (text : List Char) : Option (String × List Char) :=
  match text.dropWhile Text.isGap with
  | '=' :: rest => readValue? (rest.dropWhile Text.isGap)
  | _ => none

/-- An attribute: a name, and a value if a complete one follows. -/
def readAttribute? (text : List Char) : Option ((String × Option String) × List Char) :=
  match text.takeWhile isAttributeNameChar with
  | [] => none
  | name =>
    let afterName := text.dropWhile isAttributeNameChar
    match readAssignment? afterName with
    | some (value, left) => some ((String.ofList name, some value), left)
    | none => some ((String.ofList name, none), afterName)

/-- One attribute with the gap before it, which is not empty. -/
def readNextAttribute? (text : List Char) : Option ((String × Option String) × List Char) :=
  match text with
  | c :: rest => if Text.isGap c then readAttribute? (rest.dropWhile Text.isGap) else none
  | [] => none

theorem length_dropWhile_le (p : Char → Bool) (text : List Char) :
    (text.dropWhile p).length ≤ text.length :=
  (List.dropWhile_suffix p).length_le

theorem readUntilQuote?_suffix {quote : Char} {text left : List Char} {value : String}
    (h : readUntilQuote? quote text = some (value, left)) : left <:+ text := by
  unfold readUntilQuote? at h
  split at h
  · rename_i c left' hd
    simp only [Option.some.injEq, Prod.mk.injEq] at h
    obtain ⟨-, rfl⟩ := h
    exact (List.suffix_cons c left').trans (hd ▸ List.dropWhile_suffix _)
  · simp at h

theorem readValue?_suffix {text left : List Char} {value : String}
    (h : readValue? text = some (value, left)) : left <:+ text := by
  unfold readValue? at h
  split at h
  · simp at h
  · rename_i c rest
    split at h
    · exact (readUntilQuote?_suffix h).trans (List.suffix_cons c rest)
    · split at h
      · simp only [Option.some.injEq, Prod.mk.injEq] at h
        obtain ⟨-, rfl⟩ := h
        exact List.dropWhile_suffix _
      · simp at h

theorem readAssignment?_suffix {text left : List Char} {value : String}
    (h : readAssignment? text = some (value, left)) : left <:+ text := by
  unfold readAssignment? at h
  split at h
  · rename_i rest hd
    exact (((readValue?_suffix h).trans (List.dropWhile_suffix _)).trans
      (List.suffix_cons '=' rest)).trans (hd ▸ List.dropWhile_suffix _)
  · simp at h

theorem readAttribute?_suffix {text left : List Char} {entry : String × Option String}
    (h : readAttribute? text = some (entry, left)) : left <:+ text := by
  unfold readAttribute? at h
  split at h
  · simp at h
  · simp only at h
    split at h
    · rename_i value left' ha
      simp only [Option.some.injEq, Prod.mk.injEq] at h
      obtain ⟨-, rfl⟩ := h
      exact (readAssignment?_suffix ha).trans (List.dropWhile_suffix _)
    · simp only [Option.some.injEq, Prod.mk.injEq] at h
      obtain ⟨-, rfl⟩ := h
      exact List.dropWhile_suffix _

theorem readNextAttribute?_length_lt {text left : List Char} {entry : String × Option String}
    (h : readNextAttribute? text = some (entry, left)) : left.length < text.length := by
  unfold readNextAttribute? at h
  split at h
  · split at h
    · have hle := (readAttribute?_suffix h).length_le
      have := length_dropWhile_le Text.isGap ‹List Char›
      simp only [List.length_cons]
      omega
    · simp at h
  · simp at h

/-- As many attributes as there are, each with a gap before it. -/
def readAttributes (text : List Char) : List (String × Option String) × List Char :=
  match _h : readNextAttribute? text with
  | some (entry, left) =>
    let (more, rest) := readAttributes left
    (entry :: more, rest)
  | none => ([], text)
termination_by text.length
decreasing_by exact readNextAttribute?_length_lt _h

/-- The end of a start tag: whether it has a slash, and what is left. -/
def readTagEnd? (text : List Char) : Option (Bool × List Char) :=
  match text.dropWhile Text.isGap with
  | '/' :: '>' :: left => some (true, left)
  | '>' :: left => some (false, left)
  | _ => none

/-- A start tag at the start of a text. -/
def readStartTag? (text : List Char) : Option (StartTag × List Char) :=
  match text with
  | '<' :: rest =>
    match readTagName? rest with
    | some (name, afterName) =>
      let (attributes, afterAttributes) := readAttributes afterName
      (readTagEnd? afterAttributes).map fun (selfClosing, left) =>
        (⟨name, attributes, selfClosing⟩, left)
    | none => none
  | _ => none

/-- An end tag at the start of a text: its name. -/
def readEndTag? (text : List Char) : Option (String × List Char) :=
  match text with
  | '<' :: '/' :: rest =>
    match readTagName? rest with
    | some (name, afterName) =>
      match afterName.dropWhile Text.isGap with
      | '>' :: left => some (name, left)
      | _ => none
    | none => none
  | _ => none

theorem readTagName?_suffix {text left : List Char} {name : String}
    (h : readTagName? text = some (name, left)) : left <:+ text := by
  unfold readTagName? at h
  split at h
  · split at h
    · simp only [Option.some.injEq, Prod.mk.injEq] at h
      obtain ⟨-, rfl⟩ := h
      exact List.dropWhile_suffix _
    · simp at h
  · simp at h

theorem readAttributes_suffix (text : List Char) : (readAttributes text).2 <:+ text := by
  fun_induction readAttributes text with
  | case1 text entry left h more rest hr ih =>
    rw [hr] at ih
    refine ih.trans ?_
    unfold readNextAttribute? at h
    split at h
    · split at h
      · exact ((readAttribute?_suffix h).trans (List.dropWhile_suffix _)).trans (List.suffix_cons ..)
      · simp at h
    · simp at h
  | case2 text => exact List.suffix_refl text

theorem readTagEnd?_suffix {text left : List Char} {selfClosing : Bool}
    (h : readTagEnd? text = some (selfClosing, left)) : left <:+ text := by
  unfold readTagEnd? at h
  split at h
  · rename_i left' hd
    simp only [Option.some.injEq, Prod.mk.injEq] at h
    obtain ⟨-, rfl⟩ := h
    exact ((List.suffix_cons '>' left').trans (List.suffix_cons '/' _)).trans
      (hd ▸ List.dropWhile_suffix _)
  · rename_i left' hd
    simp only [Option.some.injEq, Prod.mk.injEq] at h
    obtain ⟨-, rfl⟩ := h
    exact (List.suffix_cons '>' left').trans (hd ▸ List.dropWhile_suffix _)
  · simp at h

theorem readStartTag?_suffix {c : Char} {rest left : List Char} {tag : StartTag}
    (h : readStartTag? (c :: rest) = some (tag, left)) : left <:+ rest := by
  unfold readStartTag? at h
  split at h
  · rename_i heq
    cases heq
    split at h
    · rename_i name afterName hn
      simp only [Option.map_eq_some_iff, Prod.exists, Prod.mk.injEq] at h
      obtain ⟨slash, left', he, -, rfl⟩ := h
      exact ((readTagEnd?_suffix he).trans (readAttributes_suffix _)).trans (readTagName?_suffix hn)
    · simp at h
  · simp at h

theorem readEndTag?_suffix {c : Char} {rest left : List Char} {name : String}
    (h : readEndTag? (c :: rest) = some (name, left)) : left <:+ rest := by
  unfold readEndTag? at h
  split at h
  · rename_i heq
    cases heq
    split at h
    · rename_i name' afterName hn
      split at h
      · rename_i left' hd
        simp only [Option.some.injEq, Prod.mk.injEq] at h
        obtain ⟨-, rfl⟩ := h
        exact (((List.suffix_cons '>' left').trans (hd ▸ List.dropWhile_suffix _)).trans
          (readTagName?_suffix hn)).trans (List.suffix_cons ..)
      · simp at h
    · simp at h
  · simp at h

end Document

end HtmlComponents
