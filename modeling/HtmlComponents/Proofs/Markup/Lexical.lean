import HtmlComponents.Proofs.Document.RawText
import HtmlComponents.Proofs.Markup.RoundTrip
import Mathlib.Data.List.Infix

/-!
# Markup that is not read back

The HTML of markup whose raw text elements hold elements is read as something else: raw text ends at the
first end tag that begins like that of its element, and the end tags behind it close what they find open.
`Closed.shrinks`: even so no more elements are open behind the HTML than in front of it.
`keeps_chars`: as many are, where no raw text is ended early.
-/

namespace HtmlComponents

open Document

namespace Text

theorem lt_notMem_escapeAttribute (text : List Char) : '<' ∉ text.flatMap escapeAttributeChar := by
  intro h
  obtain ⟨c, -, hc⟩ := List.mem_flatMap.mp h
  unfold escapeAttributeChar at hc
  split at hc
  · exact absurd hc (by decide)
  · exact lt_notMem_escapeTextChar _ hc

end Text

/-! ### Parts of written markup -/

/-- A text or a tag. -/
inductive Part where
  | text (s : List Char)
  | opening (opening : Opening)
  | ending (tag : String)

namespace Part

def chars : Part → List Char
  | text s => s
  | opening o => o.chars
  | ending tag => endTagChars tag

def charsList (parts : List Part) : List Char := parts.flatMap chars

/-- A part that is read as what it is. -/
def IsLexical : Part → Prop
  | text s => '<' ∉ s
  | opening o => o.isReadable = true
  | ending tag => isTagName tag = true

end Part

/-- Parts in which every element that is opened is closed. There may be more end tags. -/
inductive Closed : List Part → Prop
  | nil : Closed []
  | text {s : List Char} {rest : List Part} (h : Closed rest) : Closed (.text s :: rest)
  | lone {o : Opening} {rest : List Part} (ho : o.isChildless = true) (h : Closed rest) :
      Closed (.opening o :: rest)
  | ending {tag : String} {rest : List Part} (h : Closed rest) : Closed (.ending tag :: rest)
  | paired {o : Opening} {inside rest : List Part} (ho : o.isChildless = false)
      (hinside : Closed inside) (h : Closed rest) :
      Closed (.opening o :: (inside ++ .ending o.tag :: rest))

theorem Closed.append {a b : List Part} (ha : Closed a) (hb : Closed b) : Closed (a ++ b) := by
  induction ha with
  | nil => exact hb
  | text _ ih => exact .text ih
  | lone ho _ ih => exact .lone ho ih
  | ending _ ih => exact .ending ih
  | @paired o inside rest ho hinside _ _ ih =>
    rw [List.cons_append, List.append_assoc]
    exact .paired ho hinside ih

namespace Markup

mutual

/-- Markup without raw HTML, whose names are read whole. -/
def isLexical : Markup → Bool
  | text _ => true
  | raw _ => false
  | fragment children => isLexicalList children
  | element opening children => opening.isReadable && isLexicalList children

def isLexicalList : List Markup → Bool
  | [] => true
  | node :: rest => isLexical node && isLexicalList rest

end

mutual

/-- The parts that markup is written in. -/
def parts : Markup → List Part
  | text s => [.text (s.toList.flatMap Text.escapeTextChar)]
  | raw html => [.text html.toList]
  | fragment children => partsList children
  | element opening children =>
    if opening.isChildless then [.opening opening]
    else .opening opening :: (partsList children ++ [.ending opening.tag])

def partsList : List Markup → List Part
  | [] => []
  | node :: rest => parts node ++ partsList rest

end

mutual

theorem charsList_parts : (markup : Markup) → Part.charsList markup.parts = markup.chars
  | .text _ | .raw _ => by simp [parts, chars, Part.charsList, Part.chars]
  | .fragment children => by
    rw [parts, chars]
    exact charsList_partsList children
  | .element opening children => by
    have hchildren := charsList_partsList children
    rw [Part.charsList] at hchildren ⊢
    rw [parts, chars]
    split
    · simp [Part.chars]
    · simp [Part.chars, hchildren]

theorem charsList_partsList : (children : List Markup) →
    Part.charsList (partsList children) = charsList children
  | [] => rfl
  | node :: rest => by
    have hnode := charsList_parts node
    have hrest := charsList_partsList rest
    rw [Part.charsList] at hnode hrest ⊢
    rw [partsList, charsList, List.flatMap_append, hnode, hrest]

end

mutual

theorem closed_parts : (markup : Markup) → Closed markup.parts
  | .text _ | .raw _ => .text .nil
  | .fragment children => by
    rw [parts]
    exact closed_partsList children
  | .element opening children => by
    rw [parts]
    split
    · rename_i h
      exact .lone h .nil
    · rename_i h
      exact .paired (Bool.eq_false_iff.mpr h) (closed_partsList children) .nil

theorem closed_partsList : (children : List Markup) → Closed (partsList children)
  | [] => .nil
  | node :: rest => (closed_parts node).append (closed_partsList rest)

end

mutual

theorem isLexical_parts : (markup : Markup) → markup.isLexical = true →
    ∀ part ∈ markup.parts, part.IsLexical
  | .text s, _ => by
    rw [parts]
    exact List.forall_mem_singleton.mpr (Text.lt_notMem_escapeText s.toList)
  | .raw _, h => by simp [isLexical] at h
  | .fragment children, h => by
    rw [isLexical] at h
    rw [parts]
    exact isLexical_partsList children h
  | .element opening children, h => by
    rw [isLexical, Bool.and_eq_true] at h
    have htag : isTagName opening.tag = true := (Bool.and_eq_true_iff.mp h.1).1
    rw [parts]
    split
    · exact List.forall_mem_singleton.mpr h.1
    · exact List.forall_mem_cons.mpr ⟨h.1, List.forall_mem_append.mpr
        ⟨isLexical_partsList children h.2, List.forall_mem_singleton.mpr htag⟩⟩

theorem isLexical_partsList : (children : List Markup) → isLexicalList children = true →
    ∀ part ∈ partsList children, part.IsLexical
  | [], _ => List.forall_mem_nil _
  | node :: rest, h => by
    rw [isLexicalList, Bool.and_eq_true] at h
    rw [partsList]
    exact List.forall_mem_append.mpr ⟨isLexical_parts node h.1, isLexical_partsList rest h.2⟩

end

end Markup

/-! ### Where raw text ends -/

namespace Document

theorem startsEndOf_opening {c : Char} (h : c ≠ '/') (name : String) (rest : List Char) :
    startsEndOf name ('<' :: c :: rest) = false := by
  simp [startsEndOf, List.isPrefixOf, Ne.symm (Text.toLower_ne (by decide) h)]

theorem lt_notMem_attributeChars {name : String} (h : isAttributeName name = true)
    (value : Option String) : '<' ∉ attributeChars name value := by
  have hname : '<' ∉ name.toList := fun hmem =>
    absurd ((isAttributeNameChar_of_mem h).2 '<' hmem) (by decide)
  cases value with
  | none => simp [attributeChars, hname]
  | some value =>
    have hvalue := Text.lt_notMem_escapeAttribute value.toList
    rw [attributeChars]
    simp only [List.cons_append, List.mem_cons, List.mem_append, hname, hvalue]
    decide

theorem exists_opening {o : Opening} (h : o.isReadable = true) :
    ∃ c rest, o.chars = '<' :: c :: rest ∧ c ≠ '/' ∧ '<' ∉ c :: rest := by
  rw [Opening.isReadable, Bool.and_eq_true, List.all_eq_true] at h
  obtain ⟨c, name, hname, hc, hall⟩ := isTagName_iff.mp h.1
  refine ⟨c, name ++ (o.attributes.entries.flatMap (fun entry => attributeChars entry.1 entry.2) ++
    tagEndChars o.selfClosing), ?_, ?_, ?_⟩
  · simp [Opening.chars, hname, tagEndChars]
  · rintro rfl
    exact absurd hc (by decide)
  · have htag : '<' ∉ c :: name := fun hmem => absurd (hall '<' (hname ▸ hmem)) (by decide)
    have hattributes : '<' ∉ o.attributes.entries.flatMap
        (fun entry => attributeChars entry.1 entry.2) := by
      intro hmem
      obtain ⟨entry, hentry, hlt⟩ := List.mem_flatMap.mp hmem
      exact lt_notMem_attributeChars (h.2 entry.1 (List.mem_map_of_mem hentry)) entry.2 hlt
    have hend : '<' ∉ tagEndChars o.selfClosing := by cases o.selfClosing <;> decide
    rw [← List.cons_append, List.mem_append, List.mem_append]
    rintro (hmem | hmem | hmem)
    · exact htag hmem
    · exact hattributes hmem
    · exact hend hmem

theorem splitRaw_append_of_not {name : String} {s rest : List Char} (hlt : '<' ∉ s)
    (h : startsEndOf name ('<' :: s ++ rest) = false) :
    splitRaw name ('<' :: s ++ rest) = ('<' :: s ++ (splitRaw name rest).1, (splitRaw name rest).2) := by
  rw [List.cons_append] at h ⊢
  rw [splitRaw, h, splitRaw_append_of_notMem hlt]
  rfl

/-- Raw text ends in front of an end tag, or it goes over all parts. -/
theorem exists_splitRaw {name : String} {parts : List Part} (h : ∀ part ∈ parts, part.IsLexical)
    {rest : List Char} (hrest : startsEndOf name rest = true) :
    ∃ content left, left <:+ parts ∧
      splitRaw name (Part.charsList parts ++ rest) = (content, Part.charsList left ++ rest) := by
  induction parts with
  | nil => exact ⟨[], [], List.suffix_refl _, splitRaw_of_startsEndOf hrest⟩
  | cons part more ih =>
    obtain ⟨hpart, hmore⟩ := List.forall_mem_cons.mp h
    obtain ⟨content, left, hleft, hsplit⟩ := ih hmore
    -- a part that is no end tag of the element is gone over as a whole
    have hover : splitRaw name (part.chars ++ (Part.charsList more ++ rest)) =
          (part.chars ++ (splitRaw name (Part.charsList more ++ rest)).1,
            (splitRaw name (Part.charsList more ++ rest)).2) →
        ∃ content left, left <:+ part :: more ∧
          splitRaw name (Part.charsList (part :: more) ++ rest) =
            (content, Part.charsList left ++ rest) := by
      intro heq
      rw [hsplit] at heq
      refine ⟨part.chars ++ content, left, hleft.trans (List.suffix_cons ..), ?_⟩
      rw [Part.charsList, List.flatMap_cons, List.append_assoc]
      exact heq
    cases part with
    | text s => exact hover (splitRaw_append_of_notMem hpart name _)
    | opening o =>
      refine hover ?_
      obtain ⟨c, s, hchars, hslash, hlt⟩ := exists_opening hpart
      rw [Part.chars, hchars]
      exact splitRaw_append_of_not hlt (startsEndOf_opening hslash name _)
    | ending tag =>
      by_cases hends : startsEndOf name (endTagChars tag ++ (Part.charsList more ++ rest)) = true
      · refine ⟨[], .ending tag :: more, List.suffix_refl _, ?_⟩
        rw [Part.charsList, List.flatMap_cons, List.append_assoc]
        exact splitRaw_of_startsEndOf hends
      · refine hover ?_
        have hlt : '<' ∉ '/' :: tag.toList ++ ['>'] := by
          obtain ⟨-, -, -, -, hall⟩ := isTagName_iff.mp hpart
          have hname : '<' ∉ tag.toList := fun hmem => absurd (hall '<' hmem) (by decide)
          simp [hname]
        exact splitRaw_append_of_not hlt (Bool.eq_false_iff.mpr hends)

/-! ### Elements open behind markup -/

namespace Builder

theorem frames_add_ending (builder : Builder) (name : String) (s : List Char) :
    (builder.add (.endTag name s)).frames <:+ builder.frames := by
  rcases nearest_or_none name builder.frames with
    hnone | ⟨inner, frame, outer, hsplit, hinner, hframe⟩
  · rw [add, close?_eq_none hnone]
  · rw [add, hsplit, close?_append hinner hframe]
    exact (List.suffix_cons frame outer).trans (List.suffix_append _ _)

/-- Whatever is read behind the parts, no more elements are open then than were in front of them. -/
def Shrinks (parts : List Part) : Prop :=
  ∀ (builder : Builder) (rest : List Char), ∃ after : Builder,
    builder.read (Part.charsList parts ++ rest) = after.read rest ∧ after.frames <:+ builder.frames

namespace Shrinks

variable {a b : List Part}

theorem nil : Shrinks [] := fun builder _ => ⟨builder, rfl, List.suffix_refl _⟩

theorem append (ha : Shrinks a) (hb : Shrinks b) : Shrinks (a ++ b) := by
  intro builder rest
  obtain ⟨middle, hmiddle, hframes⟩ := ha builder (Part.charsList b ++ rest)
  obtain ⟨after, hafter, hframes'⟩ := hb middle rest
  refine ⟨after, ?_, hframes'.trans hframes⟩
  rw [Part.charsList, List.flatMap_append, List.append_assoc]
  exact hmiddle.trans hafter

theorem text {s : List Char} (h : '<' ∉ s) : Shrinks [.text s] := by
  intro builder rest
  refine ⟨builder.addChars s, ?_, ?_⟩
  · rw [Part.charsList, List.flatMap_singleton]
    exact read_text h builder rest
  · rw [addChars, frames_addChars]

theorem ending {tag : String} (h : isTagName tag = true) : Shrinks [.ending tag] := by
  intro builder rest
  refine ⟨_, ?_, frames_add_ending builder tag (endTagChars tag)⟩
  rw [Part.charsList, List.flatMap_singleton]
  exact read_endTag h builder rest

theorem lone {o : Opening} (h : o.isReadable = true) (ho : o.isChildless = true) :
    Shrinks [.opening o] := by
  intro builder rest
  refine ⟨⟨.lone o.startTag o.chars :: builder.level, builder.frames⟩, ?_, List.suffix_refl _⟩
  rw [Part.charsList, List.flatMap_singleton]
  exact read_childless h ho builder rest

end Shrinks

theorem splitAfter_startTag {tag : StartTag} (h : isRawText tag.name = false) (s rest : List Char) :
    splitAfter (.startTag tag s) rest = ([], rest) := by
  rw [splitAfter, h]
  rfl

/-- In front of the end tag of an element, of all that was opened since its start tag only the element itself
may be open. -/
theorem read_inside {tag : StartTag} {s rest : List Char} {inside : List Part}
    (hread : ∀ rest, readStartTag? (s ++ rest) = some (tag, rest))
    (hopen : (tag.selfClosing || isVoid tag.name) = false) (hinside : ∀ part ∈ inside, part.IsLexical)
    (hshrinks : ∀ left, left <:+ inside → Shrinks left) (hrest : startsEndOf tag.name rest = true)
    (builder : Builder) :
    ∃ after : Builder, builder.read (s ++ (Part.charsList inside ++ rest)) = after.read rest ∧
      after.frames <:+ ⟨tag, s, builder.level⟩ :: builder.frames := by
  obtain ⟨content, left, hleft, hsplit⟩ : ∃ content left, left <:+ inside ∧
      splitAfter (.startTag tag s) (Part.charsList inside ++ rest) =
        (content, Part.charsList left ++ rest) := by
    rw [splitAfter]
    split
    · exact exists_splitRaw hinside hrest
    · exact ⟨[], inside, List.suffix_refl _, rfl⟩
  have hadd := add_open tag s hopen builder
  obtain ⟨after, hafter, hframes⟩ :=
    hshrinks left hleft ((builder.add (.startTag tag s)).addChars content) rest
  refine ⟨after, (read_startTag (hread _) hsplit builder).trans hafter, ?_⟩
  rwa [addChars, frames_addChars, hadd] at hframes

theorem Shrinks.paired {o : Opening} {inside : List Part} (h : o.isReadable = true)
    (ho : o.isChildless = false) (hinside : ∀ part ∈ inside, part.IsLexical)
    (hshrinks : ∀ left, left <:+ inside → Shrinks left) :
    Shrinks (.opening o :: (inside ++ [.ending o.tag])) := by
  intro builder rest
  have htag : isTagName o.tag = true := (Bool.and_eq_true_iff.mp h).1
  obtain ⟨after, hafter, hframes⟩ := read_inside (readStartTag?_chars h) ho hinside hshrinks
    (startsEndOf_endTagChars o.tag rest) builder
  refine ⟨after.add (.endTag o.tag (endTagChars o.tag)), ?_, ?_⟩
  · rw [← read_endTag htag, ← hafter]
    simp [Part.charsList, Part.chars]
  · -- the end tag takes the element away, if it is still open
    rcases List.suffix_cons_iff.mp hframes with heq | hsuffix
    · obtain ⟨level, frames⟩ := after
      dsimp only at heq
      rw [heq, add_endTag]
    · exact (frames_add_ending after o.tag _).trans hsuffix

theorem shrinks_of_suffix_cons {part : Part} {rest left : List Part} (h : Shrinks (part :: rest))
    (hrest : ∀ left, left <:+ rest → Shrinks left) (hleft : left <:+ part :: rest) : Shrinks left := by
  rcases List.suffix_cons_iff.mp hleft with rfl | hleft
  · exact h
  · exact hrest left hleft

theorem shrinks_of_suffix_append {a b left : List Part} (ha : ∀ left, left <:+ a → Shrinks left)
    (hb : ∀ left, left <:+ b → Shrinks left) (hleft : left <:+ a ++ b) : Shrinks left := by
  rcases List.suffix_or_suffix_of_suffix hleft (List.suffix_append a b) with h | ⟨front, rfl⟩
  · exact hb left h
  · exact (ha front (List.suffix_append_self_iff.mp hleft)).append (hb b (List.suffix_refl b))

end Builder

end Document

open Document.Builder (Shrinks shrinks_of_suffix_cons shrinks_of_suffix_append)

/-- Behind closed parts no more elements are open than in front of them, also when raw text has taken the
first of the parts. -/
theorem Closed.shrinks {parts : List Part} (h : Closed parts) (hlexical : ∀ part ∈ parts, part.IsLexical) :
    ∀ left, left <:+ parts → Shrinks left := by
  induction h with
  | nil =>
    intro left hleft
    rw [List.suffix_nil.mp hleft]
    exact .nil
  | text _ ih =>
    obtain ⟨hs, hrest⟩ := List.forall_mem_cons.mp hlexical
    have hwhole := (Shrinks.text hs).append (ih hrest _ (List.suffix_refl _))
    exact fun left => shrinks_of_suffix_cons hwhole (ih hrest)
  | lone ho _ ih =>
    obtain ⟨hopening, hrest⟩ := List.forall_mem_cons.mp hlexical
    have hwhole := (Shrinks.lone hopening ho).append (ih hrest _ (List.suffix_refl _))
    exact fun left => shrinks_of_suffix_cons hwhole (ih hrest)
  | ending _ ih =>
    obtain ⟨htag, hrest⟩ := List.forall_mem_cons.mp hlexical
    have hwhole := (Shrinks.ending htag).append (ih hrest _ (List.suffix_refl _))
    exact fun left => shrinks_of_suffix_cons hwhole (ih hrest)
  | @paired o inside rest ho _ _ ihinside ih =>
    obtain ⟨hopening, hlexical⟩ := List.forall_mem_cons.mp hlexical
    obtain ⟨hinside, hlexical⟩ := List.forall_mem_append.mp hlexical
    obtain ⟨htag, hrest⟩ := List.forall_mem_cons.mp hlexical
    have hafter := ih hrest _ (List.suffix_refl _)
    have hwhole := (Shrinks.paired hopening ho hinside (ihinside hinside)).append hafter
    rw [List.cons_append, List.append_assoc] at hwhole
    -- what raw text leaves of an element is some of its content, or its end tag, or what follows it
    have hending : ∀ left, left <:+ Part.ending o.tag :: rest → Shrinks left :=
      fun left => shrinks_of_suffix_cons ((Shrinks.ending htag).append hafter) (ih hrest)
    exact fun left => shrinks_of_suffix_cons hwhole fun left =>
      shrinks_of_suffix_append (ihinside hinside) hending

/-! ### Raw text that is not ended early -/

/-- Whether somewhere in a text an end tag of a raw text element may start. -/
def Document.holdsEndOf (name : String) (text : List Char) : Bool := text.tails.any (startsEndOf name)

namespace Markup

mutual

/-- In no raw text element an end tag begins like its own. -/
def isUnbroken : Markup → Bool
  | text _ => true
  | raw _ => true
  | fragment children => isUnbrokenList children
  | element opening children =>
    opening.isChildless ||
      if isRawText opening.tag then !holdsEndOf opening.tag (charsList children)
      else isUnbrokenList children

def isUnbrokenList : List Markup → Bool
  | [] => true
  | node :: rest => isUnbroken node && isUnbrokenList rest

end

/-- As the content of an element of this name, the markup ends no raw text early, neither that of the element
nor that of an element in it. -/
def isUnbrokenIn (name : String) (content : Markup) : Bool :=
  if isRawText name then !holdsEndOf name content.chars else content.isUnbroken

end Markup

namespace Document.Builder

/-- Behind the text the same elements are open as in front of it. -/
def Keeps (text : List Char) : Prop :=
  ∀ (builder : Builder) (rest : List Char), ∃ level,
    builder.read (text ++ rest) = (Builder.mk level builder.frames).read rest

namespace Keeps

variable {a b : List Char}

theorem nil : Keeps [] := fun builder _ => ⟨builder.level, rfl⟩

theorem append (ha : Keeps a) (hb : Keeps b) : Keeps (a ++ b) := by
  intro builder rest
  obtain ⟨level, hlevel⟩ := ha builder (b ++ rest)
  obtain ⟨level', hlevel'⟩ := hb ⟨level, builder.frames⟩ rest
  refine ⟨level', ?_⟩
  rw [List.append_assoc, hlevel, hlevel']

theorem text (h : '<' ∉ a) : Keeps a := by
  intro builder rest
  refine ⟨(builder.addChars a).level, ?_⟩
  have hframes : (builder.addChars a).frames = builder.frames := by rw [addChars, frames_addChars]
  rw [read_text h, ← hframes]

theorem lone {o : Opening} (h : o.isReadable = true) (ho : o.isChildless = true) : Keeps o.chars :=
  fun builder rest => ⟨_, read_childless h ho builder rest⟩

end Keeps

theorem head?_of_startsEndOf {name : String} {rest : List Char} (h : startsEndOf name rest = true) :
    rest.head? = some '<' := by
  cases rest with
  | nil => simp [startsEndOf] at h
  | cons c rest =>
    by_cases hc : c = '<'
    · rw [hc, List.head?_cons]
    · rw [startsEndOf_of_ne hc] at h
      cases h

theorem splitRaw_of_holdsEndOf {name : String} {content rest : List Char} (h : isRawText name = true)
    (hcontent : holdsEndOf name content = false) (hrest : startsEndOf name rest = true) :
    splitRaw name (content ++ rest) = (content, rest) := by
  have hfree : ∀ left, left <:+ content → startsEndOf name left = false := by
    intro left hleft
    rw [Bool.eq_false_iff]
    intro hends
    exact List.any_eq_false.mp hcontent left ((List.mem_tails left content).mpr hleft) hends
  have hname : '<' ∉ name.toLower.toList := fun hmem => by cases isLower_of_isRawText h '<' hmem
  exact splitRaw_of_free hname (head?_of_startsEndOf hrest) hrest hfree

/-- In front of its end tag an element is the innermost open one, if its content keeps what is open, or is
raw text up to there. -/
theorem read_keeping {tag : StartTag} {s content rest : List Char}
    (hread : ∀ rest, readStartTag? (s ++ rest) = some (tag, rest))
    (hopen : (tag.selfClosing || isVoid tag.name) = false) (hrest : startsEndOf tag.name rest = true)
    (hraw : isRawText tag.name = true → holdsEndOf tag.name content = false)
    (hkeeps : isRawText tag.name = false → Keeps content) (builder : Builder) :
    ∃ level, builder.read (s ++ (content ++ rest)) =
      (Builder.mk level (⟨tag, s, builder.level⟩ :: builder.frames)).read rest := by
  have hadd := add_open tag s hopen builder
  have hclosed : tag.selfClosing = false := (Bool.or_eq_false_iff.mp hopen).1
  by_cases h : isRawText tag.name = true
  · have hsplit : splitAfter (.startTag tag s) (content ++ rest) = (content, rest) := by
      rw [splitAfter, h, hclosed]
      exact splitRaw_of_holdsEndOf h (hraw h) hrest
    have hframes : ((builder.add (.startTag tag s)).addChars content).frames =
        ⟨tag, s, builder.level⟩ :: builder.frames := by rw [addChars, frames_addChars, hadd]
    refine ⟨((builder.add (.startTag tag s)).addChars content).level, ?_⟩
    rw [read_startTag (hread _) hsplit, ← hframes]
  · rw [Bool.not_eq_true] at h
    obtain ⟨level, hlevel⟩ := hkeeps h (builder.add (.startTag tag s)) rest
    refine ⟨level, ?_⟩
    rw [read_startTag (hread _) (splitAfter_startTag h s _)]
    rw [hadd] at hlevel ⊢
    exact hlevel

mutual

theorem keeps_chars : (markup : Markup) → markup.isLexical = true → markup.isUnbroken = true →
    Keeps markup.chars
  | .text s, _, _ => by
    rw [Markup.chars]
    exact .text (Text.lt_notMem_escapeText s.toList)
  | .raw _, h, _ => by simp [Markup.isLexical] at h
  | .fragment children, h, hunbroken => by
    rw [Markup.isLexical] at h
    rw [Markup.isUnbroken] at hunbroken
    rw [Markup.chars]
    exact keeps_charsList children h hunbroken
  | .element opening children, h, hunbroken => by
    rw [Markup.isLexical, Bool.and_eq_true] at h
    rw [Markup.isUnbroken, Bool.or_eq_true] at hunbroken
    rw [Markup.chars]
    by_cases hchildless : opening.isChildless = true
    · rw [if_pos hchildless]
      exact .lone h.1 hchildless
    · have htag : isTagName opening.tag = true := (Bool.and_eq_true_iff.mp h.1).1
      have hinside := hunbroken.resolve_left hchildless
      rw [if_neg hchildless]
      intro builder rest
      obtain ⟨level, hlevel⟩ := read_keeping (readStartTag?_chars h.1) (Bool.eq_false_iff.mpr hchildless)
        (startsEndOf_endTagChars opening.tag rest)
        (fun (hraw : isRawText opening.tag = true) => by rwa [if_pos hraw, Bool.not_eq_true'] at hinside)
        (fun (hraw : isRawText opening.tag = false) => by
          rw [hraw, if_neg Bool.false_ne_true] at hinside
          exact keeps_charsList children h.2 hinside) builder
      refine ⟨.paired opening.startTag opening.chars level.reverse (endTagChars opening.tag) ::
        builder.level, ?_⟩
      rw [List.append_assoc, List.append_assoc, hlevel, read_endTag htag, add_endTag]

theorem keeps_charsList : (children : List Markup) → Markup.isLexicalList children = true →
    Markup.isUnbrokenList children = true → Keeps (Markup.charsList children)
  | [], _, _ => .nil
  | node :: rest, h, hunbroken => by
    rw [Markup.isLexicalList, Bool.and_eq_true] at h
    rw [Markup.isUnbrokenList, Bool.and_eq_true] at hunbroken
    exact (keeps_chars node h.1 hunbroken.1).append (keeps_charsList rest h.2 hunbroken.2)

end

end Document.Builder

end HtmlComponents
