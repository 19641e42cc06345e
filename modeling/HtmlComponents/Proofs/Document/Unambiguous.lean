import HtmlComponents.Proofs.Document.Grammar

/-!
# Start tags are read in one way

A text begins with at most one start tag, and that is written in one way (`SpelledTag.unique`): so reading
finds exactly the tag that the grammar tells, if there is one (`readStartTag?_iff_spelled`). The signs `<` and
`>` that a tag holds stand in quotes (`SpelledTag.IsValid.signsQuoted`).
-/

namespace HtmlComponents.Document

open Text (dropWhile_append_stop head?_cons_stop run_unique)

/-! ### A text begins with one tag at most -/

section
variable {v w : SpelledValue} {a b : SpelledAttribute} {x y : List Char}

theorem SpelledValue.unique (hv : v.IsValid) (hw : w.IsValid)
    (hx : v.isBare = true → ∀ c ∈ x.head?, isUnquotedChar c = false)
    (hy : w.isBare = true → ∀ c ∈ y.head?, isUnquotedChar c = false) (h : v.chars ++ x = w.chars ++ y) :
    v = w ∧ x = y := by
  -- the first character tells whether there are quotes, and which
  obtain ⟨c, more, hc, -, hbare, hquoted⟩ := hv.head x
  obtain ⟨d, more', hd, -, hbare', hquoted'⟩ := hw.head y
  obtain ⟨rfl, -⟩ := List.cons.inj (hc.symm.trans (h.trans hd))
  have hapart : ¬(isUnquotedChar c = true ∧ (c = '"' ∨ c = '\'')) := by
    rintro ⟨hunquoted, rfl | rfl⟩ <;> cases hunquoted
  cases hv with
  | @quoted quote value hquote hvalue =>
    cases hw with
    | bare => exact absurd ⟨hbare' rfl, hquoted rfl⟩ hapart
    | @quoted quote' value' hquote' hvalue' =>
      simp only [chars, List.cons_append, List.append_assoc, List.cons.injEq] at h
      obtain ⟨rfl, h⟩ := h
      have hall : ∀ {value : List Char}, quote ∉ value → ∀ c ∈ value, (c != quote) = true :=
        fun hvalue c hc => bne_iff_ne.mpr fun heq => hvalue (heq ▸ hc)
      have hstop := fun rest => head?_cons_stop (p := (· != quote)) (bne_self_eq_false quote) rest
      obtain ⟨rfl, hrest⟩ := run_unique (hall hvalue) (hall hvalue') (hstop x) (hstop y) h
      exact ⟨rfl, (List.cons.inj hrest).2⟩
  | bare hne hvalue =>
    cases hw with
    | quoted => exact absurd ⟨hbare rfl, hquoted' rfl⟩ hapart
    | bare hne' hvalue' =>
      obtain ⟨rfl, rfl⟩ := run_unique hvalue hvalue' (hx rfl) (hy rfl) h
      exact ⟨rfl, rfl⟩

theorem Assignment.unique {v w : Assignment} (hv : v.IsValid) (hw : w.IsValid)
    (hx : v.value.isBare = true → ∀ c ∈ x.head?, isUnquotedChar c = false)
    (hy : w.value.isBare = true → ∀ c ∈ y.head?, isUnquotedChar c = false)
    (h : v.chars ++ x = w.chars ++ y) : v = w ∧ x = y := by
  obtain ⟨before, behind, value⟩ := v
  obtain ⟨before', behind', value'⟩ := w
  obtain ⟨hbefore, hbehind, hvalue⟩ := hv
  obtain ⟨hbefore', hbehind', hvalue'⟩ := hw
  simp only [chars, List.append_assoc, List.cons_append] at h
  obtain ⟨rfl, hsign⟩ := run_unique hbefore hbefore' (head?_cons_stop rfl _) (head?_cons_stop rfl _) h
  obtain ⟨rfl, hrest⟩ := run_unique hbehind hbehind' (hvalue.stop x) (hvalue'.stop y) (List.cons.inj hsign).2
  obtain ⟨rfl, rfl⟩ := SpelledValue.unique hvalue hvalue' hx hy hrest
  exact ⟨rfl, rfl⟩

theorem Follows.ne_assigned {w : Assignment} (hx : Follows x) (hw : w.IsValid) : x ≠ w.chars ++ y := by
  rintro rfl
  refine hx.behindGap '=' ?_ rfl
  rw [Assignment.chars, List.append_assoc, List.cons_append,
    dropWhile_append_stop hw.beforeSign (head?_cons_stop rfl _)]
  rfl

theorem SpelledAttribute.unique (ha : a.IsValid) (hb : b.IsValid) (hx : Follows x) (hy : Follows y)
    (hxa : a.isBare = true → ∀ c ∈ x.head?, isUnquotedChar c = false)
    (hyb : b.isBare = true → ∀ c ∈ y.head?, isUnquotedChar c = false) (h : a.chars ++ x = b.chars ++ y) :
    a = b ∧ x = y := by
  obtain ⟨gap, name, assignment⟩ := a
  obtain ⟨gap', name', assignment'⟩ := b
  have hstop := ha.stop
  have hstop' := hb.stop
  obtain ⟨-, hgap, -, hname, hassignment⟩ := ha
  obtain ⟨-, hgap', -, hname', hassignment'⟩ := hb
  simp only [chars, List.append_assoc] at h
  obtain ⟨rfl, hnames⟩ := run_unique hgap hgap' (hstop _) (hstop' _) h
  cases assignment with
  | none =>
    cases assignment' with
    | none =>
      obtain ⟨heq, rfl⟩ := run_unique hname hname' hx.head hy.head hnames
      obtain rfl := String.toList_inj.mp heq
      exact ⟨rfl, rfl⟩
    | some w =>
      have hw := hassignment' w rfl
      exact absurd (run_unique hname hname' hx.head (hw.stop y) hnames).2 (hx.ne_assigned hw)
  | some v =>
    have hv := hassignment v rfl
    cases assignment' with
    | none =>
      exact absurd (run_unique hname hname' (hv.stop x) hy.head hnames).2.symm (hy.ne_assigned hv)
    | some w =>
      have hw := hassignment' w rfl
      obtain ⟨heq, hassigned⟩ := run_unique hname hname' (hv.stop x) (hw.stop y) hnames
      obtain rfl := String.toList_inj.mp heq
      obtain ⟨rfl, rfl⟩ := Assignment.unique hv hw hxa hyb hassigned
      exact ⟨rfl, rfl⟩

end

namespace SpelledTag

variable {s t : SpelledTag} {as bs : List SpelledAttribute} {x y : List Char}

theorem endChars_unique (hs : ∀ c ∈ s.gap, Text.isGap c = true) (ht : ∀ c ∈ t.gap, Text.isGap c = true)
    (h : s.endChars ++ x = t.endChars ++ y) : s.gap = t.gap ∧ s.slash = t.slash ∧ x = y := by
  simp only [endChars, List.append_assoc] at h
  have hstop : ∀ (slash : Bool) rest, ∀ c ∈ ((if slash then ['/', '>'] else ['>']) ++ rest).head?,
      Text.isGap c = false := by
    intro slash rest
    cases slash <;> exact head?_cons_stop rfl _
  obtain ⟨hgap, hrest⟩ := run_unique hs ht (hstop s.slash x) (hstop t.slash y) h
  refine ⟨hgap, ?_⟩
  cases hslash : s.slash <;> cases hslash' : t.slash <;> simp_all

theorem endChars_ne_attribute {b : SpelledAttribute} (hs : ∀ c ∈ s.gap, Text.isGap c = true)
    (hb : b.IsValid) : s.endChars ++ x ≠ b.chars ++ y := by
  intro h
  obtain ⟨c, more, hchars, hc⟩ := hb.behindGap y
  have hgap := isGap_eq_false_of_name hc
  have hmem : c ∈ ((s.endChars ++ x).dropWhile Text.isGap).head? := by
    rw [h, hchars, dropWhile_append_stop hb.gap (head?_cons_stop hgap more)]
    rfl
  rcases s.dropWhile_endChars hs x c hmem with rfl | rfl <;> cases hc

theorem attributes_unique (hs : ∀ c ∈ s.gap, Text.isGap c = true) (ht : ∀ c ∈ t.gap, Text.isGap c = true)
    (has : ∀ a ∈ as, a.IsValid) (hbs : ∀ b ∈ bs, b.IsValid) (hlongest : IsLongest as s.endChars)
    (hlongest' : IsLongest bs t.endChars)
    (h : as.flatMap SpelledAttribute.chars ++ (s.endChars ++ x) =
      bs.flatMap SpelledAttribute.chars ++ (t.endChars ++ y)) :
    as = bs ∧ s.endChars ++ x = t.endChars ++ y := by
  induction as generalizing bs with
  | nil =>
    cases bs with
    | nil => exact ⟨rfl, h⟩
    | cons b bs =>
      rw [List.flatMap_cons, List.append_assoc] at h
      exact absurd h (endChars_ne_attribute hs (hbs b List.mem_cons_self))
  | cons a as ih =>
    obtain ⟨ha, hasMore⟩ := List.forall_mem_cons.mp has
    rw [List.flatMap_cons, List.append_assoc] at h
    cases bs with
    | nil => exact absurd h.symm (endChars_ne_attribute ht ha)
    | cons b bs =>
      obtain ⟨hb, hbsMore⟩ := List.forall_mem_cons.mp hbs
      obtain ⟨hfirst, hothers⟩ := isLongest_cons.mp hlongest
      obtain ⟨hfirst', hothers'⟩ := isLongest_cons.mp hlongest'
      rw [List.flatMap_cons, List.append_assoc] at h
      obtain ⟨heq, hrest⟩ := SpelledAttribute.unique ha hb
        (follows_attributes hasMore (s.follows_endChars hs x))
        (follows_attributes hbsMore (t.follows_endChars ht y))
        (fun hbare => s.head?_ending as x ▸ hfirst hbare)
        (fun hbare => t.head?_ending bs y ▸ hfirst' hbare) h
      obtain ⟨hmore, hend⟩ := ih hasMore hbsMore hothers hothers' hrest
      exact ⟨by rw [heq, hmore], hend⟩

/-- A text begins with at most one valid tag, written in one way. -/
theorem unique (hs : s.IsValid) (ht : t.IsValid) (h : s.chars ++ x = t.chars ++ y) : s = t ∧ x = y := by
  obtain ⟨name, attributes, gap, slash⟩ := s
  obtain ⟨name', attributes', gap', slash'⟩ := t
  simp only [chars, List.cons_append, List.append_assoc, List.cons.injEq, true_and] at h
  obtain ⟨hname, hattributes⟩ := run_unique hs.name_chars ht.name_chars (hs.stop x) (ht.stop y) h
  obtain ⟨rfl, hend⟩ := attributes_unique hs.gap ht.gap hs.attributes ht.attributes hs.longest ht.longest
    hattributes
  obtain ⟨rfl, rfl, rfl⟩ := endChars_unique hs.gap ht.gap hend
  obtain rfl := String.toList_inj.mp hname
  exact ⟨rfl, rfl⟩

end SpelledTag

/-! ### Signs in quotes -/

/-- The quote that is open after one more character of a tag. -/
def stepQuote (quote? : Option Char) (c : Char) : Option Char :=
  match quote? with
  | none => if c = '"' ∨ c = '\'' then some c else none
  | some quote => if c = quote then none else some quote

/-- The quote that is open behind the first part of a tag, if there is one. -/
def openQuote? (text : List Char) : Option Char := text.foldl stepQuote none

/-- No quote, and neither of the signs between which a tag stands. -/
def IsPlain (c : Char) : Prop := c ≠ '"' ∧ c ≠ '\'' ∧ c ≠ '<' ∧ c ≠ '>'

instance : DecidablePred IsPlain := fun c =>
  inferInstanceAs (Decidable (c ≠ '"' ∧ c ≠ '\'' ∧ c ≠ '<' ∧ c ≠ '>'))

/-- Whole quoted parts, and plain characters around them. -/
inductive SignsQuoted : List Char → Prop
  | nil : SignsQuoted []
  | plain {c : Char} {s : List Char} (hc : IsPlain c) (h : SignsQuoted s) : SignsQuoted (c :: s)
  | quoted {quote : Char} {value s : List Char} (hquote : quote = '"' ∨ quote = '\'') (hvalue : quote ∉ value)
      (h : SignsQuoted s) : SignsQuoted (quote :: (value ++ quote :: s))

section
variable {s t front back : List Char} {c quote : Char}

theorem foldl_stepQuote_inside (h : quote ∉ s) : s.foldl stepQuote (some quote) = some quote := by
  induction s with
  | nil => rfl
  | cons c s ih =>
    obtain ⟨hc, hs⟩ := not_or.mp (mt List.mem_cons.mpr h)
    rw [List.foldl_cons, stepQuote, if_neg (Ne.symm hc), ih hs]

theorem stepQuote_quote (hquote : quote = '"' ∨ quote = '\'') : stepQuote none quote = some quote :=
  if_pos hquote

theorem stepQuote_plain (hc : IsPlain c) : stepQuote none c = none :=
  if_neg (not_or.mpr ⟨hc.1, hc.2.1⟩)

namespace SignsQuoted

theorem of_plain (h : ∀ c ∈ s, IsPlain c) : SignsQuoted s := by
  induction s with
  | nil => exact .nil
  | cons c s ih =>
    obtain ⟨hc, hs⟩ := List.forall_mem_cons.mp h
    exact .plain hc (ih hs)

theorem append (hs : SignsQuoted s) (ht : SignsQuoted t) : SignsQuoted (s ++ t) := by
  induction hs with
  | nil => exact ht
  | plain hc _ ih => exact .plain hc ih
  | quoted hquote hvalue _ ih =>
    rw [List.cons_append, List.append_assoc, List.cons_append]
    exact .quoted hquote hvalue ih

theorem foldl_stepQuote_quoted (hquote : quote = '"' ∨ quote = '\'') (hvalue : quote ∉ s) (t : List Char) :
    (quote :: (s ++ quote :: t)).foldl stepQuote none = t.foldl stepQuote none := by
  rw [List.foldl_cons, stepQuote_quote hquote, List.foldl_append, foldl_stepQuote_inside hvalue,
    List.foldl_cons, stepQuote, if_pos rfl]

theorem openQuote?_append (hs : SignsQuoted s) (t : List Char) : openQuote? (s ++ t) = openQuote? t := by
  induction hs with
  | nil => rfl
  | plain hc _ ih =>
    rw [List.cons_append, openQuote?, List.foldl_cons, stepQuote_plain hc]
    exact ih
  | quoted hquote hvalue _ ih =>
    rw [List.cons_append, List.append_assoc, List.cons_append, openQuote?,
      foldl_stepQuote_quoted hquote hvalue]
    exact ih

theorem openQuote?_eq (hs : SignsQuoted s) : openQuote? s = none := by
  rw [← List.append_nil s, hs.openQuote?_append]
  rfl

theorem ne_none (hs : SignsQuoted s) (hc : c = '<' ∨ c = '>') (h : s = front ++ c :: back) :
    openQuote? front ≠ none := by
  induction hs generalizing front with
  | nil => simp at h
  | @plain d s hd hs ih =>
    cases front with
    | nil =>
      obtain ⟨rfl, -⟩ := List.cons.inj h
      rcases hc with rfl | rfl
      · exact absurd rfl hd.2.2.1
      · exact absurd rfl hd.2.2.2
    | cons e front =>
      obtain ⟨rfl, hrest⟩ := List.cons.inj h
      rw [openQuote?, List.foldl_cons, stepQuote_plain hd]
      exact ih hrest
  | @quoted quote value s hquote hvalue hs ih =>
    cases front with
    | nil =>
      obtain ⟨rfl, -⟩ := List.cons.inj h
      rcases hc with rfl | rfl <;> simp at hquote
    | cons e front =>
      obtain ⟨rfl, hrest⟩ := List.cons.inj h
      rcases List.append_eq_append_iff.mp hrest with ⟨behind, hfront, hbehind⟩ | ⟨inside, hinside, -⟩
      · -- the sign stands behind the quoted part
        cases behind with
        | nil =>
          obtain ⟨rfl, -⟩ := List.cons.inj hbehind
          rcases hc with rfl | rfl <;> simp at hquote
        | cons d behind =>
          obtain ⟨rfl, hrest⟩ := List.cons.inj hbehind
          rw [hfront, openQuote?, foldl_stepQuote_quoted hquote hvalue]
          exact ih hrest
      · -- the sign stands in the quoted part
        have hfront : quote ∉ front := fun hmem => hvalue (hinside ▸ List.mem_append_left _ hmem)
        rw [openQuote?, List.foldl_cons, stepQuote_quote hquote, foldl_stepQuote_inside hfront]
        exact Option.some_ne_none quote

end SignsQuoted

theorem isPlain_of_isGap (h : Text.isGap c = true) : IsPlain c := by
  refine ⟨?_, ?_, ?_, ?_⟩ <;> rintro rfl <;> cases h

theorem isPlain_of_isAttributeNameChar (h : isAttributeNameChar c = true) : IsPlain c := by
  refine ⟨?_, ?_, ?_, ?_⟩ <;> rintro rfl <;> simp [isAttributeNameChar] at h

theorem isPlain_of_isUnquotedChar (h : isUnquotedChar c = true) : IsPlain c := by
  refine ⟨?_, ?_, ?_, ?_⟩ <;> rintro rfl <;> simp [isUnquotedChar] at h

theorem isPlain_of_isTagNameChar (h : isTagNameChar c = true) : IsPlain c := by
  refine ⟨?_, ?_, ?_, ?_⟩ <;> rintro rfl <;> cases h

end

section
variable {a : SpelledAttribute} {t : SpelledTag}

/-- An attribute is plain, or all of it but a quoted value is, and any other value may stand there. -/
theorem SpelledAttribute.IsValid.plain_or_quoted (h : a.IsValid) :
    (∀ c ∈ a.chars, IsPlain c) ∨
      ∃ before quote value, (∀ c ∈ before, IsPlain c) ∧ (quote = '"' ∨ quote = '\'') ∧ quote ∉ value ∧
        a.chars = before ++ quote :: (value ++ [quote]) ∧
        ∀ other, quote ∉ other → ∃ b : SpelledAttribute, b.IsValid ∧ b.isBare = false ∧
          b.chars = before ++ quote :: (other ++ [quote]) := by
  obtain ⟨gap, name, assignment⟩ := a
  obtain ⟨hne, hgap, hname_ne, hname, hassignment⟩ := h
  have hstart : ∀ c ∈ gap ++ name.toList, IsPlain c := by
    intro c hc
    rcases List.mem_append.mp hc with hc | hc
    · exact isPlain_of_isGap (hgap c hc)
    · exact isPlain_of_isAttributeNameChar (hname c hc)
  cases assignment with
  | none => exact .inl (by simpa [chars] using hstart)
  | some w =>
    obtain ⟨beforeSign, behindSign, value⟩ := w
    obtain ⟨hbefore, hbehind, hvalue⟩ := hassignment _ rfl
    have hsign : ∀ c ∈ gap ++ name.toList ++ (beforeSign ++ '=' :: behindSign), IsPlain c := by
      intro c hc
      rcases List.mem_append.mp hc with hc | hc
      · exact hstart c hc
      · rcases List.mem_append.mp hc with hc | hc
        · exact isPlain_of_isGap (hbefore c hc)
        · rcases List.mem_cons.mp hc with rfl | hc
          · decide
          · exact isPlain_of_isGap (hbehind c hc)
    cases hvalue with
    | @bare value _ hbare =>
      refine .inl fun c hc => ?_
      have hmem : c ∈ (gap ++ name.toList ++ (beforeSign ++ '=' :: behindSign)) ++ value := by
        simpa [chars, Assignment.chars, SpelledValue.chars] using hc
      rcases List.mem_append.mp hmem with hc | hc
      · exact hsign c hc
      · exact isPlain_of_isUnquotedChar (hbare c hc)
    | @quoted quote value hquote hvalue =>
      refine .inr ⟨_, quote, value, hsign, hquote, hvalue, by simp [chars, Assignment.chars, SpelledValue.chars],
        fun other hother => ⟨⟨gap, name, some ⟨beforeSign, behindSign, .quoted quote other⟩⟩,
          ⟨hne, hgap, hname_ne, hname, ?_⟩, rfl, by simp [chars, Assignment.chars, SpelledValue.chars]⟩⟩
      intro w hw
      exact Option.some.inj hw ▸ ⟨hbefore, hbehind, .quoted hquote hother⟩

theorem SpelledAttribute.IsValid.signsQuoted (h : a.IsValid) : SignsQuoted a.chars := by
  rcases h.plain_or_quoted with hplain | ⟨before, quote, value, hbefore, hquote, hvalue, hchars, -⟩
  · exact .of_plain hplain
  · rw [hchars]
    exact (SignsQuoted.of_plain hbefore).append (.quoted hquote hvalue .nil)

theorem signsQuoted_attributes {attributes : List SpelledAttribute} (h : ∀ a ∈ attributes, a.IsValid) :
    SignsQuoted (attributes.flatMap SpelledAttribute.chars) := by
  induction attributes with
  | nil => exact .nil
  | cons a more ih =>
    obtain ⟨ha, hmore⟩ := List.forall_mem_cons.mp h
    exact ha.signsQuoted.append (ih hmore)

theorem SpelledTag.IsValid.endChars_eq (h : t.IsValid) :
    ∃ ending, t.endChars = ending ++ ['>'] ∧ ∀ c ∈ ending, IsPlain c := by
  have hgap : ∀ c ∈ t.gap, IsPlain c := fun c hc => isPlain_of_isGap (h.gap c hc)
  cases hslash : t.slash with
  | true =>
    refine ⟨t.gap ++ ['/'], by simp [endChars, hslash], List.forall_mem_append.mpr ⟨hgap, ?_⟩⟩
    exact List.forall_mem_singleton.mpr (by decide)
  | false => exact ⟨t.gap, by simp [endChars, hslash], hgap⟩

/-- Between the first and the last sign of a tag all signs stand in quotes. -/
theorem SpelledTag.IsValid.signsQuoted (h : t.IsValid) :
    ∃ middle, t.chars = '<' :: (middle ++ ['>']) ∧ SignsQuoted middle := by
  obtain ⟨ending, hending, hplain⟩ := h.endChars_eq
  have hname : SignsQuoted t.name.toList :=
    .of_plain fun c hc => isPlain_of_isTagNameChar (h.name_chars c hc)
  refine ⟨t.name.toList ++ (t.attributes.flatMap SpelledAttribute.chars ++ ending), ?_, ?_⟩
  · simp [chars, hending]
  · exact hname.append ((signsQuoted_attributes h.attributes).append (.of_plain hplain))

/-- A `>` is the end of a tag just if no quote is open in front of it. -/
theorem SpelledTag.IsValid.ends_iff (h : t.IsValid) {front back : List Char}
    (hchars : t.chars = front ++ '>' :: back) : back = [] ↔ openQuote? front = none := by
  obtain ⟨middle, hmiddle, hquoted⟩ := h.signsQuoted
  rw [hmiddle] at hchars
  cases front with
  | nil => cases (List.cons.inj hchars).1
  | cons c front =>
    obtain ⟨rfl, hrest⟩ := List.cons.inj hchars
    have hstep : openQuote? ('<' :: front) = openQuote? front := rfl
    rw [hstep]
    constructor
    · rintro rfl
      obtain ⟨rfl, -⟩ := List.append_inj' hrest rfl
      exact hquoted.openQuote?_eq
    · intro hnone
      rcases List.eq_nil_or_concat back with hnil | ⟨init, d, rfl⟩
      · exact hnil
      · -- any other `>` would stand in the middle of the tag
        have hinit : middle = front ++ '>' :: init := by
          have hlast : middle ++ ['>'] = (front ++ '>' :: init) ++ [d] := by simpa using hrest
          exact (List.append_inj' hlast rfl).1
        exact absurd hnone (hquoted.ne_none (.inr rfl) hinit)

end

/-- Reading finds a start tag exactly if the text begins with one that is written by the grammar, and gives
the name, the attributes and the slash of that one and what is behind it. No text begins with two such tags,
or with one that is written in two ways, and of the `>` in a tag only the last stands outside of quotes. -/
theorem readStartTag?_iff_spelled (text : List Char) :
    (∀ tag left, readStartTag? text = some (tag, left) ↔
      ∃ t : SpelledTag, t.IsValid ∧ text = t.chars ++ left ∧ t.tag = tag) ∧
    (∀ s t : SpelledTag, ∀ x y, s.IsValid → t.IsValid → text = s.chars ++ x → text = t.chars ++ y →
      s = t ∧ x = y) ∧
    (∀ t : SpelledTag, t.IsValid → ∀ front back, t.chars = front ++ '>' :: back →
      (back = [] ↔ openQuote? front = none)) := by
  refine ⟨fun tag left => ⟨exists_spelled_of_readStartTag?, ?_⟩, fun s t x y hs ht htext htext' => ?_,
    fun t ht front back hchars => ht.ends_iff hchars⟩
  · rintro ⟨t, ht, rfl, rfl⟩
    exact readStartTag?_spelled ht left
  · exact SpelledTag.unique hs ht (htext.symm.trans htext')

/-- A value without quotes takes in a slash, and one in quotes takes in `>`. -/
example : readStartTag? "<a b = '>' c=d/ e/>f".toList =
    some (⟨"a", [("b", some ">"), ("c", some "d/"), ("e", none)], true⟩, ['f']) := by cbv

end HtmlComponents.Document
