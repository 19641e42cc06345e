import HtmlComponents.Proofs.Document.Exchange
import HtmlComponents.Proofs.Document.Unambiguous

/-!
# A slash before the end of a tag

A start tag with a slash before its end leaves the rest of a document as it is (`tokens_slashed`). What stands
before the tag is read as before (`Reads.exchange`): a reading that runs over the tag has a quote open in front
of its end, and so it takes in the slash as part of a value (`SpelledTag.IsValid.exists_without`).
-/

namespace HtmlComponents

/-- The self-closing form of a start tag. -/
def StartTag.closed (tag : StartTag) : StartTag := { tag with selfClosing := true }

namespace Document

/-! ### Parts of values -/

section
variable {p m w x s ending : List Char} {quote c : Char}

/-- A quote that may be open. -/
def IsQuoteState (state : Option Char) : Prop := ∀ quote ∈ state, quote = '"' ∨ quote = '\''

theorem IsQuoteState.step {state : Option Char} (h : IsQuoteState state) (c : Char) :
    IsQuoteState (stepQuote state c) := by
  intro quote hquote
  cases state with
  | none =>
    simp only [stepQuote] at hquote
    grind
  | some open_ =>
    simp only [stepQuote] at hquote
    have := h open_ rfl
    grind

theorem stepQuote_ne {a b : Option Char} (ha : IsQuoteState a) (hb : IsQuoteState b) (h : a ≠ b) (c : Char) :
    stepQuote a c ≠ stepQuote b c := by
  cases a with
  | none =>
    cases b with
    | none => exact absurd rfl h
    | some other =>
      have := hb other rfl
      simp only [stepQuote]
      grind
  | some quote =>
    have := ha quote rfl
    cases b with
    | none =>
      simp only [stepQuote]
      grind
    | some other =>
      have := hb other rfl
      simp only [stepQuote]
      grind

theorem foldl_stepQuote_ne {a b : Option Char} (ha : IsQuoteState a) (hb : IsQuoteState b) (h : a ≠ b)
    (s : List Char) : s.foldl stepQuote a ≠ s.foldl stepQuote b := by
  induction s generalizing a b with
  | nil => exact h
  | cons c s ih => exact ih (ha.step c) (hb.step c) (stepQuote_ne ha hb h c)

theorem isQuoteState_openQuote? (s : List Char) : IsQuoteState (openQuote? s) := by
  have hfold : ∀ state, IsQuoteState state → IsQuoteState (s.foldl stepQuote state) := by
    induction s with
    | nil => exact fun _ h => h
    | cons c s ih => exact fun state h => ih _ (h.step c)
  exact hfold none nofun

/-- A quote that is open before a text that closes all its quotes is followed by an open quote. -/
theorem openQuote?_append_ne_none (hx : openQuote? x ≠ none) (hs : openQuote? s = none) :
    openQuote? (x ++ s) ≠ none := by
  have hne := foldl_stepQuote_ne (isQuoteState_openQuote? x) (b := none) nofun hx s
  rw [openQuote?, List.foldl_append]
  exact fun hnone => hne (hnone.trans hs.symm)

theorem openQuote?_eq_none (h : ∀ c ∈ s, c ≠ '"' ∧ c ≠ '\'') : openQuote? s = none := by
  induction s with
  | nil => rfl
  | cons c s ih =>
    obtain ⟨hc, hs⟩ := List.forall_mem_cons.mp h
    rw [openQuote?, List.foldl_cons, stepQuote, if_neg (not_or.mpr hc)]
    exact ih hs

theorem IsPlain.ne_quote (h : IsPlain c) : c ≠ '"' ∧ c ≠ '\'' := ⟨h.1, h.2.1⟩

theorem exists_of_quoted {before value : List Char} {quote' : Char} (hbefore : ∀ c ∈ before, IsPlain c)
    (hquote : quote' = '"' ∨ quote' = '\'') (hvalue : quote' ∉ value)
    (hchars : before ++ quote' :: (value ++ [quote']) = p ++ w) (hopen : openQuote? p = some quote) :
    quote' = quote ∧ ∃ inside behind, value = inside ++ behind ∧ p = before ++ quote :: inside ∧
      w = behind ++ [quote] := by
  have hplain : ∀ front, (∀ c ∈ front, IsPlain c) → p ≠ front := by
    rintro front hfront rfl
    have hnone := openQuote?_eq_none fun c hc => (hfront c hc).ne_quote
    cases hopen.symm.trans hnone
  have hquoted : SignsQuoted (before ++ quote' :: (value ++ [quote'])) :=
    (SignsQuoted.of_plain hbefore).append (.quoted hquote hvalue .nil)
  have hinside : ∀ inside, quote' ∉ inside → openQuote? (before ++ quote' :: inside) = some quote' := by
    intro inside hinside
    rw [(SignsQuoted.of_plain hbefore).openQuote?_append, openQuote?, List.foldl_cons,
      stepQuote_quote hquote, foldl_stepQuote_inside hinside]
  rcases List.append_eq_append_iff.mp hchars with ⟨r, rfl, hr⟩ | ⟨r, rfl, -⟩
  · cases r with
    | nil => exact absurd (List.append_nil before) (hplain before hbefore)
    | cons c r =>
      obtain ⟨rfl, hvalues⟩ := List.cons.inj hr
      rcases List.append_eq_append_iff.mp hvalues with ⟨ending, rfl, hending⟩ | ⟨behind, rfl, rfl⟩
      · cases ending with
        | nil =>
          rw [List.append_nil] at hopen
          obtain rfl := Option.some.inj ((hinside value hvalue).symm.trans hopen)
          exact ⟨rfl, value, [], by simp, by simp, hending.symm⟩
        | cons d ending =>
          -- behind the quoted part no quote is open
          obtain ⟨rfl, hnil⟩ := List.cons.inj hending
          obtain ⟨rfl, -⟩ := List.append_eq_nil_iff.mp hnil.symm
          cases hopen.symm.trans hquoted.openQuote?_eq
      · have hr : quote' ∉ r := fun hmem => hvalue (List.mem_append_left _ hmem)
        obtain rfl := Option.some.inj ((hinside r hr).symm.trans hopen)
        exact ⟨rfl, r, behind, rfl, rfl, rfl⟩
  · exact absurd rfl (hplain p fun c hc => hbefore c (List.mem_append_left _ hc))

theorem exists_of_notMem {behind rest : List Char} (hm : quote ∉ m) (h : m ++ w = behind ++ quote :: rest) :
    ∃ more, behind = m ++ more ∧ w = more ++ quote :: rest := by
  rcases List.append_eq_append_iff.mp h with ⟨more, rfl, rfl⟩ | ⟨r, rfl, hr⟩
  · exact ⟨more, rfl, rfl⟩
  · cases r with
    | nil => exact ⟨[], by simp, hr.symm⟩
    | cons c r =>
      obtain ⟨rfl, -⟩ := List.cons.inj hr
      exact absurd (List.mem_append_right _ List.mem_cons_self) hm

theorem exists_without_attributes {attributes : List SpelledAttribute} (h : ∀ a ∈ attributes, a.IsValid)
    (hlongest : IsLongest attributes ending) (hending : ∀ c ∈ ending, c ≠ '"' ∧ c ≠ '\'')
    (hchars : attributes.flatMap SpelledAttribute.chars ++ ending = p ++ (m ++ w))
    (hopen : openQuote? p = some quote) (hm : quote ∉ m) :
    ∃ attributes' : List SpelledAttribute, (∀ a ∈ attributes', a.IsValid) ∧ IsLongest attributes' ending ∧
      attributes'.flatMap SpelledAttribute.chars ++ ending = p ++ w := by
  induction attributes generalizing p with
  | nil =>
    rw [List.flatMap_nil, List.nil_append] at hchars
    rw [hchars] at hending
    have hnone := openQuote?_eq_none fun c hc => hending c (List.mem_append_left _ hc)
    cases hopen.symm.trans hnone
  | cons a more ih =>
    obtain ⟨ha, hmore⟩ := List.forall_mem_cons.mp h
    obtain ⟨hfirst, hothers⟩ := isLongest_cons.mp hlongest
    rw [List.flatMap_cons, List.append_assoc] at hchars
    rcases List.append_eq_append_iff.mp hchars with ⟨p', rfl, hrest⟩ | ⟨front, hfront, hrest⟩
    · -- the part stands behind the first attribute
      rw [ha.signsQuoted.openQuote?_append] at hopen
      obtain ⟨attributes', hvalid, hlongest', hchars'⟩ := ih hmore hothers hrest hopen
      have hall : ∀ b ∈ a :: attributes', b.IsValid := List.forall_mem_cons.mpr ⟨ha, hvalid⟩
      refine ⟨a :: attributes', hall, isLongest_cons.mpr ⟨fun hbare => ?_, hlongest'⟩,
        by rw [List.flatMap_cons, List.append_assoc, hchars', List.append_assoc]⟩
      have hne : p' ≠ [] := by
        rintro rfl
        cases hopen
      rw [hchars', head?_append_eq hne, ← head?_append_eq hne (m ++ w), ← hrest]
      exact hfirst hbare
    · rcases ha.plain_or_quoted with hplain | ⟨before, quote', value, hbefore, hquote, hvalue, hquoted, hother⟩
      · have hnone := openQuote?_eq_none fun c hc =>
          (hplain c (hfront ▸ List.mem_append_left _ hc)).ne_quote
        cases hopen.symm.trans hnone
      · -- the part stands in the value of the first attribute
        obtain ⟨rfl, inside, behind, rfl, rfl, rfl⟩ :=
          exists_of_quoted hbefore hquote hvalue (hquoted.symm.trans hfront) hopen
        rw [List.append_assoc, List.singleton_append] at hrest
        obtain ⟨others, rfl, rfl⟩ := exists_of_notMem hm hrest
        obtain ⟨b, hb, hbare, hchars'⟩ := hother (inside ++ others) fun hmem => hvalue (by
          rcases List.mem_append.mp hmem with h | h
          · exact List.mem_append_left _ h
          · exact List.mem_append_right _ (List.mem_append_right _ h))
        refine ⟨b :: more, List.forall_mem_cons.mpr ⟨hb, hmore⟩, isLongest_cons.mpr ⟨?_, hothers⟩, ?_⟩
        · rw [hbare]
          nofun
        · rw [List.flatMap_cons, hchars']
          simp

/-- A part of a quoted value may be left out of a tag. -/
theorem SpelledTag.IsValid.exists_without {t : SpelledTag} (h : t.IsValid) (hchars : t.chars = p ++ (m ++ w))
    (hopen : openQuote? p = some quote) (hm : quote ∉ m) :
    ∃ t' : SpelledTag, t'.IsValid ∧ t'.chars = p ++ w := by
  obtain ⟨ending, hending, hplain⟩ := h.endChars_eq
  have hends : ∀ c ∈ t.endChars, c ≠ '"' ∧ c ≠ '\'' := by
    rw [hending]
    exact List.forall_mem_append.mpr ⟨fun c hc => (hplain c hc).ne_quote,
      List.forall_mem_singleton.mpr (by decide)⟩
  cases p with
  | nil => cases hopen
  | cons c p =>
    obtain ⟨rfl, hrest⟩ := List.cons.inj hchars
    rcases List.append_eq_append_iff.mp hrest with ⟨p', rfl, hattributes⟩ | ⟨front, hfront, -⟩
    · have hname : SignsQuoted t.name.toList :=
        .of_plain fun c hc => isPlain_of_isTagNameChar (h.name_chars c hc)
      have hopen' : openQuote? p' = some quote := (hname.openQuote?_append p').symm.trans hopen
      obtain ⟨attributes, hvalid, hlongest, hchars'⟩ :=
        exists_without_attributes h.attributes h.longest hends hattributes hopen' hm
      refine ⟨⟨t.name, attributes, t.gap, t.slash⟩, ⟨h.name, hvalid, h.gap, hlongest⟩, ?_⟩
      show '<' :: (t.name.toList ++ (attributes.flatMap SpelledAttribute.chars ++ t.endChars)) = _
      rw [hchars', List.cons_append, List.append_assoc]
    · have hnone : openQuote? p = none := openQuote?_eq_none fun c hc =>
        (isPlain_of_isTagNameChar (h.name_chars c (hfront ▸ List.mem_append_left _ hc))).ne_quote
      cases hopen.symm.trans hnone

theorem SpelledTag.IsValid.openQuote?_chars {t : SpelledTag} (h : t.IsValid) : openQuote? t.chars = none := by
  obtain ⟨middle, hmiddle, hquoted⟩ := h.signsQuoted
  have hstart : openQuote? t.chars = openQuote? (middle ++ ['>']) := by rw [hmiddle]; rfl
  rw [hstart, hquoted.openQuote?_append]
  rfl

theorem SpelledTag.IsValid.openQuote?_ne_none {t : SpelledTag} (h : t.IsValid) {front back : List Char}
    (hchars : t.chars = front ++ '<' :: back) (hne : front ≠ []) : openQuote? front ≠ none := by
  obtain ⟨middle, hmiddle, hquoted⟩ := h.signsQuoted
  rw [hmiddle] at hchars
  obtain ⟨c, front, rfl⟩ := List.exists_cons_of_ne_nil hne
  obtain ⟨rfl, hrest⟩ := List.cons.inj hchars
  have hlast : back ≠ [] := by
    rintro rfl
    cases (List.append_inj' hrest rfl).2
  obtain ⟨init, d, rfl⟩ := (List.eq_nil_or_concat back).resolve_left hlast
  have hinit : middle = front ++ '<' :: init := by
    have hsnoc : middle ++ ['>'] = (front ++ '<' :: init) ++ [d] := by simpa using hrest
    exact (List.append_inj' hsnoc rfl).1
  have hopen : openQuote? front ≠ none := hquoted.ne_none (.inl rfl) hinit
  exact hopen

/-- A tag that runs over another one has a quote open in front of the end of that one. -/
theorem SpelledTag.IsValid.exists_openQuote? {t u : SpelledTag} (h : t.IsValid) (hu : u.IsValid)
    {b r : List Char} (hchars : t.chars = b ++ ['>']) (hx : x ≠ []) (hover : u.chars = x ++ b ++ r) :
    ∃ quote, openQuote? (x ++ b) = some quote ∧ quote ∉ [' ', '/'] := by
  obtain ⟨middle, hmiddle, hquoted⟩ := h.signsQuoted
  obtain ⟨rfl, -⟩ := List.append_inj' (hchars.symm.trans hmiddle : b ++ ['>'] = ('<' :: middle) ++ ['>']) rfl
  have hopen : openQuote? x ≠ none := hu.openQuote?_ne_none (by simpa using hover) hx
  obtain ⟨quote, hquote⟩ := Option.ne_none_iff_exists'.mp
    (openQuote?_append_ne_none (s := '<' :: middle) hopen hquoted.openQuote?_eq)
  refine ⟨quote, hquote, ?_⟩
  rcases isQuoteState_openQuote? _ quote hquote with rfl | rfl <;> decide

/-- What is no start tag in front of a tag is none if that tag has a slash before its end. -/
theorem SpelledTag.IsValid.none_of_slashed {t : SpelledTag} (h : t.IsValid) {b : List Char}
    (hchars : t.chars = b ++ ['>']) (hx : x ≠ []) (back : List Char)
    (hnone : readStartTag? (x ++ (b ++ '>' :: back)) = none) :
    readStartTag? (x ++ (b ++ ' ' :: '/' :: '>' :: back)) = none := by
  cases hread : readStartTag? (x ++ (b ++ ' ' :: '/' :: '>' :: back)) with
  | none => rfl
  | some found =>
    obtain ⟨u, hu, hparts, -⟩ := exists_spelled_of_readStartTag? hread
    -- so there is a start tag in front of the tag as it was
    have hcontra : ∀ u : SpelledTag, u.IsValid → ∀ left, x ++ (b ++ '>' :: back) ≠ u.chars ++ left := by
      intro u hu left heq
      rw [heq, readStartTag?_spelled hu] at hnone
      cases hnone
    rw [← List.append_assoc] at hparts
    rcases List.append_eq_append_iff.mp hparts with ⟨r, hr, hleft⟩ | ⟨r, hr, -⟩
    · obtain ⟨quote, hquote, hslash⟩ := h.exists_openQuote? hu hchars hx hr
      rcases List.append_eq_append_iff.mp (show [' ', '/'] ++ '>' :: back = r ++ found.2 from hleft) with
        ⟨w, rfl, hw⟩ | ⟨w, hw, -⟩
      · obtain ⟨u', hu', hchars'⟩ := hu.exists_without hr hquote hslash
        refine absurd ?_ (hcontra u' hu' found.2)
        rw [hchars', hw]
        simp
      · -- a tag that ends so early would end in a value
        have hr' : quote ∉ r := fun hmem => hslash (hw ▸ List.mem_append_left _ hmem)
        have hend := hu.openQuote?_chars
        rw [hr, openQuote?, List.foldl_append, ← openQuote?, hquote, foldl_stepQuote_inside hr'] at hend
        cases hend
    · refine absurd ?_ (hcontra u hu (r ++ '>' :: back))
      rw [← List.append_assoc, hr, List.append_assoc]

end

/-! ### Tokens around a tag with a slash -/

/-- The same tag with a slash before its end, and a space before that. -/
def SpelledTag.slashed (t : SpelledTag) : SpelledTag := { t with gap := t.gap ++ [' '], slash := true }

section
variable {t : SpelledTag} {b back : List Char} {text s : List Char} {tag : StartTag} {ts us : List Token}

theorem SpelledTag.tag_slashed (t : SpelledTag) : t.slashed.tag = t.tag.closed := rfl

theorem SpelledTag.exists_chars (t : SpelledTag) (hslash : t.slash = false) :
    ∃ b, t.chars = b ++ ['>'] ∧ t.slashed.chars = b ++ [' ', '/', '>'] := by
  refine ⟨'<' :: (t.name.toList ++ (t.attributes.flatMap SpelledAttribute.chars ++ t.gap)), ?_, ?_⟩
  · simp [chars, endChars, hslash]
  · simp [slashed, chars, endChars]

theorem SpelledTag.IsValid.slashed (h : t.IsValid) : t.slashed.IsValid where
  name := h.name
  attributes := h.attributes
  gap := List.forall_mem_append.mpr ⟨h.gap, List.forall_mem_singleton.mpr rfl⟩
  longest := by
    intro front a behind heq hbare c hc
    have hlongest := h.longest front a behind heq hbare
    cases hbehind : behind.flatMap SpelledAttribute.chars with
    | cons d more =>
      rw [hbehind] at hc hlongest
      exact hlongest c hc
    | nil =>
      -- in front of the slash there is a space at least
      have hgap : ∀ d ∈ t.gap ++ [' '], Text.isGap d = true :=
        List.forall_mem_append.mpr ⟨h.gap, List.forall_mem_singleton.mpr rfl⟩
      have hne : t.gap ++ [' '] ≠ [] := by simp
      obtain ⟨d, more, hcons⟩ := List.exists_cons_of_ne_nil hne
      have hend : t.slashed.endChars = d :: (more ++ ['/', '>']) := by
        rw [← List.cons_append, ← hcons]
        rfl
      rw [hbehind, List.nil_append, hend] at hc
      cases hc
      exact isUnquotedChar_of_isGap (hgap _ (hcons ▸ List.mem_cons_self))

theorem SpelledTag.IsValid.head_chars (h : t.IsValid) (hchars : t.chars = b ++ ['>']) (more : List Char) :
    ∃ c rest, b ++ more = '<' :: c :: rest ∧ c.isAlpha = true := by
  obtain ⟨c, rest, hname, hc, -⟩ := h.name
  have hstart : '<' :: c :: (rest ++ (t.attributes.flatMap SpelledAttribute.chars ++ t.endChars)) = b ++ ['>'] := by
    rw [← hchars, chars, hname]
    rfl
  cases b with
  | nil => cases hstart
  | cons d b =>
    obtain ⟨rfl, hrest⟩ := List.cons.inj hstart
    cases b with
    | nil =>
      obtain ⟨rfl, -⟩ := List.cons.inj hrest
      cases hc
    | cons e b =>
      obtain ⟨rfl, -⟩ := List.cons.inj hrest
      exact ⟨c, b ++ more, rfl, hc⟩

/-- In front of a tag with a slash a text is read as it is in front of the tag without it. -/
theorem SpelledTag.IsValid.exchange (h : t.IsValid) (hchars : t.chars = b ++ ['>']) (back : List Char) :
    Exchange (b ++ '>' :: back) (b ++ ' ' :: '/' :: '>' :: back) where
  head := h.head_chars hchars _
  head' := by
    obtain ⟨c, rest, hcons, -⟩ := h.head_chars hchars (' ' :: '/' :: '>' :: back)
    exact ⟨c :: rest, hcons⟩
  sign := by simp
  startTag _ hx hnone := h.none_of_slashed hchars hx back hnone

theorem SpelledTag.IsValid.tokens_chars (h : t.IsValid) (hraw : (isRawText t.tag.name && !t.slash) = false)
    (back : List Char) : tokens (t.chars ++ back) = .startTag t.tag t.chars :: tokens back := by
  have hread := readStartTag?_spelled h back
  obtain ⟨c, rest, hcons, -⟩ := exists_of_readStartTag? hread
  have htoken := readToken_startTag (hcons ▸ hread)
  rw [← hcons, upTo_append_left] at htoken
  have hsplit : splitAfter (.startTag t.tag t.chars) back = ([], back) := by
    rw [splitAfter, show t.tag.selfClosing = t.slash from rfl, hraw, if_neg Bool.false_ne_true]
  rw [hcons, tokens_cons htoken hsplit]
  rfl

theorem Reads.tokens_eq {left : List Char} (h : Reads text ts left) :
    Document.tokens text = ts ++ Document.tokens left := by
  induction h with
  | nil => rfl
  | cons htoken hraw _ ih => rw [tokens_cons htoken hraw, ih, List.cons_append, List.append_assoc]

theorem exists_reads_of_tokens (h : tokens text = ts ++ .startTag tag s :: us) :
    ∃ left, Reads text ts left ∧ tokens left = .startTag tag s :: us := by
  fun_induction tokens text generalizing ts with
  | case1 => simp at h
  | case2 c rest token raw =>
    rename_i ih
    cases ts with
    | nil =>
      refine ⟨c :: rest, .nil _, ?_⟩
      rw [tokens]
      exact h
    | cons first ts =>
      obtain ⟨rfl, hmore⟩ := List.cons.inj h
      -- raw text is no start tag
      obtain ⟨ts', rfl, hrest⟩ : ∃ ts', ts = textToken raw.1 ++ ts' ∧
          tokens raw.2 = ts' ++ .startTag tag s :: us := by
        cases hcontent : raw.1 with
        | nil => exact ⟨ts, rfl, by simpa [textToken, hcontent] using hmore⟩
        | cons d content =>
          rw [hcontent] at hmore
          cases ts with
          | nil => cases (List.cons.inj hmore).1
          | cons second ts =>
            obtain ⟨rfl, hrest⟩ := List.cons.inj hmore
            exact ⟨ts, rfl, hrest⟩
      obtain ⟨left, hreads, hleft⟩ := ih hrest
      exact ⟨left, .cons rfl rfl hreads, hleft⟩

theorem readStartTag?_of_readToken {c : Char} {rest after : List Char}
    (h : readToken c rest = (.startTag tag s, after)) : readStartTag? (c :: rest) = some (tag, after) := by
  unfold readToken at h
  simp only at h
  split at h
  · cases h
  · split at h
    · cases h
    · split at h
      · cases h
        assumption
      · split at h <;> cases h

theorem exists_spelled_of_tokens (h : tokens text = .startTag tag s :: us)
    (hraw : isRawText tag.name = false) :
    ∃ t : SpelledTag, t.IsValid ∧ t.tag = tag ∧ t.chars = s ∧ ∃ after, text = s ++ after ∧ tokens after = us := by
  cases text with
  | nil =>
    rw [tokens] at h
    cases h
  | cons c rest =>
    rcases hread : readToken c rest with ⟨token, after⟩
    have hsource := source_readToken c rest
    rw [hread] at hsource
    have hsplit : ∀ s, splitAfter (.startTag tag s) after = ([], after) := fun s => by
      rw [splitAfter, hraw, Bool.false_and, if_neg Bool.false_ne_true]
    rw [tokens, hread] at h
    obtain ⟨rfl, hmore⟩ := List.cons.inj h
    rw [hsplit] at hmore
    obtain ⟨t, ht, htext, rfl⟩ := exists_spelled_of_readStartTag? (readStartTag?_of_readToken hread)
    obtain rfl : s = t.chars := (List.append_left_inj after).mp (hsource.trans htext)
    exact ⟨t, ht, rfl, rfl, after, htext, hmore⟩

/-- A slash before the end of a start tag, with a space before it, changes that token and no other. -/
theorem tokens_slashed (h : tokens text = ts ++ .startTag tag s :: us) (hclosing : tag.selfClosing = false)
    (hraw : isRawText tag.name = false) :
    ∃ b, s = b ++ ['>'] ∧
      tokens (ts.flatMap Token.source ++ (b ++ ' ' :: '/' :: '>' :: us.flatMap Token.source)) =
        ts ++ .startTag tag.closed (b ++ [' ', '/', '>']) :: us := by
  obtain ⟨left, hreads, hleft⟩ := exists_reads_of_tokens h
  obtain ⟨t, ht, rfl, rfl, after, rfl, rfl⟩ := exists_spelled_of_tokens hleft hraw
  obtain ⟨b, hchars, hslashed⟩ := t.exists_chars hclosing
  refine ⟨b, hchars, ?_⟩
  have htext := hreads.eq_append
  have hback : b ++ ['>'] ++ after = b ++ '>' :: after := by simp
  rw [htext, hchars, hback] at hreads
  rw [sources_tokens, (Reads.exchange (ht.exchange hchars after) hreads).tokens_eq]
  have htokens := ht.slashed.tokens_chars (by rw [t.tag_slashed]; simp [SpelledTag.slashed]) after
  rw [hslashed, List.append_assoc] at htokens
  exact congrArg (ts ++ ·) htokens

end

end Document

end HtmlComponents
