import HtmlComponents.Proofs.Document.Tag
import HtmlComponents.Proofs.Markup.Opening

/-!
# Reading looks at nothing behind what it reads

A tag is read from its own source, whatever stands behind it (`readStartTag?_local`,
`readEndTag?_local`), and so is a declaration.
-/

namespace HtmlComponents.Document

open Text (takeWhile_append_stop dropWhile_append_stop exists_stop head?_cons_stop)

section
variable {text left : List Char} {value : String}

theorem readUntilQuote?_local {quote : Char} (h : readUntilQuote? quote text = some (value, left)) :
    ∃ source, text = source ++ left ∧
      ∀ more, readUntilQuote? quote (source ++ more) = some (value, more) := by
  obtain ⟨front, rest, rfl, hfront, hrest⟩ := exists_stop (· != quote) text
  rw [readUntilQuote?, dropWhile_append_stop hfront hrest, takeWhile_append_stop hfront hrest] at h
  cases rest with
  | nil => cases h
  | cons c rest =>
    cases h
    refine ⟨front ++ [c], by simp, fun more => ?_⟩
    have hstop := head?_cons_stop (p := (· != quote)) (hrest c rfl) more
    rw [List.append_assoc, List.singleton_append, readUntilQuote?, dropWhile_append_stop hfront hstop,
      takeWhile_append_stop hfront hstop]

/-- A value is not empty, and only one without quotes is ended by what follows. -/
theorem readValue?_local (h : readValue? text = some (value, left)) :
    ∃ source, source ≠ [] ∧ text = source ++ left ∧
      ∀ more, more.head? = left.head? → readValue? (source ++ more) = some (value, more) := by
  cases text with
  | nil => cases h
  | cons c rest =>
    by_cases hquote : c = '"' ∨ c = '\''
    · rw [readValue?, if_pos hquote] at h
      obtain ⟨source, rfl, hsource⟩ := readUntilQuote?_local h
      refine ⟨c :: source, List.cons_ne_nil _ _, rfl, fun more _ => ?_⟩
      rw [List.cons_append, readValue?, if_pos hquote, hsource]
    · rw [readValue?, if_neg hquote] at h
      split at h
      · rename_i hc
        obtain ⟨front, rest', rfl, hfront, hrest⟩ := exists_stop isUnquotedChar rest
        have hfront : ∀ d ∈ c :: front, isUnquotedChar d = true := List.forall_mem_cons.mpr ⟨hc, hfront⟩
        rw [← List.cons_append, takeWhile_append_stop hfront hrest,
          dropWhile_append_stop hfront hrest] at h
        cases h
        refine ⟨c :: front, List.cons_ne_nil _ _, rfl, fun more hmore => ?_⟩
        rw [← hmore] at hrest
        rw [List.cons_append, readValue?, if_neg hquote, if_pos hc, ← List.cons_append,
          takeWhile_append_stop hfront hrest, dropWhile_append_stop hfront hrest]
      · cases h

theorem head?_append_eq {source : List Char} (h : source ≠ []) (more : List Char) :
    (source ++ more).head? = source.head? := by
  cases source with
  | nil => exact absurd rfl h
  | cons c rest => rfl

theorem readAssignment?_local (h : readAssignment? text = some (value, left)) :
    ∃ source, source ≠ [] ∧ text = source ++ left ∧
      ∀ more, more.head? = left.head? → readAssignment? (source ++ more) = some (value, more) := by
  obtain ⟨gaps, rest, rfl, hgaps, hrest⟩ := exists_stop Text.isGap text
  rw [readAssignment?, dropWhile_append_stop hgaps hrest] at h
  split at h
  · rename_i rest
    obtain ⟨gaps', rest', rfl, hgaps', hrest'⟩ := exists_stop Text.isGap rest
    rw [dropWhile_append_stop hgaps' hrest'] at h
    obtain ⟨source, hne, rfl, hsource⟩ := readValue?_local h
    refine ⟨gaps ++ '=' :: (gaps' ++ source), by simp, by simp, fun more hmore => ?_⟩
    have hstop := head?_cons_stop (p := Text.isGap) (c := '=') rfl (gaps' ++ (source ++ more))
    rw [head?_append_eq hne, ← head?_append_eq hne more] at hrest'
    have hchars : gaps ++ '=' :: (gaps' ++ source) ++ more =
        gaps ++ '=' :: (gaps' ++ (source ++ more)) := by simp
    rw [hchars, readAssignment?, dropWhile_append_stop hgaps hstop]
    simp only [dropWhile_append_stop hgaps' hrest']
    exact hsource more hmore
  · cases h

theorem readAssignment?_eq_none (h : ∀ c ∈ (text.dropWhile Text.isGap).head?, c ≠ '=') :
    readAssignment? text = none := by
  unfold readAssignment?
  split
  · rename_i rest hdrop
    exact absurd rfl (h '=' (by rw [hdrop]; rfl))
  · rfl

/-- An attribute is ended by what follows, if that does not give it another value. -/
theorem readAttribute?_local {entry : String × Option String}
    (h : readAttribute? text = some (entry, left)) :
    ∃ source, source ≠ [] ∧ text = source ++ left ∧ (∀ c ∈ source.head?, Text.isGap c = false) ∧
      ∀ more, more.head? = left.head? → (∀ c ∈ (more.dropWhile Text.isGap).head?, c ≠ '=') →
        readAttribute? (source ++ more) = some (entry, more) := by
  obtain ⟨name, after, rfl, hname, hafter⟩ := exists_stop isAttributeNameChar text
  cases name with
  | nil =>
    rw [readAttribute?, takeWhile_append_stop hname hafter] at h
    cases h
  | cons c name =>
    have hvalid : isAttributeName (String.ofList (c :: name)) = true := by
      simpa [isAttributeName, List.all_eq_true] using hname
    have hread := fun after => readAttribute?_append after hvalid
    simp only [String.toList_ofList] at hread
    have hgap : ∀ source, ∀ d ∈ (c :: name ++ source).head?, Text.isGap d = false := by
      intro source d hd
      cases hd
      exact isGap_eq_false_of_name (hname c List.mem_cons_self)
    rw [hread after hafter] at h
    cases hassignment : readAssignment? after with
    | some found =>
      obtain ⟨value, left'⟩ := found
      rw [hassignment] at h
      cases h
      obtain ⟨source, hne, rfl, hsource⟩ := readAssignment?_local hassignment
      refine ⟨c :: name ++ source, by simp, by simp, hgap source, fun more hmore _ => ?_⟩
      rw [head?_append_eq hne, ← head?_append_eq hne more] at hafter
      rw [List.append_assoc, hread (source ++ more) hafter, hsource more hmore]
    | none =>
      rw [hassignment] at h
      cases h
      refine ⟨c :: name, by simp, rfl, by simpa using hgap [], fun more hmore hequals => ?_⟩
      rw [← hmore] at hafter
      rw [hread more hafter, readAssignment?_eq_none hequals]

theorem readNextAttribute?_local {entry : String × Option String}
    (h : readNextAttribute? text = some (entry, left)) :
    ∃ source, text = source ++ left ∧
      ∀ more, more.head? = left.head? → (∀ c ∈ (more.dropWhile Text.isGap).head?, c ≠ '=') →
        readNextAttribute? (source ++ more) = some (entry, more) := by
  cases text with
  | nil => cases h
  | cons c rest =>
    rw [readNextAttribute?] at h
    split at h
    · rename_i hc
      obtain ⟨gaps, body, rfl, hgaps, hbody⟩ := exists_stop Text.isGap rest
      rw [dropWhile_append_stop hgaps hbody] at h
      obtain ⟨source, hne, rfl, hsource, hread⟩ := readAttribute?_local h
      refine ⟨c :: gaps ++ source, by simp, fun more hmore hequals => ?_⟩
      rw [← head?_append_eq hne more] at hsource
      rw [List.append_assoc, List.cons_append, readNextAttribute?, if_pos hc,
        dropWhile_append_stop hgaps hsource, hread more hmore hequals]
    · cases h

end

/-! ### Tags -/

section
variable {text left : List Char}

theorem readTagEnd?_local {selfClosing : Bool} (h : readTagEnd? text = some (selfClosing, left)) :
    ∃ source, '>' ∈ source ∧ text = source ++ left ∧
      ∀ more, readTagEnd? (source ++ more) = some (selfClosing, more) := by
  obtain ⟨gaps, rest, rfl, hgaps, hrest⟩ := exists_stop Text.isGap text
  rw [readTagEnd?, dropWhile_append_stop hgaps hrest] at h
  split at h
  · cases h
    refine ⟨gaps ++ ['/', '>'], by simp, by simp, fun more => ?_⟩
    have hstop := head?_cons_stop (p := Text.isGap) (c := '/') rfl ('>' :: more)
    have hchars : gaps ++ ['/', '>'] ++ more = gaps ++ '/' :: '>' :: more := by simp
    rw [hchars, readTagEnd?, dropWhile_append_stop hgaps hstop]
    rfl
  · cases h
    refine ⟨gaps ++ ['>'], by simp, by simp, fun more => ?_⟩
    have hstop := head?_cons_stop (p := Text.isGap) (c := '>') rfl more
    have hchars : gaps ++ ['>'] ++ more = gaps ++ '>' :: more := by simp
    rw [hchars, readTagEnd?, dropWhile_append_stop hgaps hstop]
    rfl
  · cases h

/-- Where a word may follow, an equals sign or the end of the tag keeps it from being read. -/
theorem readNextAttribute?_eq_none
    (h : ∀ c ∈ (text.dropWhile Text.isGap).head?, isAttributeNameChar c = false) :
    readNextAttribute? text = none := by
  cases text with
  | nil => rfl
  | cons c rest =>
    rw [readNextAttribute?]
    split
    · rename_i hc
      rw [List.dropWhile_cons_of_pos hc] at h
      have hname := takeWhile_append_stop (a := []) (fun _ hd => absurd hd List.not_mem_nil) h
      rw [readAttribute?, ← List.nil_append (rest.dropWhile Text.isGap), hname]
    · rfl

theorem readAttributes_of_none (h : readNextAttribute? text = none) : readAttributes text = ([], text) := by
  rw [readAttributes]
  split
  · rename_i hsome
    rw [h] at hsome
    cases hsome
  · rfl

theorem readAttributes_of_some {entry : String × Option String} {rest : List Char}
    (h : readNextAttribute? text = some (entry, rest)) :
    readAttributes text = (entry :: (readAttributes rest).1, (readAttributes rest).2) := by
  rw [readAttributes]
  split
  · rename_i hsome
    rw [h] at hsome
    cases hsome
    rfl
  · rename_i hnone
    rw [h] at hnone
    cases hnone

theorem head?_of_readTagEnd? {selfClosing : Bool} (h : readTagEnd? text = some (selfClosing, left)) :
    ∀ c ∈ (text.dropWhile Text.isGap).head?, isAttributeNameChar c = false ∧ c ≠ '=' := by
  unfold readTagEnd? at h
  split at h
  · rename_i hdrop
    rw [hdrop]
    exact fun c hc => by cases hc; decide
  · rename_i hdrop
    rw [hdrop]
    exact fun c hc => by cases hc; decide
  · cases h

theorem head?_of_readAttributes {selfClosing : Bool}
    (h : readTagEnd? (readAttributes text).2 = some (selfClosing, left)) :
    ∀ c ∈ (text.dropWhile Text.isGap).head?, c ≠ '=' := by
  rintro c hc rfl
  have hnone : readNextAttribute? text = none := by
    refine readNextAttribute?_eq_none fun d hd => ?_
    cases (Option.mem_def.mp hc).symm.trans (Option.mem_def.mp hd)
    decide
  rw [readAttributes_of_none hnone] at h
  exact (head?_of_readTagEnd? h '=' hc).2 rfl

theorem head?_dropWhile_append {p : Char → Bool} {source : List Char} {c : Char} (hc : c ∈ source)
    (hstop : p c = false) (more : List Char) :
    ((source ++ more).dropWhile p).head? = (source.dropWhile p).head? := by
  rw [List.dropWhile_append]
  split
  · rename_i hempty
    have hall := List.dropWhile_eq_nil_iff.mp (List.isEmpty_iff.mp hempty) c hc
    rw [hstop] at hall
    cases hall
  · rename_i hne
    exact head?_append_eq (fun hnil => hne (List.isEmpty_iff.mpr hnil)) more

theorem readAttributes_local {selfClosing : Bool}
    (h : readTagEnd? (readAttributes text).2 = some (selfClosing, left)) :
    ∃ source, '>' ∈ source ∧ text = source ++ left ∧
      ∀ more, (readAttributes (source ++ more)).1 = (readAttributes text).1 ∧
        readTagEnd? (readAttributes (source ++ more)).2 = some (selfClosing, more) := by
  fun_induction readAttributes text with
  | case1 text entry left' hnext more rest hrest ih =>
    obtain ⟨source, hsign, rfl, hsource⟩ := ih (by rw [hrest]; exact h)
    have hend : readTagEnd? (readAttributes (source ++ left)).2 = some (selfClosing, left) := by
      rw [hrest]
      exact h
    have hequals := head?_of_readAttributes hend
    obtain ⟨front, rfl, hfront⟩ := readNextAttribute?_local hnext
    refine ⟨front ++ source, by simp [hsign], by simp, fun extra => ?_⟩
    have hread : readNextAttribute? (front ++ (source ++ extra)) = some (entry, source ++ extra) := by
      refine hfront _ ?_ ?_
      · rw [head?_append_eq (List.ne_nil_of_mem hsign), head?_append_eq (List.ne_nil_of_mem hsign)]
      · rw [head?_dropWhile_append hsign rfl] at hequals ⊢
        exact hequals
    have hparts := hsource extra
    rw [hrest] at hparts
    rw [List.append_assoc, readAttributes_of_some hread]
    exact ⟨congrArg (entry :: ·) hparts.1, hparts.2⟩
  | case2 text hnone =>
    obtain ⟨source, hsign, rfl, hsource⟩ := readTagEnd?_local h
    refine ⟨source, hsign, rfl, fun extra => ?_⟩
    have hnone' : readNextAttribute? (source ++ extra) = none :=
      readNextAttribute?_eq_none fun c hc => (head?_of_readTagEnd? (hsource extra) c hc).1
    rw [readAttributes_of_none hnone']
    exact ⟨rfl, hsource extra⟩

theorem readTagName?_local {name : String} (h : readTagName? text = some (name, left)) :
    text = name.toList ++ left ∧
      ∀ more, more.head? = left.head? → readTagName? (name.toList ++ more) = some (name, more) := by
  refine ⟨readTagName?_eq h, fun more hmore => ?_⟩
  cases text with
  | nil => cases h
  | cons c rest =>
    rw [readTagName?] at h
    split at h
    · rename_i hc
      have hchar : isTagNameChar c = true := by simp [isTagNameChar, Char.isAlphanum, hc]
      obtain ⟨front, rest', rfl, hfront, hrest⟩ := exists_stop isTagNameChar rest
      have hfront : ∀ d ∈ c :: front, isTagNameChar d = true := List.forall_mem_cons.mpr ⟨hchar, hfront⟩
      rw [← List.cons_append, takeWhile_append_stop hfront hrest,
        dropWhile_append_stop hfront hrest] at h
      cases h
      rw [← hmore] at hrest
      refine readTagName?_append (isTagName_iff.mpr ⟨c, front, ?_, hc, ?_⟩) hrest
      · exact String.toList_ofList
      · rwa [String.toList_ofList]
    · cases h

/-- A start tag is read from its source, whatever follows it. -/
theorem readStartTag?_local {tag : StartTag} (h : readStartTag? text = some (tag, left)) :
    ∃ source, text = source ++ left ∧
      ∀ more, readStartTag? (source ++ more) = some (tag, more) := by
  unfold readStartTag? at h
  split at h
  · rename_i rest
    split at h
    · rename_i name after hname
      obtain ⟨⟨selfClosing, left'⟩, hend, heq⟩ := Option.map_eq_some_iff.mp h
      cases heq
      obtain ⟨source, hsign, rfl, hsource⟩ := readAttributes_local hend
      obtain ⟨rfl, hread⟩ := readTagName?_local hname
      refine ⟨'<' :: (name.toList ++ source), by simp, fun more => ?_⟩
      have hname' : readTagName? (name.toList ++ (source ++ more)) = some (name, source ++ more) := by
        refine hread _ ?_
        rw [head?_append_eq (List.ne_nil_of_mem hsign), head?_append_eq (List.ne_nil_of_mem hsign)]
      have hchars : '<' :: (name.toList ++ source) ++ more =
          '<' :: (name.toList ++ (source ++ more)) := by simp
      rw [hchars]
      simp only [readStartTag?, hname', (hsource more).1, (hsource more).2, Option.map_some]
    · cases h
  · cases h

theorem readEndTag?_local {name : String} (h : readEndTag? text = some (name, left)) :
    ∃ source, text = source ++ left ∧
      ∀ more, readEndTag? (source ++ more) = some (name, more) := by
  unfold readEndTag? at h
  split at h
  · rename_i rest
    split at h
    · rename_i name' after hname
      split at h
      · rename_i left' hdrop
        cases h
        obtain ⟨gaps, hgaps, rfl⟩ := exists_of_dropWhile_eq hdrop
        obtain ⟨rfl, hread⟩ := readTagName?_local hname
        refine ⟨'<' :: '/' :: (name.toList ++ (gaps ++ ['>'])), by simp, fun more => ?_⟩
        have hname' : readTagName? (name.toList ++ (gaps ++ '>' :: more)) =
            some (name, gaps ++ '>' :: more) := by
          refine hread _ ?_
          cases gaps <;> rfl
        have hdrop' : (gaps ++ '>' :: more).dropWhile Text.isGap = '>' :: more :=
          dropWhile_append_stop hgaps (head?_cons_stop rfl more)
        have hchars : '<' :: '/' :: (name.toList ++ (gaps ++ ['>'])) ++ more =
            '<' :: '/' :: (name.toList ++ (gaps ++ '>' :: more)) := by simp
        rw [hchars]
        simp only [readEndTag?, hname', hdrop']
      · cases h
    · cases h
  · cases h

end

end HtmlComponents.Document
