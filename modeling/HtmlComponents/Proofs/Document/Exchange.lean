import HtmlComponents.Proofs.Document.Grammar
import HtmlComponents.Proofs.Markup.Lexical

/-!
# Reading in front of a tag

What is read in front of a tag is read as well in front of another text, if that text begins like a tag and no
start tag runs into it that did not run into the tag (`Exchange`). So the tokens in front of both are the same
(`Reads.exchange`).
-/

namespace HtmlComponents.Document

open Text (takeWhile_append_stop dropWhile_append_stop exists_stop)

/-- In front of `back'` a text is read as it is in front of `back`. -/
structure Exchange (back back' : List Char) : Prop where
  head : ∃ c more, back = '<' :: c :: more ∧ c.isAlpha = true
  head' : ∃ more, back' = '<' :: more
  sign : '>' ∈ back
  startTag : ∀ x, x ≠ [] → readStartTag? (x ++ back) = none → readStartTag? (x ++ back') = none

namespace Local

variable {α : Type} {read : List Char → Option (α × List Char)} {value : α} {text back left : List Char}

theorem exchange (h : Local read) (hread : read (text ++ back) = some (value, left ++ back))
    (back' : List Char) : read (text ++ back') = some (value, left ++ back') := by
  obtain ⟨source, htext, hsource⟩ := h _ _ _ hread
  rw [← List.append_assoc] at htext
  rw [List.append_cancel_right htext, List.append_assoc, hsource]

end Local

namespace Exchange

variable {back back' text left content behind rest : List Char} {c : Char} {name : String} {token : Token}

/-- A text with no `<` behind its first character does not run into a text that begins with one. -/
theorem exists_of_append {source more : List Char} (h : text ++ '<' :: more = source ++ left) (hne : text ≠ [])
    (hsign : '<' ∉ source.tail) : ∃ behind, text = source ++ behind ∧ left = behind ++ '<' :: more := by
  rcases List.append_eq_append_iff.mp h with ⟨r, rfl, hr⟩ | ⟨r, rfl, rfl⟩
  · cases r with
    | nil => exact ⟨[], by simp, by simpa using hr.symm⟩
    | cons d r =>
      obtain ⟨rfl, -⟩ := List.cons.inj hr
      obtain ⟨c, text, rfl⟩ := List.exists_cons_of_ne_nil hne
      exact absurd (List.mem_append_right _ List.mem_cons_self) hsign
  · exact ⟨r, rfl, rfl⟩

theorem isPrefixOf_commentStart {more : List Char} (hne : text ≠ [])
    (h : commentStart.isPrefixOf (text ++ '<' :: more) = true) : commentStart.isPrefixOf text = true := by
  obtain ⟨left, hleft⟩ := List.isPrefixOf_iff_prefix.mp h
  obtain ⟨behind, rfl, -⟩ := exists_of_append hleft.symm hne (by decide)
  exact List.isPrefixOf_iff_prefix.mpr (List.prefix_append _ _)

theorem lt_notMem_endTag {source : List Char} (h : readEndTag? (source ++ left) = some (name, left)) :
    '<' ∉ source.tail := by
  obtain ⟨source', hsource, gaps, hgaps, rfl⟩ := readEndTag?_eq h
  obtain rfl := List.append_cancel_right hsource
  have hname : ∀ c ∈ name.toList, isTagNameChar c = true := by
    have hchars : '<' :: '/' :: name.toList ++ gaps ++ ['>'] ++ left =
        '<' :: '/' :: (name.toList ++ (gaps ++ '>' :: left)) := by simp
    rw [hchars] at h
    unfold readEndTag? at h
    simp only at h
    split at h
    · rename_i name' after hread
      split at h
      · cases h
        obtain ⟨c, rest, hcons, hc, hrest⟩ := exists_of_readTagName? hread
        rw [hcons]
        exact List.forall_mem_cons.mpr ⟨isTagNameChar_of_isAlpha hc, hrest⟩
      · cases h
    · cases h
  intro hmem
  simp only [List.cons_append, List.tail_cons, List.mem_cons, List.mem_append, List.not_mem_nil,
    or_false] at hmem
  rcases hmem with hslash | (hmem | hmem) | hsign
  · cases hslash
  · cases hname _ hmem
  · cases hgaps _ hmem
  · cases hsign

theorem readEndTag?_eq_none (h : Exchange back back') (hne : text ≠ [])
    (hread : readEndTag? (text ++ back) = none) : readEndTag? (text ++ back') = none := by
  obtain ⟨more, rfl⟩ := h.head'
  cases hread' : readEndTag? (text ++ '<' :: more) with
  | none => rfl
  | some found =>
    obtain ⟨source, hsource, hlocal⟩ := readEndTag?_local hread'
    have hsign : '<' ∉ source.tail := lt_notMem_endTag (hlocal found.2)
    obtain ⟨behind, rfl, -⟩ := exists_of_append hsource hne hsign
    rw [List.append_assoc, hlocal] at hread
    cases hread

/-- A declaration goes on to the next `>`, so there is one wherever it may begin. -/
theorem afterDeclaration?_eq_none (h : Exchange back back') (hne : text ≠ [])
    (hread : afterDeclaration? (text ++ back) = none) : afterDeclaration? (text ++ back') = none := by
  obtain ⟨d, more, hback, -⟩ := h.head
  obtain ⟨more', rfl⟩ := h.head'
  unfold afterDeclaration? at hread ⊢
  obtain ⟨c, text, rfl⟩ := List.exists_cons_of_ne_nil hne
  cases text with
  | nil => by_cases hc : c = '<' <;> simp [hc]
  | cons mark text =>
    have hsign : '>' ∈ text ++ back := List.mem_append_right _ h.sign
    have hdrop : (text ++ back).dropWhile (· != '>') ≠ [] := by
      intro hnil
      have hall := List.dropWhile_eq_nil_iff.mp hnil _ hsign
      simp at hall
    by_cases hc : c = '<'
    · subst hc
      by_cases hmark : mark = '!' ∨ mark = '?'
      · simp only [List.cons_append, if_pos hmark] at hread
        split at hread
        · cases hread
        · rename_i hnil
          exact absurd hnil hdrop
      · simp [hmark]
    · simp [hc]

theorem afterComment_eq (h : Exchange back back') (hstart : commentStart.isPrefixOf (text ++ back) = true)
    (hafter : afterComment (text ++ back) = left ++ back) : afterComment (text ++ back') = left ++ back' := by
  obtain ⟨d, more, rfl, -⟩ := h.head
  obtain ⟨body, hbody⟩ := List.isPrefixOf_iff_prefix.mp hstart
  rw [← hbody, afterComment_commentStart] at hafter
  split at hafter
  · rename_i found hfound
    obtain ⟨front, rest, rfl, rfl, hfront⟩ := findFrom?_local hfound (by simp [commentEnd])
    rw [List.drop_left] at hafter
    subst hafter
    have htext : text = commentStart ++ (front ++ (commentEnd ++ left)) := by
      refine (List.append_left_inj ('<' :: d :: more)).mp ?_
      rw [← hbody]
      simp
    rw [htext, List.append_assoc, List.append_assoc, List.append_assoc, afterComment_commentStart, hfront]
    exact List.drop_left
  · -- a comment without an end would take in what is behind it
    exact absurd hafter.symm (by simp)

theorem dropWhile_eq (h : Exchange back back') (hdrop : (text ++ back).dropWhile (· != '<') = left ++ back) :
    (text ++ back').takeWhile (· != '<') = (text ++ back).takeWhile (· != '<') ∧
      (text ++ back').dropWhile (· != '<') = left ++ back' := by
  obtain ⟨more, rfl⟩ := h.head'
  obtain ⟨htake, hleft⟩ := dropWhile_cut hdrop
  obtain ⟨front, stop, rfl, hfront, hstop⟩ := exists_stop (· != '<') text
  rw [dropWhile_append_stop hfront hstop] at hleft
  subst hleft
  have hstop' : ∀ d ∈ (stop ++ '<' :: more).head?, (d != '<') = false := by
    intro d hd
    rw [List.head?_append] at hd
    rcases Option.or_eq_some_iff.mp hd with hd | ⟨-, hd⟩
    · exact hstop d hd
    · cases hd
      rfl
  rw [htake, takeWhile_append_stop hfront hstop, List.append_assoc, takeWhile_append_stop hfront hstop',
    dropWhile_append_stop hfront hstop']
  exact ⟨rfl, rfl⟩

theorem readToken_eq (h : Exchange back back') (hread : readToken c (rest ++ back) = (token, left ++ back)) :
    readToken c (rest ++ back') = (token, left ++ back') := by
  have hne : c :: rest ≠ [] := List.cons_ne_nil c rest
  have hcut : ∀ left, upTo (c :: rest ++ back') (left ++ back') = upTo (c :: rest ++ back) (left ++ back) :=
    fun left => by rw [upTo_cut, upTo_cut]
  unfold readToken at hread ⊢
  simp only [← List.cons_append] at hread ⊢
  by_cases hcomment : commentStart.isPrefixOf (c :: rest ++ back) = true
  · rw [if_pos hcomment] at hread
    obtain ⟨rfl, hleft⟩ := Prod.mk.inj hread
    obtain ⟨d, more, hback, -⟩ := h.head
    have hcomment' := isPrefixOf_append (isPrefixOf_commentStart hne (hback ▸ hcomment)) back'
    simp only [if_pos hcomment', h.afterComment_eq hcomment hleft, hleft, hcut]
  · have hcomment' : ¬commentStart.isPrefixOf (c :: rest ++ back') = true := by
      obtain ⟨more, hback'⟩ := h.head'
      exact fun hpart => hcomment (isPrefixOf_append (isPrefixOf_commentStart hne (hback' ▸ hpart)) back)
    rw [if_neg hcomment] at hread
    rw [if_neg hcomment']
    split at hread
    · rename_i name left' hend
      obtain ⟨rfl, rfl⟩ := Prod.mk.inj hread
      simp only [local_readEndTag?.exchange hend back', hcut]
    · rename_i hend
      rw [h.readEndTag?_eq_none hne hend]
      split at hread
      · rename_i tag left' hstart
        obtain ⟨rfl, rfl⟩ := Prod.mk.inj hread
        simp only [local_readStartTag?.exchange hstart back', hcut]
      · rename_i hstart
        rw [h.startTag _ hne hstart]
        split at hread
        · rename_i left' hdeclaration
          obtain ⟨rfl, rfl⟩ := Prod.mk.inj hread
          have hmap : (afterDeclaration? (c :: rest ++ back)).map ((), ·) = some ((), left ++ back) := by
            rw [hdeclaration]
            rfl
          obtain ⟨_, hleft, heq⟩ := Option.map_eq_some_iff.mp (local_afterDeclaration?.exchange hmap back')
          cases heq
          simp only [hleft, hcut]
        · rename_i hdeclaration
          obtain ⟨rfl, hleft⟩ := Prod.mk.inj hread
          obtain ⟨htake, hdrop⟩ := h.dropWhile_eq hleft
          simp only [h.afterDeclaration?_eq_none hne hdeclaration, htake, hdrop]

/-! ### Raw text -/

theorem startsEndOf_eq {more : List Char} (hne : text ≠ []) (hname : '<' ∉ name.toLower.toList) :
    startsEndOf name (text ++ '<' :: more) = startsEndOf name text := by
  rw [Bool.eq_iff_iff]
  exact ⟨startsEndOf_of_append hname rfl hne, fun hstarts => startsEndOf_append hstarts _⟩

theorem splitRaw_eq (h : Exchange back back') (hname : '<' ∉ name.toLower.toList)
    (hsplit : splitRaw name (text ++ back) = (content, behind ++ back)) :
    splitRaw name (text ++ back') = (content, behind ++ back') := by
  obtain ⟨d, more, hback, hd⟩ := h.head
  obtain ⟨more', hback'⟩ := h.head'
  induction text generalizing content with
  | nil =>
    -- raw text is not ended by a start tag
    have hparts := splitRaw_append name back
    rw [List.nil_append] at hsplit
    rw [hsplit, ← List.append_assoc, List.append_left_eq_self] at hparts
    obtain ⟨rfl, -⟩ := List.append_eq_nil_iff.mp hparts
    rw [hback, splitRaw] at hsplit
    have hletter : d ≠ '/' := by
      rintro rfl
      cases hd
    rw [startsEndOf_opening hletter, if_neg Bool.false_ne_true] at hsplit
    cases (Prod.mk.inj hsplit).1
  | cons c rest ih =>
    have hstarts : startsEndOf name (c :: (rest ++ back')) = startsEndOf name (c :: (rest ++ back)) := by
      rw [← List.cons_append, ← List.cons_append, hback, hback',
        startsEndOf_eq (List.cons_ne_nil c rest) hname, startsEndOf_eq (List.cons_ne_nil c rest) hname]
    rw [List.cons_append, splitRaw] at hsplit ⊢
    rw [hstarts]
    split at hsplit
    · rename_i hends
      obtain ⟨rfl, hleft⟩ := Prod.mk.inj hsplit
      rw [← List.cons_append] at hleft
      rw [if_pos hends, ← List.append_cancel_right hleft, List.cons_append]
    · rename_i hends
      obtain ⟨rfl, hleft⟩ := Prod.mk.inj hsplit
      rw [if_neg hends, ih (Prod.ext rfl hleft)]

theorem splitAfter_eq (h : Exchange back back')
    (hsplit : splitAfter token (text ++ back) = (content, behind ++ back)) :
    splitAfter token (text ++ back') = (content, behind ++ back') := by
  cases token with
  | startTag tag source =>
    rw [splitAfter] at hsplit ⊢
    split at hsplit
    · rename_i hraw
      have hname : '<' ∉ tag.name.toLower.toList := fun hmem => by
        cases isLower_of_isRawText (Bool.and_eq_true_iff.mp hraw).1 '<' hmem
      rw [if_pos hraw, h.splitRaw_eq hname hsplit]
    · rename_i hraw
      obtain ⟨rfl, hleft⟩ := Prod.mk.inj hsplit
      rw [if_neg hraw, List.append_cancel_right hleft]
  | text | comment | declaration | endTag =>
    obtain ⟨rfl, hleft⟩ := Prod.mk.inj hsplit
    obtain rfl := List.append_cancel_right hleft
    rfl

end Exchange

/-- The tokens in front of a tag are those in front of a text that it may be exchanged with. -/
theorem Reads.exchange {front back back' : List Char} {ts : List Token} (h : Exchange back back')
    (hreads : Reads (front ++ back) ts back) : Reads (front ++ back') ts back' := by
  generalize htext : front ++ back = text at hreads
  generalize hleft : back = left at hreads
  induction hreads generalizing front with
  | nil text =>
    subst hleft
    obtain rfl : front = [] := (List.append_left_inj back).mp htext
    exact .nil back'
  | cons htoken hraw hrest ih =>
    subst hleft
    obtain ⟨front, between, rfl, rfl, rfl, rfl⟩ := Reads.exists_of_cons htext htoken hraw hrest
    exact .cons (h.readToken_eq htoken) (h.splitAfter_eq hraw) (ih rfl rfl)

end HtmlComponents.Document
