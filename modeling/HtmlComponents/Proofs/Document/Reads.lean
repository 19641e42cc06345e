import HtmlComponents.Document.Token
import HtmlComponents.Proofs.Document.Locality

/-!
# Tokens of a text that is cut

A text that is cut behind the `>` of a tag falls into the same tokens as before, up to the cut
(`Reads.tokens`). What stands behind the cut has not been looked at, except to tell where text ends.
-/

namespace HtmlComponents.Document

open Text (takeWhile_append_stop dropWhile_append_stop exists_stop head?_cons_stop)

/-! ### Readers that look at their own source alone -/

/-- What is read does not hang on what stands behind it. -/
def Local {α : Type} (read : List Char → Option (α × List Char)) : Prop :=
  ∀ text value left, read text = some (value, left) →
    ∃ source, text = source ++ left ∧ ∀ more, read (source ++ more) = some (value, more)

namespace Local

variable {α : Type} {read : List Char → Option (α × List Char)} {value : α} {text back left : List Char}

/-- A text may be cut anywhere behind what is read. -/
theorem cut (h : Local read) (hread : read (text ++ back) = some (value, left ++ back)) :
    read text = some (value, left) := by
  obtain ⟨source, htext, hsource⟩ := h _ _ _ hread
  rw [← List.append_assoc] at htext
  rw [List.append_cancel_right htext]
  exact hsource left

theorem none_of_append (h : Local read) (text back : List Char) (hread : read (text ++ back) = none) :
    read text = none := by
  cases hpart : read text with
  | none => rfl
  | some found =>
    obtain ⟨source, rfl, hsource⟩ := h _ found.1 found.2 hpart
    rw [List.append_assoc, hsource] at hread
    cases hread

end Local

theorem local_readStartTag? : Local readStartTag? := fun _ _ _ h => readStartTag?_local h

theorem local_readEndTag? : Local readEndTag? := fun _ _ _ h => readEndTag?_local h

theorem local_afterDeclaration? : Local fun text => (afterDeclaration? text).map ((), ·) := by
  rintro text ⟨⟩ left h
  obtain ⟨left', hread, heq⟩ := Option.map_eq_some_iff.mp h
  cases heq
  unfold afterDeclaration? at hread
  split at hread
  · rename_i mark rest
    split at hread
    · rename_i hmark
      obtain ⟨front, back, rfl, hfront, hback⟩ := exists_stop (· != '>') rest
      rw [dropWhile_append_stop hfront hback] at hread
      cases back with
      | nil => cases hread
      | cons c back =>
        cases hread
        refine ⟨'<' :: mark :: (front ++ [c]), by simp, fun more => ?_⟩
        have hstop := head?_cons_stop (p := (· != '>')) (hback c rfl) more
        have hchars : '<' :: mark :: (front ++ [c]) ++ more = '<' :: mark :: (front ++ c :: more) := by
          simp
        rw [hchars]
        simp only [afterDeclaration?, if_pos hmark, dropWhile_append_stop hfront hstop, Option.map_some]
    · cases hread
  · cases hread

/-! ### Comments -/

section
variable {sought text back left : List Char}

theorem isPrefixOf_append (h : sought.isPrefixOf text = true) (back : List Char) :
    sought.isPrefixOf (text ++ back) = true := by
  rw [List.isPrefixOf_iff_prefix] at h ⊢
  exact h.trans (List.prefix_append text back)

theorem findFrom?_local {found : List Char} (h : findFrom? sought text = some found)
    (hne : sought ≠ []) :
    ∃ front rest, found = sought ++ rest ∧ text = front ++ found ∧
      ∀ more, findFrom? sought (front ++ (sought ++ more)) = some (sought ++ more) := by
  induction text with
  | nil =>
    rw [findFrom?, if_neg (by simpa using hne)] at h
    cases h
  | cons c rest ih =>
    rw [findFrom?] at h
    split at h
    · rename_i hprefix
      cases h
      obtain ⟨behind, hbehind⟩ := List.isPrefixOf_iff_prefix.mp hprefix
      refine ⟨[], behind, hbehind.symm, rfl, fun more => ?_⟩
      have hstarts : sought.isPrefixOf (sought ++ more) = true :=
        List.isPrefixOf_iff_prefix.mpr (List.prefix_append sought more)
      obtain ⟨d, others, rfl⟩ := List.exists_cons_of_ne_nil hne
      rw [List.cons_append] at hstarts
      rw [List.nil_append, List.cons_append, findFrom?, if_pos hstarts]
    · rename_i hprefix
      obtain ⟨front, behind, rfl, rfl, hfront⟩ := ih h
      refine ⟨c :: front, behind, rfl, rfl, fun more => ?_⟩
      -- whether the text stands here is seen in the part that is kept
      have hnot : ¬sought.isPrefixOf (c :: (front ++ (sought ++ more))) = true := by
        intro hstarts
        rw [List.isPrefixOf_iff_prefix] at hstarts
        have hlong : sought <+: c :: front ++ sought ++ more := by simpa using hstarts
        have hshort := List.prefix_of_prefix_length_le hlong
          (List.prefix_append (c :: front ++ sought) more) (by simp; omega)
        refine hprefix (List.isPrefixOf_iff_prefix.mpr ?_)
        simpa using hshort.trans (List.prefix_append _ behind)
      rw [List.cons_append, findFrom?, if_neg hnot, hfront]

theorem afterComment_commentStart (body : List Char) :
    afterComment (commentStart ++ body) =
      match findFrom? commentEnd body with
      | some found => found.drop commentEnd.length
      | none => [] := by
  have hbody : (commentStart ++ body).drop commentStart.length = body := List.drop_left
  exact congrArg (fun body => match findFrom? commentEnd body with
    | some found => found.drop commentEnd.length
    | none => []) hbody

theorem afterComment_cut (hstart : commentStart.isPrefixOf (text ++ back) = true)
    (h : afterComment (text ++ back) = left ++ back) :
    commentStart.isPrefixOf text = true ∧ afterComment text = left := by
  obtain ⟨body, hbody⟩ := List.isPrefixOf_iff_prefix.mp hstart
  rw [← hbody, afterComment_commentStart] at h
  split at h
  · rename_i found hfound
    obtain ⟨front, rest, rfl, rfl, hfront⟩ := findFrom?_local hfound (by simp [commentEnd])
    rw [List.drop_left] at h
    subst h
    have htext : text = commentStart ++ (front ++ (commentEnd ++ left)) := by
      refine (List.append_left_inj back).mp ?_
      rw [← hbody]
      simp
    rw [htext, afterComment_commentStart, hfront]
    exact ⟨List.isPrefixOf_iff_prefix.mpr (List.prefix_append _ _), List.drop_left⟩
  · rename_i hnone
    obtain ⟨rfl, rfl⟩ := List.append_eq_nil_iff.mp h.symm
    rw [List.append_nil] at hbody hstart
    refine ⟨hstart, ?_⟩
    rw [← hbody, afterComment_commentStart, hnone]

end

/-! ### Raw text -/

/-- A text that may be cut off: it is empty or ends as a tag does. -/
def Cuttable (text : List Char) : Prop := ∀ c ∈ text.getLast?, c = '>'

theorem Cuttable.of_append (front : List Char) {text : List Char} (h : Cuttable (front ++ text)) :
    Cuttable text := by
  intro c hc
  refine h c ?_
  rw [List.getLast?_append, Option.mem_def.mp hc]
  rfl

section
variable {name : String} {text back left : List Char}

theorem startsEndOf_append (h : startsEndOf name text = true) (back : List Char) :
    startsEndOf name (text ++ back) = true := by
  unfold startsEndOf at h ⊢
  dsimp only at h ⊢
  have hlength := (List.isPrefixOf_iff_prefix.mp h).length_le
  rw [List.length_map, List.length_take] at hlength
  rwa [List.take_append_of_le_length (by omega)]

theorem startsEndOf_of_isEndTag {other : String} {ending : List Char} (h : IsEndTag other ending)
    (hsame : sameName name other = true) : startsEndOf name ending = true := by
  obtain ⟨gaps, -, rfl⟩ := h
  have hlower : name.toLower.toList = other.toList.map Char.toLower := by
    rw [beq_iff_eq.mp hsame]
    exact String.toList_map
  have htake : ('<' :: '/' :: other.toList ++ gaps ++ ['>']).take
      ('<' :: '/' :: name.toLower.toList).length = '<' :: '/' :: other.toList := by
    simp [hlower]
  rw [startsEndOf]
  simp only [htake]
  simp [hlower, List.isPrefixOf]

/-- What an end tag begins with holds no `>` and so ends before one. -/
theorem startsEndOf_cut (hname : '>' ∉ name.toLower.toList) (hcut : Cuttable text) (hne : text ≠ [])
    (h : startsEndOf name (text ++ back) = true) : startsEndOf name text = true := by
  unfold startsEndOf at h ⊢
  dsimp only at h ⊢
  generalize hsought : '<' :: '/' :: name.toLower.toList = sought at h ⊢
  have hsign : '>' ∉ sought := by simp [← hsought, hname]
  by_cases hlength : sought.length ≤ text.length
  · rwa [List.take_append_of_le_length hlength] at h
  · -- a longer beginning would run over the `>` at the cut
    refine absurd ?_ hsign
    have hlast : '>' ∈ text := by
      rw [← hcut _ (List.getLast?_eq_some_getLast hne)]
      exact List.getLast_mem hne
    have hwhole : sought = ((text ++ back).take sought.length).map Char.toLower := by
      have hstarts := List.isPrefixOf_iff_prefix.mp h
      refine hstarts.eq_of_length_le ?_
      rw [List.length_map, List.length_take]
      omega
    rw [hwhole]
    refine List.mem_map.mpr ⟨'>', ?_, rfl⟩
    rw [List.take_append, List.mem_append, List.take_of_length_le (by omega)]
    exact .inl hlast

theorem splitRaw_cut {content : List Char} (hname : '>' ∉ name.toLower.toList) (hcut : Cuttable text)
    (h : splitRaw name (text ++ back) = (content, left ++ back)) :
    splitRaw name text = (content, left) := by
  induction text generalizing content with
  | nil =>
    have hparts := splitRaw_append name ([] ++ back)
    rw [h, List.nil_append, ← List.append_assoc, List.append_left_eq_self] at hparts
    obtain ⟨rfl, rfl⟩ := List.append_eq_nil_iff.mp hparts
    rfl
  | cons c rest ih =>
    rw [List.cons_append, splitRaw] at h
    rw [splitRaw]
    split at h
    · rename_i hstarts
      obtain ⟨rfl, hleft⟩ := Prod.mk.inj h
      rw [← List.cons_append] at hleft hstarts
      rw [if_pos (startsEndOf_cut hname hcut (List.cons_ne_nil c rest) hstarts),
        List.append_cancel_right hleft]
    · rename_i hstarts
      have hnot : ¬startsEndOf name (c :: rest) = true := fun hpart =>
        hstarts (startsEndOf_append hpart back)
      obtain ⟨rfl, hleft⟩ := Prod.mk.inj h
      have hrest := ih (Cuttable.of_append [c] hcut) (Prod.ext rfl hleft)
      rw [if_neg hnot, hrest]

end

theorem isLower_of_isRawText {name : String} (h : isRawText name = true) :
    ∀ c ∈ name.toLower.toList, c.isLower = true := by
  obtain ⟨raw, hraw, hsame⟩ := List.any_eq_true.mp h
  have hall : (rawTextElements.all fun raw => raw.toLower.toList.all Char.isLower) = true := by
    decide +kernel
  rw [← beq_iff_eq.mp hsame]
  exact List.all_eq_true.mp (List.all_eq_true.mp hall raw hraw)

theorem gt_notMem_of_isRawText {name : String} (h : isRawText name = true) :
    '>' ∉ name.toLower.toList := fun hmem => by
  cases isLower_of_isRawText h '>' hmem

section
variable {c : Char} {rest back left content text : List Char} {token : Token}

theorem splitAfter_cut (hcut : Cuttable text)
    (h : splitAfter token (text ++ back) = (content, left ++ back)) :
    splitAfter token text = (content, left) := by
  cases token with
  | startTag tag source =>
    rw [splitAfter] at h ⊢
    split at h
    · rename_i hraw
      have hname := gt_notMem_of_isRawText (Bool.and_eq_true_iff.mp hraw).1
      rw [if_pos hraw, splitRaw_cut hname hcut h]
    · rename_i hraw
      obtain ⟨rfl, hleft⟩ := Prod.mk.inj h
      rw [if_neg hraw, List.append_cancel_right hleft]
  | text | comment | declaration | endTag =>
    obtain ⟨rfl, hleft⟩ := Prod.mk.inj h
    exact congrArg (Prod.mk []) (List.append_cancel_right hleft)

theorem dropWhile_cut {p : Char → Bool} (h : (text ++ back).dropWhile p = left ++ back) :
    (text ++ back).takeWhile p = text.takeWhile p ∧ text.dropWhile p = left := by
  obtain ⟨front, stop, htext, hfront, hstop⟩ := exists_stop p (text ++ back)
  rw [htext, dropWhile_append_stop hfront hstop] at h
  subst h
  rw [← List.append_assoc] at htext
  obtain rfl := List.append_cancel_right htext
  have hleft : ∀ d ∈ left.head?, p d = false := fun d hd => hstop d (by rw [List.head?_append, hd]; rfl)
  rw [List.append_assoc, takeWhile_append_stop hfront hstop, takeWhile_append_stop hfront hleft,
    dropWhile_append_stop hfront hleft]
  exact ⟨rfl, rfl⟩

theorem upTo_cut (text back left : List Char) :
    upTo (text ++ back) (left ++ back) = upTo text left := by
  rw [upTo, upTo, List.length_append, List.length_append, Nat.add_sub_add_right,
    List.take_append_of_le_length (Nat.sub_le ..)]

theorem readToken_cut (h : readToken c (rest ++ back) = (token, left ++ back)) :
    readToken c rest = (token, left) := by
  have hend := local_readEndTag?.none_of_append (c :: rest) back
  have hstart := local_readStartTag?.none_of_append (c :: rest) back
  have hdeclaration := local_afterDeclaration?.none_of_append (c :: rest) back
  unfold readToken at h ⊢
  simp only [← List.cons_append] at h
  by_cases hcomment : commentStart.isPrefixOf (c :: rest ++ back) = true
  · rw [if_pos hcomment] at h
    obtain ⟨rfl, hleft⟩ := Prod.mk.inj h
    obtain ⟨hcomment, hafter⟩ := afterComment_cut hcomment hleft
    simp only [if_pos hcomment, hleft, hafter, upTo_cut]
  · have hcomment' : ¬commentStart.isPrefixOf (c :: rest) = true := fun hpart =>
      hcomment (isPrefixOf_append hpart back)
    rw [if_neg hcomment] at h
    simp only [if_neg hcomment']
    split at h
    · rename_i name left' hread
      obtain ⟨rfl, rfl⟩ := Prod.mk.inj h
      simp only [local_readEndTag?.cut hread, upTo_cut]
    · rename_i hnone
      rw [hend hnone]
      split at h
      · rename_i tag left' hread
        obtain ⟨rfl, rfl⟩ := Prod.mk.inj h
        simp only [local_readStartTag?.cut hread, upTo_cut]
      · rename_i hnone
        rw [hstart hnone]
        split at h
        · rename_i left' hread
          obtain ⟨rfl, rfl⟩ := Prod.mk.inj h
          have hmap : (afterDeclaration? (c :: rest ++ back)).map ((), ·) = some ((), left ++ back) := by
            rw [hread]
            rfl
          have hcut := local_afterDeclaration?.cut hmap
          obtain ⟨_, hleft, heq⟩ := Option.map_eq_some_iff.mp hcut
          cases heq
          simp only [hleft, upTo_cut]
        · rename_i hnone
          obtain ⟨rfl, hleft⟩ := Prod.mk.inj h
          obtain ⟨htake, hdrop⟩ := dropWhile_cut hleft
          simp only [Option.map_eq_none_iff.mp (hdeclaration (by rw [hnone]; rfl)), htake, hdrop]

end

/-- Reading a text from its start gives tokens and leaves a rest. Raw text is read together with the
tag before it. -/
inductive Reads : List Char → List Token → List Char → Prop
  | nil (text : List Char) : Reads text [] text
  | cons {c : Char} {rest after content behind left : List Char} {token : Token} {ts : List Token}
      (htoken : readToken c rest = (token, after)) (hraw : splitAfter token after = (content, behind))
      (h : Reads behind ts left) : Reads (c :: rest) (token :: (textToken content ++ ts)) left

theorem tokens_cons {c : Char} {rest after content behind : List Char} {token : Token}
    (htoken : readToken c rest = (token, after)) (hraw : splitAfter token after = (content, behind)) :
    tokens (c :: rest) = token :: (textToken content ++ tokens behind) := by
  rw [tokens]
  simp only [htoken, hraw]

theorem source_append_of_readToken {c : Char} {rest after content behind : List Char} {token : Token}
    (htoken : readToken c rest = (token, after)) (hraw : splitAfter token after = (content, behind)) :
    c :: rest = token.source ++ content ++ behind := by
  have hsource := source_readToken c rest
  have hafter := splitAfter_append token after
  rw [htoken] at hsource
  rw [hraw] at hafter
  rw [← hsource, ← hafter, List.append_assoc]

namespace Reads

variable {text middle left : List Char} {ts us : List Token}

theorem append (h : Reads text ts middle) (h' : Reads middle us left) : Reads text (ts ++ us) left := by
  induction h with
  | nil => exact h'
  | cons htoken hraw _ ih =>
    rw [List.cons_append, List.append_assoc]
    exact .cons htoken hraw (ih h')

theorem eq_append (h : Reads text ts left) : text = ts.flatMap Token.source ++ left := by
  induction h with
  | nil => rfl
  | cons htoken hraw _ ih =>
    rw [source_append_of_readToken htoken hraw, ih, List.flatMap_cons, List.flatMap_append,
      sources_textToken]
    simp only [List.append_assoc]

theorem exists_of_cons {c : Char} {rest after content behind front : List Char} {token : Token}
    (htext : front ++ left = c :: rest) (htoken : readToken c rest = (token, after))
    (hraw : splitAfter token after = (content, behind)) (hrest : Reads behind ts left) :
    ∃ front' back, front = c :: front' ∧ rest = front' ++ left ∧ after = (content ++ back) ++ left ∧
      behind = back ++ left := by
  have hbehind := hrest.eq_append
  generalize ts.flatMap Token.source = back at hbehind
  subst hbehind
  have hafter := splitAfter_append token after
  have hlength := (readToken_suffix c rest).length_le
  rw [hraw] at hafter
  dsimp only at hafter
  rw [htoken, ← hafter] at hlength
  cases front with
  | nil =>
    rw [List.nil_append] at htext
    simp only [htext, List.length_append, List.length_cons] at hlength
    omega
  | cons d front =>
    obtain ⟨rfl, rfl⟩ := List.cons.inj htext
    exact ⟨front, back, rfl, rfl, by rw [← hafter, List.append_assoc], rfl⟩

theorem tokens {front : List Char} (h : Reads (front ++ left) ts left) (hcut : Cuttable front) :
    tokens front = ts := by
  generalize htext : front ++ left = text at h
  induction h generalizing front with
  | nil text =>
    obtain rfl : front = [] := (List.append_left_inj text).mp htext
    rw [Document.tokens]
  | @cons c rest after content behind left token ts htoken hraw hrest ih =>
    obtain ⟨front, back, rfl, rfl, rfl, rfl⟩ := exists_of_cons htext htoken hraw hrest
    have hfront : c :: front = token.source ++ (content ++ back) := by
      refine (List.append_left_inj left).mp ?_
      rw [List.cons_append, source_append_of_readToken htoken hraw]
      simp only [List.append_assoc]
    rw [hfront] at hcut
    have hcut := hcut.of_append token.source
    rw [tokens_cons (readToken_cut htoken) (splitAfter_cut hcut hraw), ih (hcut.of_append content) rfl]

end Reads

end HtmlComponents.Document
