import HtmlComponents.Text.Escape
import HtmlComponents.Text.Reference

/-!
# Escaped text

Escaping leaves no sign that ends a text or a quoted value, and decoding undoes the escaping of a
value (`decode_escapeAttribute`).
-/

namespace HtmlComponents.Text

theorem lt_notMem_escapeTextChar (c : Char) : '<' ∉ escapeTextChar c := by
  unfold escapeTextChar
  split
  · decide
  · decide
  · decide
  · rename_i hlt _
    exact fun h => hlt (List.mem_singleton.mp h).symm

theorem lt_notMem_escapeText (text : List Char) : '<' ∉ text.flatMap escapeTextChar := by
  intro h
  obtain ⟨c, -, hc⟩ := List.mem_flatMap.mp h
  exact lt_notMem_escapeTextChar c hc

theorem escapeTextChar_ne_nil (c : Char) : escapeTextChar c ≠ [] := by
  unfold escapeTextChar
  split <;> exact List.cons_ne_nil _ _

theorem quote_notMem_escapeAttributeChar (c : Char) : '"' ∉ escapeAttributeChar c := by
  unfold escapeAttributeChar
  split
  · decide
  · rename_i hq
    unfold escapeTextChar
    split
    · decide
    · decide
    · decide
    · exact fun h => hq (List.mem_singleton.mp h).symm

theorem quote_notMem_escapeAttribute (text : List Char) :
    '"' ∉ text.flatMap escapeAttributeChar := by
  intro h
  obtain ⟨c, -, hc⟩ := List.mem_flatMap.mp h
  exact quote_notMem_escapeAttributeChar c hc

namespace Reference

theorem decodeChars_cons_of_ne {c : Char} (h : c ≠ '&') (rest : List Char) :
    decodeChars (c :: rest) = c :: decodeChars rest := by
  rw [decodeChars, if_neg h]

theorem decodeChars_reference (body rest : List Char) {c : Char}
    (hbody : body.all isBody = true) (hc : character? body = some c) :
    decodeChars ('&' :: (body ++ ';' :: rest)) = c :: decodeChars rest := by
  have htake : (body ++ ';' :: rest).takeWhile isBody = body := by
    rw [List.takeWhile_append_of_pos (List.all_eq_true.mp hbody), List.takeWhile_cons_of_neg (by decide),
      List.append_nil]
  have hread : read? (body ++ ';' :: rest) = some (c, body.length + 1) := by
    simp only [read?, htake, List.drop_left, hc, Option.map_some]
  have hdrop : (body ++ ';' :: rest).drop (body.length + 1) = rest := by
    rw [List.drop_length_add_append]
    rfl
  rw [decodeChars, if_pos rfl, hread]
  simp only [hdrop]

theorem decodeChars_escapeAttributeChar (c : Char) (rest : List Char) :
    decodeChars (escapeAttributeChar c ++ rest) = c :: decodeChars rest := by
  unfold escapeAttributeChar
  split
  · exact decodeChars_reference ['q', 'u', 'o', 't'] rest (by decide) (by decide +kernel)
  · unfold escapeTextChar
    split
    · exact decodeChars_reference ['a', 'm', 'p'] rest (by decide) (by decide +kernel)
    · exact decodeChars_reference ['l', 't'] rest (by decide) (by decide +kernel)
    · exact decodeChars_reference ['g', 't'] rest (by decide) (by decide +kernel)
    · -- any other character stands for itself, and an ampersand was written as a reference
      rename_i hamp _ _
      exact decodeChars_cons_of_ne hamp rest

theorem decodeChars_escapeAttribute (text : List Char) :
    decodeChars (text.flatMap escapeAttributeChar) = text := by
  induction text with
  | nil => rw [List.flatMap_nil, decodeChars]
  | cons c rest ih => rw [List.flatMap_cons, decodeChars_escapeAttributeChar, ih]

/-- Decoding gives back the value that was escaped. -/
theorem decode_escapeAttribute (text : String) : decode (escapeAttribute text) = text := by
  rw [decode, escapeAttribute, String.toList_ofList, decodeChars_escapeAttribute,
    String.ofList_toList]

end Reference

end HtmlComponents.Text
