import HtmlComponents.Text.Percent

/-!
# Percent-encoded text

Decoding undoes encoding (`decode_encode`), and encoding writes unreserved characters and escapes alone
(`of_mem_encode`).
-/

namespace HtmlComponents.Text.Percent

theorem isUnreserved_bounds {b : UInt8} (h : isUnreserved b = true) : b.toNat < 128 ∧ b ≠ 37 := by
  have hall : ∀ n < 256, isUnreserved (UInt8.ofNat n) = true → n < 128 ∧ n ≠ 37 := by decide +kernel
  have hb := hall b.toNat b.toNat_lt (by rwa [UInt8.ofNat_toNat])
  refine ⟨hb.1, ?_⟩
  rintro rfl
  exact hb.2 rfl

theorem utf8EncodeChar_of_isUnreserved {b : UInt8} (h : isUnreserved b = true) :
    String.utf8EncodeChar (Char.ofNat b.toNat) = [b] := by
  have hall : ∀ n < 128, String.utf8EncodeChar (Char.ofNat n) = [UInt8.ofNat n] := by decide +kernel
  rw [hall b.toNat (isUnreserved_bounds h).1, UInt8.ofNat_toNat]

theorem toNat_of_mem_utf8EncodeChar {c : Char} {b : UInt8} (h : b ∈ String.utf8EncodeChar c)
    (hb : b.toNat < 128) : b.toNat = c.toNat := by
  have hval : c.val.toNat = c.toNat := rfl
  unfold String.utf8EncodeChar at h
  dsimp only at h
  split at h
  · rw [List.mem_singleton.mp h, UInt8.toNat_ofNat']
    omega
  · -- the bytes of a longer form are 128 at least
    split at h
    · simp only [List.mem_cons, List.not_mem_nil, or_false] at h
      rcases h with rfl | rfl <;> rw [UInt8.toNat_ofNat'] at hb <;> omega
    · split at h <;> simp only [List.mem_cons, List.not_mem_nil, or_false] at h
      · rcases h with rfl | rfl | rfl <;> rw [UInt8.toNat_ofNat'] at hb <;> omega
      · rcases h with rfl | rfl | rfl | rfl <;> rw [UInt8.toNat_ofNat'] at hb <;> omega

theorem percent_notMem_utf8EncodeChar {c : Char} (h : c ≠ '%') : 37 ∉ String.utf8EncodeChar c :=
  fun hmem => h (Char.toNat_inj.mp (toNat_of_mem_utf8EncodeChar hmem (by decide)).symm)

theorem hexValue?_hexDigit : ∀ n < 16,
    String.utf8EncodeChar (hexDigit n) = [UInt8.ofNat (hexDigit n).toNat] ∧
      hexValue? (UInt8.ofNat (hexDigit n).toNat) = some (UInt8.ofNat n) := by decide

theorem isAlphanum_hexDigit : ∀ n < 16, (hexDigit n).isAlphanum = true := by decide

theorem decodeBytes_cons_of_ne {b : UInt8} (h : b ≠ 37) (rest : List UInt8) :
    decodeBytes (b :: rest) = b :: decodeBytes rest := by
  rw [decodeBytes.eq_def]
  simp only [if_neg h]

theorem decodeBytes_append_of_notMem {bytes : List UInt8} (h : 37 ∉ bytes) (rest : List UInt8) :
    decodeBytes (bytes ++ rest) = bytes ++ decodeBytes rest := by
  induction bytes with
  | nil => rfl
  | cons b more ih =>
    rw [List.mem_cons, not_or] at h
    rw [List.cons_append, decodeBytes_cons_of_ne (Ne.symm h.1), ih h.2, List.cons_append]

theorem decodeBytes_escape {high low h l : UInt8} (hh : hexValue? high = some h)
    (hl : hexValue? low = some l) (rest : List UInt8) :
    decodeBytes (37 :: high :: low :: rest) = (16 * h + l) :: decodeBytes rest := by
  rw [decodeBytes.eq_def]
  simp only [if_true, hh, hl]

theorem ofNat_div_mod (b : UInt8) : 16 * UInt8.ofNat (b.toNat / 16) + UInt8.ofNat (b.toNat % 16) = b := by
  have hb : b.toNat < 256 := b.toNat_lt
  apply UInt8.toNat_inj.mp
  simp only [UInt8.toNat_add, UInt8.toNat_mul, UInt8.toNat_ofNat']
  show (16 * (b.toNat / 16 % 256) % 256 + b.toNat % 16 % 256) % 256 = b.toNat
  omega

theorem decodeBytes_encodeByte (b : UInt8) (rest : List UInt8) :
    decodeBytes ((encodeByte b).flatMap String.utf8EncodeChar ++ rest) = b :: decodeBytes rest := by
  unfold encodeByte
  split
  · rename_i hunreserved
    rw [List.flatMap_singleton, utf8EncodeChar_of_isUnreserved hunreserved]
    exact decodeBytes_cons_of_ne (isUnreserved_bounds hunreserved).2 rest
  · have hb : b.toNat < 256 := b.toNat_lt
    obtain ⟨hhigh, hh⟩ := hexValue?_hexDigit (b.toNat / 16) (by omega)
    obtain ⟨hlow, hl⟩ := hexValue?_hexDigit (b.toNat % 16) (by omega)
    have hpercent : String.utf8EncodeChar '%' = [37] := by decide
    simp only [List.flatMap_cons, List.flatMap_nil, hpercent, hhigh, hlow, List.append_nil,
      List.cons_append, List.nil_append]
    rw [decodeBytes_escape hh hl, ofNat_div_mod]

theorem decodeBytes_flatMap_encodeByte (bytes : List UInt8) :
    decodeBytes ((bytes.flatMap encodeByte).flatMap String.utf8EncodeChar) = bytes := by
  induction bytes with
  | nil => rfl
  | cons b rest ih =>
    rw [List.flatMap_cons, List.flatMap_append, decodeBytes_encodeByte, ih]

theorem decode_of_decodeBytes {text written : String}
    (h : decodeBytes (written.toList.flatMap String.utf8EncodeChar) = text.toList.flatMap String.utf8EncodeChar) :
    decode written = text := by
  have htext : (text.toList.flatMap String.utf8EncodeChar).toByteArray = text.toByteArray := by
    rw [← String.ofList_toList (s := text), String.toByteArray_ofList, String.toList_ofList]
    rfl
  have hread : decode? written = some text := by
    rw [decode?, h, htext, String.fromUTF8?, dif_pos text.isValidUTF8]
    rfl
  rw [decode, hread]
  rfl

/-- Decoding gives back the text that was encoded. -/
theorem decode_encode (text : String) : decode (encode text) = text := by
  refine decode_of_decodeBytes ?_
  rw [encode, String.toList_ofList, ← List.flatMap_assoc, decodeBytes_flatMap_encodeByte]

theorem of_mem_encodeByte {b : UInt8} {c : Char} (h : c ∈ encodeByte b) :
    c.isAlphanum = true ∨ c ∈ ['-', '.', '_', '~', '%'] := by
  unfold encodeByte at h
  split at h
  · rename_i hunreserved
    rw [List.mem_singleton.mp h]
    simp only [isUnreserved, Bool.or_eq_true, beq_iff_eq] at hunreserved
    rcases hunreserved with (((h | h) | h) | h) | h
    · exact .inl h
    · exact .inr (by simp [h])
    · exact .inr (by simp [h])
    · exact .inr (by simp [h])
    · exact .inr (by simp [h])
  · have hb : b.toNat < 256 := b.toNat_lt
    simp only [List.mem_cons, List.not_mem_nil, or_false] at h
    rcases h with rfl | rfl | rfl
    · exact .inr (by decide)
    · exact .inl (isAlphanum_hexDigit _ (by omega))
    · exact .inl (isAlphanum_hexDigit _ (by omega))

theorem of_mem_encode {text : String} {c : Char} (h : c ∈ (encode text).toList) :
    c.isAlphanum = true ∨ c ∈ ['-', '.', '_', '~', '%'] := by
  rw [encode, String.toList_ofList] at h
  obtain ⟨d, -, hd⟩ := List.mem_flatMap.mp h
  obtain ⟨b, -, hb⟩ := List.mem_flatMap.mp hd
  exact of_mem_encodeByte hb

theorem encodeByte_ne_nil (b : UInt8) : encodeByte b ≠ [] := by
  unfold encodeByte
  split <;> exact List.cons_ne_nil _ _

theorem toList_encode_ne_nil {text : String} (h : text ≠ "") : (encode text).toList ≠ [] := by
  obtain ⟨c, rest, hcons⟩ := List.exists_cons_of_ne_nil (mt String.toList_eq_nil_iff.mp h)
  obtain ⟨b, bytes, hbytes⟩ := List.exists_cons_of_ne_nil (String.utf8EncodeChar_ne_nil (c := c))
  rw [encode, String.toList_ofList, hcons, List.flatMap_cons, hbytes, List.flatMap_cons]
  intro hnil
  rw [List.append_assoc] at hnil
  exact encodeByte_ne_nil b (List.append_eq_nil_iff.mp hnil).1

theorem decodeBytes_ne_nil {bytes : List UInt8} (h : bytes ≠ []) : decodeBytes bytes ≠ [] := by
  fun_cases decodeBytes bytes with
  | case1 => exact absurd rfl h
  | case2 | case3 | case4 | case5 => exact List.cons_ne_nil _ _

theorem decode_ne_empty {text : String} (h : text ≠ "") : decode text ≠ "" := by
  rw [decode]
  cases hread : decode? text with
  | none => exact h
  | some value =>
    rintro rfl
    obtain ⟨c, rest, hcons⟩ := List.exists_cons_of_ne_nil (mt String.toList_eq_nil_iff.mp h)
    have hchars : text.toList.flatMap String.utf8EncodeChar ≠ [] := by
      rw [hcons, List.flatMap_cons]
      exact List.append_ne_nil_of_left_ne_nil String.utf8EncodeChar_ne_nil _
    rw [decode?, String.fromUTF8?] at hread
    split at hread
    · have hbytes := congrArg String.toByteArray (Option.some.inj hread)
      have hsize : (decodeBytes (text.toList.flatMap String.utf8EncodeChar)).toByteArray.size = 0 :=
        congrArg ByteArray.size hbytes
      rw [List.size_toByteArray] at hsize
      exact decodeBytes_ne_nil hchars (List.length_eq_zero_iff.mp hsize)
    · cases hread

end HtmlComponents.Text.Percent
