import HtmlComponents.Proofs.OrderedMap
import HtmlComponents.Proofs.Text.Percent
import HtmlComponents.Proofs.Text.Pieces
import HtmlComponents.Route.Query
import Mathlib.Data.List.Basic

/-!
# Queries read back

However the pairs of a query are written, with signs as they are or as escapes, with or without an equals sign
before an empty value and with empty parts between them, the query reads as the first value of each name
(`parseQuery_spelled`). Encoded texts are among what may be written (`Spells.encodeWords`).
-/

namespace HtmlComponents.Route

open Text.Percent (decodeBytes encode hexDigit hexValue? isUnreserved)

/-- A hexadecimal digit in either case, by its value. -/
def IsHexDigit (value : Nat) (c : Char) : Prop := c = hexDigit value ∨ c = (hexDigit value).toLower

/-- Bytes and how they may be written in a query: a character for its bytes, unless it has another meaning there, a
plus sign for a space, and an escape for any byte. -/
inductive Spells : List UInt8 → List Char → Prop
  | nil : Spells [] []
  | plain {c : Char} {bytes : List UInt8} {written : List Char} (hc : c ∉ ['&', '+', '%'])
      (h : Spells bytes written) : Spells (String.utf8EncodeChar c ++ bytes) (c :: written)
  | space {bytes : List UInt8} {written : List Char} (h : Spells bytes written) :
      Spells (32 :: bytes) ('+' :: written)
  | escape {b : UInt8} {high low : Char} {bytes : List UInt8} {written : List Char}
      (hhigh : IsHexDigit (b.toNat / 16) high) (hlow : IsHexDigit (b.toNat % 16) low)
      (h : Spells bytes written) : Spells (b :: bytes) ('%' :: high :: low :: written)

/-- A text may be written so. -/
def SpellsText (text : String) (written : List Char) : Prop :=
  Spells (text.toList.flatMap String.utf8EncodeChar) written

/-- A pair may be written so: an equals sign, the first one, stands between the name and the value. It may be
missing before an empty value, but not where that would leave nothing. -/
inductive SpellsPair : String × String → List Char → Prop
  | assigned {name value : String} {front back : List Char} (hname : SpellsText name front) (heq : '=' ∉ front)
      (hvalue : SpellsText value back) : SpellsPair (name, value) (front ++ '=' :: back)
  | bare {name : String} {front : List Char} (hname : SpellsText name front) (heq : '=' ∉ front)
      (hne : front ≠ []) : SpellsPair (name, "") front

/-- Pairs may be written as parts of a query, with empty parts anywhere among them. -/
inductive SpellsParts : List (String × String) → List (List Char) → Prop
  | nil : SpellsParts [] []
  | gap {pairs : List (String × String)} {parts : List (List Char)} (h : SpellsParts pairs parts) :
      SpellsParts pairs ([] :: parts)
  | pair {pair : String × String} {part : List Char} {pairs : List (String × String)} {parts : List (List Char)}
      (hpair : SpellsPair pair part) (h : SpellsParts pairs parts) : SpellsParts (pair :: pairs) (part :: parts)

/-- Encoded words with plus signs between them. -/
def encodeWords (words : List String) : List Char :=
  ['+'].intercalate (words.map fun word => (encode word).toList)

theorem hexValue?_of_isHexDigit {n : Nat} {c : Char} (hn : n < 16) (h : IsHexDigit n c) :
    String.utf8EncodeChar c = [UInt8.ofNat c.toNat] ∧ hexValue? (UInt8.ofNat c.toNat) = some (UInt8.ofNat n) ∧
      c ≠ '&' ∧ c ≠ '+' := by
  have hall : ∀ n < 16, [hexDigit n, (hexDigit n).toLower].all (fun c =>
      String.utf8EncodeChar c = [UInt8.ofNat c.toNat] ∧
        hexValue? (UInt8.ofNat c.toNat) = some (UInt8.ofNat n) ∧ c ≠ '&' ∧ c ≠ '+') = true := by decide
  exact of_decide_eq_true (List.all_eq_true.mp (hall n hn) c (List.mem_pair.mpr h))

namespace Spells

variable {bytes others : List UInt8} {written more : List Char}

theorem append (h : Spells bytes written) (h' : Spells others more) :
    Spells (bytes ++ others) (written ++ more) := by
  induction h with
  | nil => exact h'
  | plain hc _ ih =>
    rw [List.append_assoc]
    exact .plain hc ih
  | space _ ih => exact .space ih
  | escape hhigh hlow _ ih => exact .escape hhigh hlow ih

theorem amp_notMem (h : Spells bytes written) : '&' ∉ written := by
  induction h with
  | nil => exact List.not_mem_nil
  | plain hc _ ih =>
    simp only [List.mem_cons, not_or] at hc ⊢
    exact ⟨Ne.symm hc.1, ih⟩
  | space _ ih =>
    rw [List.mem_cons, not_or]
    exact ⟨by decide, ih⟩
  | @escape b high low _ _ hhigh hlow _ ih =>
    have hb := b.toNat_lt
    obtain ⟨-, -, hhigh, -⟩ := hexValue?_of_isHexDigit (by omega) hhigh
    obtain ⟨-, -, hlow, -⟩ := hexValue?_of_isHexDigit (by omega) hlow
    simp only [List.mem_cons, not_or]
    exact ⟨by decide, Ne.symm hhigh, Ne.symm hlow, ih⟩

/-- What is written for bytes is read as those bytes, once plus signs are taken for spaces. -/
theorem decodeBytes_eq (h : Spells bytes written) :
    decodeBytes ((written.map fun c => if c = '+' then ' ' else c).flatMap String.utf8EncodeChar) = bytes := by
  induction h with
  | nil => rfl
  | @plain c _ _ hc _ ih =>
    simp only [List.mem_cons, List.not_mem_nil, or_false, not_or] at hc
    rw [List.map_cons, if_neg hc.2.1, List.flatMap_cons,
      Text.Percent.decodeBytes_append_of_notMem (Text.Percent.percent_notMem_utf8EncodeChar hc.2.2), ih]
  | space _ ih =>
    rw [List.map_cons, if_pos rfl, List.flatMap_cons, Text.Percent.decodeBytes_append_of_notMem (by decide), ih]
    rfl
  | @escape b high low _ _ hhigh hlow _ ih =>
    have hb := b.toNat_lt
    obtain ⟨hutf8, hvalue, -, hplus⟩ := hexValue?_of_isHexDigit (by omega) hhigh
    obtain ⟨hutf8', hvalue', -, hplus'⟩ := hexValue?_of_isHexDigit (by omega) hlow
    have hpercent : String.utf8EncodeChar '%' = [37] := by decide
    rw [List.map_cons, List.map_cons, List.map_cons, if_neg (by decide), if_neg hplus, if_neg hplus',
      List.flatMap_cons, List.flatMap_cons, List.flatMap_cons, hpercent, hutf8, hutf8']
    exact (Text.Percent.decodeBytes_escape hvalue hvalue' _).trans
      (congrArg₂ List.cons (Text.Percent.ofNat_div_mod b) ih)

theorem encodeByte (b : UInt8) (h : Spells bytes written) :
    Spells (b :: bytes) (Text.Percent.encodeByte b ++ written) := by
  have hplain : ∀ n < 256, isUnreserved (UInt8.ofNat n) = true → Char.ofNat n ∉ ['&', '+', '%'] := by
    decide +kernel
  unfold Text.Percent.encodeByte
  split
  · rename_i hunreserved
    have hc := hplain b.toNat b.toNat_lt (by rwa [UInt8.ofNat_toNat])
    have hbyte := Spells.plain hc h
    rwa [Text.Percent.utf8EncodeChar_of_isUnreserved hunreserved] at hbyte
  · exact .escape (.inl rfl) (.inl rfl) h

theorem flatMap_encodeByte (bytes : List UInt8) : Spells bytes (bytes.flatMap Text.Percent.encodeByte) := by
  induction bytes with
  | nil => exact .nil
  | cons b rest ih => exact ih.encodeByte b

end Spells

namespace SpellsText

variable {text : String} {written : List Char}

theorem decodeField_eq (h : SpellsText text written) : decodeField written = text := by
  refine Text.Percent.decode_of_decodeBytes ?_
  rw [String.toList_ofList]
  exact h.decodeBytes_eq

theorem encode (text : String) : SpellsText text (Text.Percent.encode text).toList := by
  rw [SpellsText, Text.Percent.encode, String.toList_ofList, ← List.flatMap_assoc]
  exact Spells.flatMap_encodeByte _

theorem encodeWords (words : List String) : SpellsText (" ".intercalate words) (encodeWords words) := by
  rw [SpellsText, String.toList_intercalate, Route.encodeWords]
  induction words with
  | nil => exact .nil
  | cons word rest ih =>
    cases rest with
    | nil =>
      simp only [List.map_cons, List.map_nil, List.intercalate_singleton]
      exact encode word
    | cons next rest =>
      simp only [List.map_cons, List.intercalate_cons_cons, List.flatMap_append] at ih ⊢
      exact ((encode word).append (.space .nil)).append ih

end SpellsText

theorem eq_notMem_encodeWords (words : List String) : '=' ∉ encodeWords words := by
  intro hmem
  rcases Text.mem_intercalate hmem with hplus | ⟨written, hwritten, hmem⟩
  · exact absurd hplus (by decide)
  · obtain ⟨word, -, rfl⟩ := List.mem_map.mp hwritten
    exact absurd (Text.Percent.of_mem_encode hmem) (by decide)

theorem SpellsPair.decodePair_eq {pair : String × String} {part : List Char} (h : SpellsPair pair part) :
    decodePair part = pair := by
  cases h with
  | assigned hname heq hvalue =>
    rw [decodePair, Text.before_append_cons heq, Text.after_append_cons heq, hname.decodeField_eq,
      hvalue.decodeField_eq]
  | bare hname heq hne =>
    have hempty : SpellsText "" [] := .nil
    rw [decodePair, Text.before_of_notMem heq, Text.after_of_notMem heq, hname.decodeField_eq,
      hempty.decodeField_eq]

theorem SpellsPair.amp_notMem {pair : String × String} {part : List Char} (h : SpellsPair pair part) :
    '&' ∉ part := by
  cases h with
  | assigned hname _ hvalue =>
    rw [List.mem_append, List.mem_cons, not_or, not_or]
    exact ⟨Spells.amp_notMem hname, by decide, Spells.amp_notMem hvalue⟩
  | bare hname _ _ => exact Spells.amp_notMem hname

theorem SpellsPair.ne_nil {pair : String × String} {part : List Char} (h : SpellsPair pair part) : part ≠ [] := by
  cases h with
  | assigned _ _ _ => exact List.append_ne_nil_of_right_ne_nil _ (List.cons_ne_nil _ _)
  | bare _ _ hne => exact hne

namespace SpellsParts

variable {pairs : List (String × String)} {parts : List (List Char)}

theorem amp_notMem (h : SpellsParts pairs parts) : ∀ part ∈ parts, '&' ∉ part := by
  induction h with
  | nil => exact List.forall_mem_nil _
  | gap _ ih => exact List.forall_mem_cons.mpr ⟨List.not_mem_nil, ih⟩
  | pair hpair _ ih => exact List.forall_mem_cons.mpr ⟨hpair.amp_notMem, ih⟩

theorem map_decodePair (h : SpellsParts pairs parts) :
    (parts.filter fun part => !part.isEmpty).map decodePair = pairs := by
  induction h with
  | nil => rfl
  | gap _ ih => exact ih
  | pair hpair _ ih =>
    rw [List.filter_cons_of_pos (by simpa using hpair.ne_nil), List.map_cons, hpair.decodePair_eq, ih]

end SpellsParts

theorem parseQuery_intercalate {parts : List (List Char)} (h : ∀ part ∈ parts, '&' ∉ part) :
    parseQuery (String.ofList (['&'].intercalate parts)) =
      OrderedMap.ofListFirst ((parts.filter fun part => !part.isEmpty).map decodePair) := by
  rw [parseQuery, String.toList_ofList]
  cases parts with
  | nil => rfl
  | cons part rest => rw [Text.pieces_intercalate h]

/-- One part more gives its name a value, unless the name has one already, however it was written there. -/
theorem parseQuery_append (query : String) {part : List Char} (hamp : '&' ∉ part) (hne : part ≠ []) :
    parseQuery (String.ofList (query.toList ++ '&' :: part)) =
      (parseQuery query).insertNew (decodePair part).1 (decodePair part).2 := by
  have hpart : [part].filter (fun part => !part.isEmpty) = [part] :=
    List.filter_cons_of_pos (by simpa using hne)
  rw [parseQuery, String.toList_ofList, Text.pieces_append_separator, Text.pieces_of_notMem hamp,
    List.filter_append, hpart, List.map_append, OrderedMap.ofListFirst_append, OrderedMap.insertNew_eq_union]
  rfl

/-- Reading a query undoes writing it: of the pairs that were written, in whatever spelling, each name has its first
value, and the names stand in the order in which they were written first. A text may be written as its words
encoded, with a plus sign for each space between them. A name that is there already, in whatever spelling, changes
nothing. -/
theorem parseQuery_spelled :
    (∀ pairs parts, SpellsParts pairs parts →
      let read := parseQuery (String.ofList (['&'].intercalate parts))
      read.keys = (pairs.map Prod.fst).eraseDups ∧ ∀ name, read.get? name = pairs.lookup name) ∧
    (∀ words : List String, SpellsText (" ".intercalate words) (encodeWords words) ∧ '=' ∉ encodeWords words) ∧
    ∀ (query : String) (name value : List Char), '&' ∉ name → '=' ∉ name → '&' ∉ value →
      decodeField name ∈ (parseQuery query).keys →
        parseQuery (String.ofList (query.toList ++ '&' :: (name ++ '=' :: value))) = parseQuery query := by
  refine ⟨fun pairs parts h => ?_, fun words => ⟨SpellsText.encodeWords words, eq_notMem_encodeWords words⟩,
    fun query name value hname heq hvalue hmem => ?_⟩
  · dsimp only
    rw [parseQuery_intercalate h.amp_notMem, h.map_decodePair]
    exact ⟨OrderedMap.keys_ofListFirst pairs, OrderedMap.get?_ofListFirst pairs⟩
  · have hamp : '&' ∉ name ++ '=' :: value := by simp [hname, hvalue]
    have hread : (decodePair (name ++ '=' :: value)).1 = decodeField name := by
      rw [decodePair, Text.before_append_cons heq]
    rw [parseQuery_append query hamp (List.append_ne_nil_of_right_ne_nil _ (List.cons_ne_nil _ _)),
      OrderedMap.insertNew_of_mem (hread ▸ hmem)]

/-- A name in three spellings, with an empty part before the last, and an empty name behind it. -/
theorem parseQuery_spelled_names :
    let parts := ["a%6a=x+y", "aj", "", "%61j=z", "==%26"].map String.toList
    SpellsParts [("aj", "x y"), ("aj", ""), ("aj", "z"), ("", "=&")] parts ∧
      String.ofList (['&'].intercalate parts) = "a%6a=x+y&aj&&%61j=z&==%26" ∧
      (parseQuery "a%6a=x+y&aj&&%61j=z&==%26").keys = ["aj", ""] ∧
      (parseQuery "a%6a=x+y&aj&&%61j=z&==%26").get? "aj" = some "x y" ∧
      (parseQuery "a%6a=x+y&aj&&%61j=z&==%26").get? "" = some "=&" := by
  intro parts
  have hlast : SpellsText "aj" "a%6a".toList :=
    .plain (by decide) (.escape (b := 106) (.inl rfl) (.inr rfl) .nil)
  have hplain : SpellsText "aj" "aj".toList := .plain (by decide) (.plain (by decide) .nil)
  have hfirst : SpellsText "aj" "%61j".toList :=
    .escape (b := 97) (.inl rfl) (.inl rfl) (.plain (by decide) .nil)
  have hwords : SpellsText "x y" "x+y".toList := .plain (by decide) (.space (.plain (by decide) .nil))
  have hletter : SpellsText "z" "z".toList := .plain (by decide) .nil
  have hempty : SpellsText "" [] := .nil
  have hsigns : SpellsText "=&" "=%26".toList :=
    .plain (by decide) (.escape (b := 38) (.inl rfl) (.inl rfl) .nil)
  have hparts : SpellsParts [("aj", "x y"), ("aj", ""), ("aj", "z"), ("", "=&")] parts :=
    .pair (.assigned hlast (by decide) hwords) <| .pair (.bare hplain (by decide) (by decide)) <| .gap <|
      .pair (.assigned hfirst (by decide) hletter) <| .pair (.assigned hempty (by decide) hsigns) .nil
  have hquery : String.ofList (['&'].intercalate parts) = "a%6a=x+y&aj&&%61j=z&==%26" := by decide +kernel
  obtain ⟨hkeys, hget⟩ := parseQuery_spelled.1 _ _ hparts
  rw [hquery] at hkeys hget
  exact ⟨hparts, hquery, hkeys.trans (by decide +kernel), (hget _).trans (by decide +kernel),
    (hget _).trans (by decide +kernel)⟩

end HtmlComponents.Route
