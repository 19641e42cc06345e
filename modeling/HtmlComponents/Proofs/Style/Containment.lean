import HtmlComponents.Proofs.Except
import HtmlComponents.Proofs.Style.Balance
import HtmlComponents.Style.Sheet
import Mathlib.Data.List.Basic

/-!
# Rules that keep to themselves

What a style entry leaves open, its rule leaves open, and nothing else does (`closes_ofEntry`). So a
stylesheet is outside strings, comments and braces after each of its rules just if no entry leaves a comment
open (`closes_rules_iff`), as long as the generated classes close what they open.
-/

namespace HtmlComponents.Style

namespace Position

variable {p : Position} {s : List Char}

/-- Behind a blank a text is read from outside, even if a slash stands before it. -/
theorem scan?_space (hp : p.place.region = .outside) (s : List Char) :
    p.scan? (' ' :: s) = Position.scan? ⟨.neutral, p.depth⟩ s := by
  rw [scan?_cons, step?_outside hp (by decide)]
  rfl

end Position

section
variable {text body : List Char}

theorem scan?_braces {p : Position} (hscan : scan? body = some p) (hdepth : p.depth = 0) :
    Position.scan? ⟨.neutral, 1⟩ body = some ⟨p.place, 1⟩ := by
  have h := Position.scan?_raise (p := startOfText) hscan 1
  simpa [startOfText, Position.raise, hdepth] using h

theorem closes_wrapped {name : String} (hname : closes name.toList = true)
    (hbody : isBalanced body = true) : closes (wrapped name body).toList = closes body := by
  obtain ⟨p, hp, hdepth, hregion⟩ := closes_iff.mp hname
  obtain ⟨q, hq, hqdepth, hqregion⟩ := isBalanced_iff.mp hbody
  have hopen : ∀ s, scan? ('.' :: (name.toList ++ ' ' :: '\x7b' :: s)) =
      Position.scan? ⟨.neutral, 1⟩ s := by
    intro s
    have hdot : startOfText.step? '.' = some startOfText := rfl
    rw [← Position.scan?_start, Position.scan?_cons, hdot, Option.bind_some, Position.scan?_append,
      Position.scan?_start, hp, Option.bind_some, Position.scan?_space hregion, hdepth]
    rfl
  by_cases hempty : body = []
  · subst hempty
    have hchars : (wrapped name []).toList = '.' :: (name.toList ++ ' ' :: '\x7b' :: ['\x7d']) := by
      simp [wrapped]
    rw [hchars, closes, hopen]
    rfl
  · have hchars : (wrapped name body).toList =
        '.' :: (name.toList ++ ' ' :: '\x7b' :: (' ' :: (body ++ [' ', '\x7d']))) := by
      simp [wrapped, hempty]
    rw [hchars, closes, hopen, Position.scan?_space rfl, Position.scan?_append,
      scan?_braces hq hqdepth, closes, hq]
    -- the brace at the end closes the block, unless it stands in a comment
    obtain ⟨place, depth⟩ := q
    obtain rfl : depth = 0 := hqdepth
    cases place with
    | neutral | slash => rfl
    | comment star => cases star <;> rfl
    | string quote | escape quote => exact absurd rfl hqregion

theorem closes_declarations {declarations : List Char} (h : declarations? text = some declarations)
    (hbalanced : isBalanced text = true) :
    isBalanced declarations = true ∧ closes declarations = closes text := by
  unfold declarations? at h
  split at h
  · cases h
    exact ⟨hbalanced, rfl⟩
  · split at h
    · rename_i rest _
      split at h
      · rename_i hblock
        obtain ⟨hlast, hinner⟩ := hblock
        cases h
        obtain ⟨p, hscan, hdepth, hregion⟩ := isBalanced_iff.mp hinner
        have hrest : rest = rest.dropLast ++ ['\x7d'] :=
          (List.dropLast_append_getLast? _ hlast).symm
        have htext : scan? ('\x7b' :: rest) = Position.step? ⟨p.place, 1⟩ '\x7d' := by
          have hbrace : startOfText.step? '\x7b' = some ⟨.neutral, 1⟩ := rfl
          rw [hrest, ← Position.scan?_start, Position.scan?_cons, hbrace, Option.bind_some,
            Position.scan?_append, scan?_braces hscan hdepth, Option.bind_some, Position.scan?_cons]
          exact Option.bind_fun_some _
        rw [isBalanced_trimChars, closes_trimChars]
        refine ⟨hinner, ?_⟩
        rw [isBalanced_iff, htext] at hbalanced
        rw [closes, closes, hscan, htext]
        obtain ⟨place, depth⟩ := p
        obtain rfl : depth = 0 := hdepth
        cases place with
        | neutral | slash => rfl
        | comment star =>
          -- a comment that is open before the last brace is open behind it, and the block with it
          obtain ⟨q, hstep, hqdepth, -⟩ := hbalanced
          cases hstep.symm.trans (show _ = some ⟨.comment false, 1⟩ by simp [Position.step?])
          cases hqdepth
        | string quote | escape quote => exact absurd rfl hregion
      · cases h
    · cases h

theorem closes_ofEntry {key : String} (hbalanced : isBalanced text = true)
    (hclass : (Rule.ofEntry key text).isGenerated = true → closes (className key).toList = true) :
    closes (Rule.ofEntry key text).css.toList = closes text := by
  unfold Rule.ofEntry at hclass ⊢
  cases hdeclarations : declarations? text with
  | none => simp
  | some declarations =>
    simp only [hdeclarations] at hclass ⊢
    obtain ⟨hinner, hcloses⟩ := closes_declarations hdeclarations hbalanced
    rw [closes_wrapped (hclass trivial) hinner, hcloses]

end

/-! ### Stylesheets -/

/-- The rule of an entry of a table. -/
def ruleOf (entry : String × String) : Rule :=
  Rule.ofEntry entry.1 (Text.trimChars entry.2.toList)

theorem rules_eq {generated entries : List (String × String)} {rs : List (String × Rule)}
    (h : rules generated entries = .ok rs) :
    rs = entries.map (fun entry => (entry.1, ruleOf entry)) ∧
      ∀ entry ∈ entries, isBalanced entry.2.toList = true := by
  fun_induction rules generated entries generalizing rs with
  | case1 =>
    cases h
    exact ⟨rfl, by simp⟩
  | case2 => cases h
  | case3 => cases h
  | case4 =>
    rename_i hbalanced _ _ _ ih
    obtain ⟨others, hothers, rfl⟩ := exists_of_map_eq_ok h
    obtain ⟨rfl, hrest⟩ := ih hothers
    exact ⟨rfl, List.forall_mem_cons.mpr ⟨by simpa using hbalanced, hrest⟩⟩
  | case5 =>
    rename_i hbalanced _ _ ih
    obtain ⟨others, hothers, rfl⟩ := exists_of_map_eq_ok h
    obtain ⟨rfl, hrest⟩ := ih hothers
    exact ⟨rfl, List.forall_mem_cons.mpr ⟨by simpa using hbalanced, hrest⟩⟩

theorem closes_append_line {s t : List Char} (h : closes s = true) :
    closes (s ++ '\n' :: t) = closes t := by
  obtain ⟨p, hscan, hdepth, hregion⟩ := closes_iff.mp h
  rw [closes, closes, ← Position.scan?_start, Position.scan?_append, Position.scan?_start, hscan,
    Option.bind_some, Position.scan?_cons, Position.step?_outside hregion (by decide), hdepth]
  rfl

theorem closes_intercalate_cons {text : String} (h : closes text.toList = true) (texts : List String) :
    closes ("\n".intercalate (text :: texts)).toList = closes ("\n".intercalate texts).toList := by
  cases texts with
  | nil => exact (congrArg closes (by simp)).trans h
  | cons next texts =>
    rw [String.toList_intercalate, List.map_cons, List.map_cons, List.intercalate_cons_cons,
      List.append_assoc, ← List.map_cons, String.toList_intercalate]
    exact closes_append_line h

/-- Texts on lines of their own are all closed just if any first few of them together are closed. -/
theorem closes_intercalate_iff (texts : List String) :
    (∀ front, front <+: texts → closes ("\n".intercalate front).toList = true) ↔
      ∀ text ∈ texts, closes text.toList = true := by
  induction texts with
  | nil => simp; rfl
  | cons text texts ih =>
    rw [List.forall_mem_cons, ← ih]
    constructor
    · intro h
      have htext : closes text.toList = true := by
        simpa using h [text] (List.prefix_append [text] texts)
      refine ⟨htext, fun front hfront => ?_⟩
      rw [← closes_intercalate_cons htext]
      exact h (text :: front) (List.cons_prefix_cons.mpr ⟨rfl, hfront⟩)
    · rintro ⟨htext, h⟩ front hfront
      rcases List.prefix_cons_iff.mp hfront with rfl | ⟨others, rfl, hothers⟩
      · exact h [] List.nil_prefix
      · rw [closes_intercalate_cons htext]
        exact h others hothers

/-- The rule of an entry of a compiled table closes what it opens just if the entry leaves no comment open. A
generated class has to close what it opens. -/
theorem closes_ruleOf {entry : String × String} (hbalanced : isBalanced entry.2.toList = true)
    (hclass : (ruleOf entry).isGenerated = true → closes (className entry.1).toList = true) :
    closes (ruleOf entry).css.toList = !leavesComment entry.2.toList := by
  have htrimmed : isBalanced (Text.trimChars entry.2.toList) = true := by rw [isBalanced_trimChars, hbalanced]
  rw [ruleOf, closes_ofEntry htrimmed hclass, closes_trimChars, closes_eq_of_isBalanced hbalanced]

/-- The rules of a compiled table keep to themselves, with every first few of them ending outside strings,
comments and braces, just if each rule closes what it opens. Where a generated class closes what it opens, that is
so just if the entry leaves no comment open. -/
theorem closes_rules_iff (table : Table) (sheet : Sheet) (h : compile table = .ok sheet) :
    sheet.css = "\n".intercalate (table.entries.map fun entry => (ruleOf entry).css) ∧
      ((∀ front, front <+: table.entries →
          closes ("\n".intercalate (front.map fun entry => (ruleOf entry).css)).toList = true) ↔
        ∀ entry ∈ table.entries, closes (ruleOf entry).css.toList = true) ∧
      ∀ entry ∈ table.entries,
        ((ruleOf entry).isGenerated = true → closes (className entry.1).toList = true) →
          (closes (ruleOf entry).css.toList = true ↔ leavesComment entry.2.toList = false) := by
  obtain ⟨rs, hrules, rfl⟩ := exists_of_map_eq_ok h
  obtain ⟨rfl, hbalanced⟩ := rules_eq hrules
  refine ⟨by simp [Function.comp_def], ?_, fun entry hentry hclass => ?_⟩
  · have hfronts := closes_intercalate_iff (table.entries.map fun entry => (ruleOf entry).css)
    simp only [List.prefix_map_iff, List.forall_mem_map, forall_exists_index, and_imp] at hfronts
    rw [← hfronts]
    constructor
    · rintro hall _ front hfront rfl
      exact hall front hfront
    · exact fun hall front hfront => hall _ front hfront rfl
  · rw [closes_ruleOf (hbalanced entry hentry) hclass, Bool.not_eq_true']

/-- A block, a rule with a brace in a string, and a block in braces with a comment. -/
def cards : Table :=
  OrderedMap.ofList [("cardTitle", "color: red;"), ("cardNote", ".card::after \x7b content: '\x7d'; \x7d"),
    ("card", " \x7b margin: 0; /* \x7b */ \x7d ")]

theorem closes_rules_iff_cards :
    (∃ sheet, compile cards = .ok sheet) ∧
      (∀ entry ∈ cards.entries, (ruleOf entry).isGenerated = true →
        closes (className entry.1).toList = true) ∧
      ∀ front, front <+: cards.entries →
        closes ("\n".intercalate (front.map fun entry => (ruleOf entry).css)).toList = true := by
  have hcompile : ∃ sheet, compile cards = .ok sheet := ⟨_, rfl⟩
  have hclasses : ∀ entry ∈ cards.entries, (ruleOf entry).isGenerated = true →
      closes (className entry.1).toList = true := by decide +kernel
  have hcomments : ∀ entry ∈ cards.entries, leavesComment entry.2.toList = false := by decide +kernel
  obtain ⟨sheet, hsheet⟩ := hcompile
  obtain ⟨-, hfronts, hentries⟩ := closes_rules_iff cards sheet hsheet
  exact ⟨⟨sheet, hsheet⟩, hclasses, hfronts.mpr fun entry hentry =>
    (hentries entry hentry (hclasses entry hentry)).mpr (hcomments entry hentry)⟩

/-- A comment that is left open takes in the rules behind it. -/
theorem comment_left_open :
    let table : Table :=
      OrderedMap.ofList [("note", "color: red; /* draft"), ("card", "\x7b color: blue; \x7d")]
    ∃ sheet, compile table = .ok sheet ∧
      sheet.css = ".note \x7b color: red; /* draft \x7d\n.card \x7b color: blue; \x7d" ∧
      closes ".note \x7b color: red; /* draft \x7d".toList = false ∧ closes sheet.css.toList = false := by
  refine ⟨_, rfl, by decide +kernel, by decide +kernel, by decide +kernel⟩

/-- The class of a key stands in its rule as it is, and leaves a string open if the key has a quote. -/
theorem class_left_open :
    let table : Table := OrderedMap.ofList [("a\"b", "color: red;"), ("card", "\x7b color: blue; \x7d")]
    ∃ sheet, compile table = .ok sheet ∧
      sheet.css = ".a\"b \x7b color: red; \x7d\n.card \x7b color: blue; \x7d" ∧
      leavesComment "color: red;".toList = false ∧ closes ".a\"b \x7b color: red; \x7d".toList = false ∧
      closes sheet.css.toList = false := by
  refine ⟨_, rfl, by decide +kernel, by decide +kernel, by decide +kernel, by decide +kernel⟩

end HtmlComponents.Style
