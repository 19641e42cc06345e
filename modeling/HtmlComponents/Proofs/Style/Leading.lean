import HtmlComponents.Proofs.Style.Entries
import HtmlComponents.Proofs.Text.Run
import Mathlib.Data.List.Infix

/-!
# The class that a rule names first

The class of a full rule is sought among all characters of its selector, or of a whole at-rule: what counts is
the first full stop with a class behind it, in a string or a comment too (`firstClass?_spec`). So the class that
is found is one that the rule names just if no class in a string or a comment stands before the first class
outside them (`leadingClass?_iff`).
-/

namespace HtmlComponents.Style

/-- Whether what follows a text stands outside strings and comments. As many braces count as open as the text
could close, so that every text has an answer. -/
def isOutside (front : List Char) : Bool :=
  (Position.scan? ⟨.neutral, front.length⟩ front).any fun p => p.place.region == .outside

/-- A text names a class behind `front`: a full stop, and then all that belongs to the name. -/
structure NamesAt (text front name : List Char) : Prop where
  eq : ∃ back, text = front ++ '.' :: (name ++ back) ∧ ∀ c ∈ back.head?, isClassChar c = false
  start : ∃ c ∈ name.head?, isClassStart c = true
  chars : ∀ c ∈ name, isClassChar c = true

/-- A text names a class behind `front` and none before. -/
structure NamesFirst (text front name : List Char) : Prop where
  names : NamesAt text front name
  first : ∀ front' name', NamesAt text front' name' → front <+: front'

variable {text rest front front' name name' : List Char} {c d : Char}

/-! ### The first class -/

theorem isClassChar_of_isClassStart (h : isClassStart c = true) : isClassChar c = true := by
  simp only [isClassStart, Bool.or_eq_true] at h
  simp only [isClassChar, Char.isAlphanum, Bool.or_eq_true]
  exact h.imp_left (Or.imp_left .inl)

theorem namesAt_stop (hd : isClassStart d = true) :
    NamesAt ('.' :: d :: rest) [] ((d :: rest).takeWhile isClassChar) := by
  refine ⟨⟨(d :: rest).dropWhile isClassChar, ?_, Text.stop_dropWhile isClassChar _⟩, ⟨d, ?_, hd⟩,
    fun c hc => List.mem_takeWhile_imp hc⟩
  · rw [List.takeWhile_append_dropWhile]
    rfl
  · rw [List.takeWhile_cons_of_pos (isClassChar_of_isClassStart hd)]
    rfl

theorem NamesAt.cons (h : NamesAt text front name) (c : Char) : NamesAt (c :: text) (c :: front) name := by
  obtain ⟨⟨back, rfl, hback⟩, hstart, hchars⟩ := h
  exact ⟨⟨back, rfl, hback⟩, hstart, hchars⟩

theorem NamesAt.cons_cases (h : NamesAt (c :: rest) front name) :
    (front = [] ∧ c = '.' ∧ ∃ d ∈ rest.head?, isClassStart d = true) ∨
      ∃ front', front = c :: front' ∧ NamesAt rest front' name := by
  obtain ⟨⟨back, htext, hback⟩, hstart, hchars⟩ := h
  cases front with
  | nil =>
    obtain ⟨rfl, rfl⟩ := List.cons.inj htext
    obtain ⟨d, hd, hletter⟩ := hstart
    exact .inl ⟨rfl, rfl, d, by simp [List.head?_append, Option.mem_def.mp hd], hletter⟩
  | cons first front' =>
    obtain ⟨rfl, hrest⟩ := List.cons.inj htext
    exact .inr ⟨front', rfl, ⟨back, hrest, hback⟩, hstart, hchars⟩

theorem not_namesAt_nil : ¬NamesAt [] front name := by
  rintro ⟨⟨back, htext, -⟩, -, -⟩
  simp at htext

theorem NamesFirst.cons (h : NamesFirst rest front name)
    (hhere : ¬(c = '.' ∧ ∃ d ∈ rest.head?, isClassStart d = true)) :
    NamesFirst (c :: rest) (c :: front) name := by
  refine ⟨h.names.cons c, fun front' name' hother => ?_⟩
  rcases hother.cons_cases with ⟨-, hstop⟩ | ⟨front', rfl, hrest⟩
  · exact absurd hstop hhere
  · exact List.cons_prefix_cons.mpr ⟨rfl, h.first front' name' hrest⟩

/-- What the search for a class comes to: it finds the first one, or there is none at all. -/
def Finds (text : List Char) : Option (List Char) → Prop
  | some name => ∃ front, NamesFirst text front name
  | none => ∀ front name, ¬NamesAt text front name

theorem Finds.cons {found : Option (List Char)} (h : Finds rest found)
    (hhere : ¬(c = '.' ∧ ∃ d ∈ rest.head?, isClassStart d = true)) : Finds (c :: rest) found := by
  cases found with
  | some name =>
    obtain ⟨front, hfront⟩ := h
    exact ⟨c :: front, hfront.cons hhere⟩
  | none =>
    intro front name hnames
    rcases hnames.cons_cases with ⟨-, hstop⟩ | ⟨front', -, hrest⟩
    · exact hhere hstop
    · exact h front' name hrest

theorem firstClass?_spec (text : List Char) : Finds text (firstClass? text) := by
  fun_induction firstClass? text with
  | case1 => exact fun _ _ => not_namesAt_nil
  | case2 d rest hd =>
    exact ⟨[], namesAt_stop hd, fun _ _ _ => List.nil_prefix⟩
  | case3 d rest hd ih =>
    refine ih.cons ?_
    rintro ⟨-, other, hother, hstart⟩
    cases hother
    exact hd hstart
  | case4 =>
    have hnil : Finds [] none := fun _ _ => not_namesAt_nil
    refine hnil.cons ?_
    rintro ⟨-, other, hother, -⟩
    cases hother
  | case5 c rest hc ih => exact ih.cons fun hstop => hc hstop.1

theorem NamesFirst.unique (h : NamesFirst text front name) (h' : NamesFirst text front' name') :
    front = front' ∧ name = name' := by
  obtain rfl : front = front' :=
    (h.first front' name' h'.names).eq_of_length_le (h'.first front name h.names).length_le
  obtain ⟨back, rfl, hback⟩ := h.names.eq
  obtain ⟨back', htext, hback'⟩ := h'.names.eq
  have hrest : name ++ back = name' ++ back' := (List.cons.inj (List.append_cancel_left htext)).2
  exact ⟨rfl, (Text.run_unique h.names.chars h'.names.chars hback hback' hrest).1⟩

theorem firstClass?_eq_some_iff : firstClass? text = some name ↔ ∃ front, NamesFirst text front name := by
  have hspec := firstClass?_spec text
  cases hfound : firstClass? text with
  | none =>
    rw [hfound] at hspec
    exact ⟨(nomatch ·), fun ⟨front, hfront⟩ => absurd hfront.names (hspec front name)⟩
  | some found =>
    rw [hfound] at hspec
    obtain ⟨front, hfront⟩ := hspec
    constructor
    · rintro ⟨⟩
      exact ⟨front, hfront⟩
    · rintro ⟨front', hfront'⟩
      rw [(hfront.unique hfront').2]

theorem firstClass?_eq_none_iff : firstClass? text = none ↔ ∀ front name, ¬NamesAt text front name := by
  have hspec := firstClass?_spec text
  cases hfound : firstClass? text with
  | none =>
    rw [hfound] at hspec
    exact ⟨fun _ => hspec, fun _ => rfl⟩
  | some found =>
    rw [hfound] at hspec
    obtain ⟨front, hfront⟩ := hspec
    exact ⟨(nomatch ·), fun h => absurd hfront.names (h front found)⟩

/-! ### Classes outside strings and comments -/

/-- What is found in a rule is the first class that its selector names outside strings and comments, and nothing
where it names none. -/
structure IsNamed (rule : String) : Prop where
  outside : ∀ front name, NamesFirst (classScope rule.toList) front name → isOutside front = true
  none : (∀ front name, NamesAt (classScope rule.toList) front name → isOutside front = false) →
    leadingClass? rule = none

theorem isNamed_iff {rule : String} :
    IsNamed rule ↔ ∀ front name, NamesAt (classScope rule.toList) front name → isOutside front = false →
      ∃ front' name', NamesAt (classScope rule.toList) front' name' ∧ isOutside front' = true ∧
        front' <+: front := by
  constructor
  · intro h front name hnames _
    have hspec := firstClass?_spec (classScope rule.toList)
    cases hfound : firstClass? (classScope rule.toList) with
    | none =>
      rw [hfound] at hspec
      exact absurd hnames (hspec front name)
    | some first =>
      rw [hfound] at hspec
      obtain ⟨front', hfirst⟩ := hspec
      exact ⟨front', first, hfirst.names, h.outside front' first hfirst, hfirst.first front name hnames⟩
  · intro h
    constructor
    · intro front name hfirst
      by_contra hinside
      obtain ⟨front', name', hnames, houtside, hprefix⟩ :=
        h front name hfirst.names (Bool.eq_false_iff.mpr hinside)
      -- the class outside stands before the first one only if it is the first one
      obtain rfl : front' = front :=
        hprefix.eq_of_length_le (hfirst.first front' name' hnames).length_le
      exact hinside houtside
    · intro hinside
      rw [leadingClass?, Option.map_eq_none_iff, firstClass?_eq_none_iff]
      intro front name hnames
      obtain ⟨front', name', hnames', houtside, -⟩ := h front name hnames (hinside front name hnames)
      exact absurd houtside (Bool.eq_false_iff.mp (hinside front' name' hnames'))

theorem get?_classes {table : Table} {sheet : Sheet} {entry : Entry} (h : compile table = .ok sheet)
    (hentry : entry ∈ table.entries) : sheet.classes.get? entry.1 = some (ruleOf entry).className := by
  obtain ⟨rs, hrules, rfl⟩ := exists_of_map_eq_ok h
  obtain ⟨rfl, -⟩ := rules_eq hrules
  refine OrderedMap.get?_ofList_of_mem ?_ ?_
  · simpa [Function.comp_def] using table.nodup
  · rw [List.map_map]
    exact List.mem_map_of_mem hentry

/-- The class that is found in a rule is the first one in the part of it that is searched, in a string or a
comment too, and a full rule has the class of its key just if there is none. So the class is the first that the
rule names outside strings and comments just if every class inside them stands behind one outside. -/
theorem leadingClass?_iff (rule : String) :
    (∀ name, leadingClass? rule = some name ↔
      ∃ front, NamesFirst (classScope rule.toList) front name.toList) ∧
    (IsNamed rule ↔ ∀ front name, NamesAt (classScope rule.toList) front name → isOutside front = false →
      ∃ front' name', NamesAt (classScope rule.toList) front' name' ∧ isOutside front' = true ∧
        front' <+: front) ∧
    ∀ (table : Table) (sheet : Sheet) (entry : Entry), compile table = .ok sheet → entry ∈ table.entries →
      ¬entry.IsBare → Text.trim entry.2 = rule →
        sheet.classes.get? entry.1 = some ((leadingClass? rule).getD (className entry.1)) := by
  refine ⟨fun name => ?_, isNamed_iff, ?_⟩
  · rw [← firstClass?_eq_some_iff, leadingClass?, Option.map_eq_some_iff]
    constructor
    · rintro ⟨found, hfound, rfl⟩
      rw [hfound, String.toList_ofList]
    · exact fun hfound => ⟨name.toList, hfound, String.ofList_toList⟩
  · rintro table sheet entry hcompile hentry hfull rfl
    rw [get?_classes hcompile hentry, ruleOf_full (Option.not_isSome_iff_eq_none.mp hfull)]

theorem NamesAt.stop (h : NamesAt text front name) :
    front ∈ text.inits ∧ (text.drop front.length).head? = some '.' := by
  obtain ⟨back, rfl, -⟩ := h.eq
  exact ⟨(List.mem_inits _ _).mpr (List.prefix_append _ _), by simp⟩

/-- An at-rule with a number before its class and a string behind it. -/
def wideRule : String := "@media (max-width: 40.5em) \x7b .card[title='v1.x'] \x7b margin: 0; \x7d \x7d"

theorem leadingClass?_iff_wide :
    (∃ sheet, compile (OrderedMap.ofList [("wide", wideRule)]) = .ok sheet ∧
      sheet.classes.get? "wide" = some "card") ∧
    ¬Entry.IsBare ("wide", wideRule) ∧ Text.trim wideRule = wideRule ∧ IsNamed wideRule := by
  have hcompile : ∃ sheet, compile (OrderedMap.ofList [("wide", wideRule)]) = .ok sheet := ⟨_, rfl⟩
  obtain ⟨sheet, hsheet⟩ := hcompile
  have hfull : ¬Entry.IsBare ("wide", wideRule) := by
    unfold Entry.IsBare
    decide +kernel
  have htrim : Text.trim wideRule = wideRule := by decide +kernel
  have hclass := (leadingClass?_iff wideRule).2.2 _ sheet ("wide", wideRule) hsheet
    (List.mem_singleton_self _) hfull htrim
  have hfound : leadingClass? wideRule = some "card" := by decide +kernel
  rw [hfound] at hclass
  have hcard : NamesAt (classScope wideRule.toList) "@media (max-width: 40.5em) \x7b ".toList "card".toList :=
    ⟨⟨'[' :: "title='v1.x'] \x7b margin: 0; \x7d \x7d".toList, by decide +kernel, Text.head?_cons_stop rfl _⟩,
      ⟨'c', rfl, rfl⟩, List.all_eq_true.mp rfl⟩
  have hbehind : ∀ front ∈ (classScope wideRule.toList).inits,
      ((classScope wideRule.toList).drop front.length).head? = some '.' → isOutside front = false →
        "@media (max-width: 40.5em) \x7b ".toList <+: front := by decide +kernel
  refine ⟨⟨sheet, hsheet, hclass⟩, hfull, htrim,
    (leadingClass?_iff wideRule).2.1.mpr fun front name hnames hinside => ?_⟩
  exact ⟨_, _, hcard, by decide +kernel, hbehind front hnames.stop.1 hnames.stop.2 hinside⟩

/-- A rule with a file name in a string. -/
def imageRule : String := "img[src$='logo.png'] \x7b border: 0; \x7d"

/-- A rule behind a comment. -/
def draftRule : String := "/* v1.beta */ .card \x7b margin: 0; \x7d"

/-- A file name in a string is taken for a class where the rule names none, and a word in a comment where it
names another. -/
theorem class_in_string :
    closes imageRule.toList = true ∧
      (∀ front name, NamesAt (classScope imageRule.toList) front name → isOutside front = false) ∧
      leadingClass? imageRule = some "png" ∧ ¬IsNamed imageRule ∧
      (∃ sheet, compile (OrderedMap.ofList [("logo", imageRule)]) = .ok sheet ∧
        sheet.classes.get? "logo" = some "png") ∧
      closes draftRule.toList = true ∧
      NamesAt (classScope draftRule.toList) "/* v1.beta */ ".toList "card".toList ∧
      isOutside "/* v1.beta */ ".toList = true ∧ leadingClass? draftRule = some "beta" := by
  have hinside : ∀ front ∈ (classScope imageRule.toList).inits,
      ((classScope imageRule.toList).drop front.length).head? = some '.' → isOutside front = false := by
    decide +kernel
  have hnone : ∀ front name, NamesAt (classScope imageRule.toList) front name → isOutside front = false :=
    fun front _ hnames => hinside front hnames.stop.1 hnames.stop.2
  have hfound : leadingClass? imageRule = some "png" := by decide +kernel
  have hcompile : ∃ sheet, compile (OrderedMap.ofList [("logo", imageRule)]) = .ok sheet := ⟨_, rfl⟩
  obtain ⟨sheet, hsheet⟩ := hcompile
  have hclass : sheet.classes.get? "logo" = some (ruleOf ("logo", imageRule)).className :=
    get?_classes hsheet (List.mem_singleton_self _)
  have hrule : (ruleOf ("logo", imageRule)).className = "png" := by decide +kernel
  have hcard : NamesAt (classScope draftRule.toList) "/* v1.beta */ ".toList "card".toList :=
    ⟨⟨[' '], by decide +kernel, Text.head?_cons_stop rfl _⟩, ⟨'c', rfl, rfl⟩, List.all_eq_true.mp rfl⟩
  refine ⟨by decide, hnone, hfound, fun h => ?_, ⟨sheet, hsheet, hclass.trans (congrArg some hrule)⟩, by decide,
    hcard, by decide, by decide +kernel⟩
  cases hfound.symm.trans (h.none hnone)

end HtmlComponents.Style
