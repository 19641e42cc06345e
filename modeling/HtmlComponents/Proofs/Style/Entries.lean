import HtmlComponents.Proofs.OrderedMap
import HtmlComponents.Proofs.Style.Containment
import HtmlComponents.Proofs.Text.Words

/-!
# A style table, entry by entry

What a table compiles to, or which of its entries keeps it from compiling (`compile_entries`). The classes that
are generated so far are those of the bare entries before (`Generated`), so the loop over a table stops at the
first entry with a fault (`stops_rules`), and no two bare entries of a table that compiles have one class.
-/

namespace HtmlComponents.Style

/-- An entry of a table: its key and its text. -/
abbrev Entry := String × String

/-- The declarations of an entry that is a bare block; none for a full rule. -/
def Entry.declarations? (entry : Entry) : Option (List Char) :=
  Style.declarations? (Text.trimChars entry.2.toList)

def Entry.IsBare (entry : Entry) : Prop := entry.declarations?.isSome = true

/-- What is wrong with an entry behind others. -/
inductive Fault (before : List Entry) (entry : Entry) : Error → Prop
  | unbalanced (h : isBalanced entry.2.toList = false) : Fault before entry (.unbalancedBlock entry.1)
  | collision (first : Entry) (h : isBalanced entry.2.toList = true) (hbare : entry.IsBare)
      (hmem : first ∈ before) (hfirst : first.IsBare) (hclass : className first.1 = className entry.1) :
      Fault before entry (.classCollision (className entry.1) first.1 entry.1)

/-- Nothing is wrong with any entry of a list that stands behind others. -/
def Faultless (before entries : List Entry) : Prop :=
  ∀ front entry back, entries = front ++ entry :: back → ∀ e, ¬Fault (before ++ front) entry e

variable {before entries : List Entry} {entry : Entry} {generated : List (String × String)} {name key : String}

theorem isGenerated_ruleOf : (ruleOf entry).isGenerated = true ↔ entry.IsBare := by
  unfold ruleOf Rule.ofEntry Entry.IsBare Entry.declarations?
  split <;> simp [*]

theorem ruleOf_bare {body : List Char} (h : entry.declarations? = some body) :
    ruleOf entry = ⟨className entry.1, wrapped (className entry.1) body, true⟩ := by
  unfold Entry.declarations? at h
  simp only [ruleOf, Rule.ofEntry, h]

theorem ruleOf_full (h : entry.declarations? = none) :
    ruleOf entry =
      ⟨(leadingClass? (Text.trim entry.2)).getD (className entry.1), Text.trim entry.2, false⟩ := by
  unfold Entry.declarations? at h
  simp only [ruleOf, Rule.ofEntry, h, Text.trim]

theorem className_ruleOf (h : entry.IsBare) : (ruleOf entry).className = className entry.1 := by
  obtain ⟨body, hbody⟩ := Option.isSome_iff_exists.mp h
  rw [ruleOf_bare hbody]

/-! ### One entry further -/

theorem rules_cons_unbalanced (h : isBalanced entry.2.toList = false) :
    rules generated (entry :: entries) = .error (.unbalancedBlock entry.1) :=
  if_pos (by simp [h])

theorem rules_cons_bare (h : isBalanced entry.2.toList = true) (hbare : entry.IsBare) :
    rules generated (entry :: entries) =
      match generated.lookup (className entry.1) with
      | some first => .error (.classCollision (className entry.1) first entry.1)
      | none => (rules ((className entry.1, entry.1) :: generated) entries).map
          ((entry.1, ruleOf entry) :: ·) := by
  have hrule : rules generated (entry :: entries) =
      match generated.lookup (ruleOf entry).className with
      | some first => .error (.classCollision (ruleOf entry).className first entry.1)
      | none => (rules (((ruleOf entry).className, entry.1) :: generated) entries).map
          ((entry.1, ruleOf entry) :: ·) :=
    (if_neg (by simp [h])).trans (if_pos (isGenerated_ruleOf.mpr hbare))
  rw [hrule, className_ruleOf hbare]

theorem rules_cons_full (h : isBalanced entry.2.toList = true) (hfull : ¬entry.IsBare) :
    rules generated (entry :: entries) =
      (rules generated entries).map ((entry.1, ruleOf entry) :: ·) :=
  (if_neg (by simp [h])).trans (if_neg fun hgenerated => hfull (isGenerated_ruleOf.mp hgenerated))

/-! ### The loop -/

theorem Faultless.nil : Faultless before [] := by
  intro front entry back h
  simp at h

theorem Faultless.cons (hentry : ∀ e, ¬Fault before entry e) (h : Faultless (before ++ [entry]) entries) :
    Faultless before (entry :: entries) := by
  intro front other back heq e hfault
  cases front with
  | nil =>
    obtain ⟨rfl, rfl⟩ := List.cons.inj heq
    exact hentry e (by simpa using hfault)
  | cons first front =>
    obtain ⟨rfl, rfl⟩ := List.cons.inj heq
    exact h front other back rfl e (by simpa using hfault)

/-- The generated classes are those of the bare entries before, each with the key of one that has it. -/
structure Generated (before : List Entry) (generated : List (String × String)) : Prop where
  of_some : ∀ name key, generated.lookup name = some key →
    ∃ entry ∈ before, entry.IsBare ∧ entry.1 = key ∧ className key = name
  of_none : ∀ name, generated.lookup name = none →
    ∀ entry ∈ before, entry.IsBare → className entry.1 ≠ name

namespace Generated

theorem nil : Generated [] [] := ⟨by simp, by simp⟩

theorem full (h : Generated before generated) (hentry : ¬entry.IsBare) :
    Generated (before ++ [entry]) generated := by
  constructor
  · intro name key hlookup
    obtain ⟨first, hmem, hfirst⟩ := h.of_some name key hlookup
    exact ⟨first, List.mem_append_left _ hmem, hfirst⟩
  · intro name hlookup other hother hbare
    rcases List.mem_append.mp hother with hmem | hmem
    · exact h.of_none name hlookup other hmem hbare
    · rw [List.mem_singleton.mp hmem] at hbare
      exact absurd hbare hentry

theorem bare (h : Generated before generated) (hentry : entry.IsBare) :
    Generated (before ++ [entry]) ((className entry.1, entry.1) :: generated) := by
  constructor
  · intro name key hlookup
    rw [List.lookup_cons] at hlookup
    split at hlookup
    · rename_i hname
      cases hlookup
      exact ⟨entry, by simp, hentry, rfl, (beq_iff_eq.mp hname).symm⟩
    · obtain ⟨first, hmem, hfirst⟩ := h.of_some name key hlookup
      exact ⟨first, List.mem_append_left _ hmem, hfirst⟩
  · intro name hlookup other hother hbare
    rw [List.lookup_cons] at hlookup
    split at hlookup
    · cases hlookup
    · rename_i hname
      rcases List.mem_append.mp hother with hmem | hmem
      · exact h.of_none name hlookup other hmem hbare
      · rw [List.mem_singleton.mp hmem]
        exact fun heq => absurd (beq_iff_eq.mpr heq.symm) (by simpa using hname)

end Generated

theorem not_fault (h : Generated before generated) (hbalanced : isBalanced entry.2.toList = true)
    (hnew : entry.IsBare → generated.lookup (className entry.1) = none) (e : Error) :
    ¬Fault before entry e := by
  intro hfault
  cases hfault with
  | unbalanced hopen => exact absurd (hopen.symm.trans hbalanced) (by decide)
  | collision first _ hbare hmem hfirst hclass =>
    exact h.of_none _ (hnew hbare) first hmem hfirst hclass

/-- What the rules of the entries behind others come to: none of them has a fault, or the error is that of the
first one that has. -/
def Stops (before entries : List Entry) (result : Except Error (List (String × Rule))) : Prop :=
  match result with
  | .ok _ => Faultless before entries
  | .error e => ∃ front entry back, entries = front ++ entry :: back ∧ Faultless before front ∧
      Fault (before ++ front) entry e

theorem Stops.of_fault {e : Error} (h : Fault before entry e) : Stops before (entry :: entries) (.error e) :=
  ⟨[], entry, entries, rfl, .nil, by simpa using h⟩

theorem Stops.cons {result : Except Error (List (String × Rule))} (hentry : ∀ e, ¬Fault before entry e)
    (h : Stops (before ++ [entry]) entries result) (rule : String × Rule) :
    Stops before (entry :: entries) (result.map (rule :: ·)) := by
  cases result with
  | ok rs => exact Faultless.cons hentry h
  | error e =>
    obtain ⟨front, other, back, rfl, hfront, hfault⟩ := h
    exact ⟨entry :: front, other, back, rfl, hfront.cons hentry, by simpa using hfault⟩

/-- The rules of a table stop at the first entry with a fault, and nowhere else. -/
theorem stops_rules (h : Generated before generated) (entries : List Entry) :
    Stops before entries (rules generated entries) := by
  induction entries generalizing before generated with
  | nil => exact Faultless.nil
  | cons entry rest ih =>
    by_cases hbalanced : isBalanced entry.2.toList = true
    · by_cases hbare : entry.IsBare
      · rw [rules_cons_bare hbalanced hbare]
        cases hlookup : generated.lookup (className entry.1) with
        | some key =>
          obtain ⟨first, hmem, hfirst, rfl, hclass⟩ := h.of_some _ _ hlookup
          exact .of_fault (.collision first hbalanced hbare hmem hfirst hclass)
        | none => exact (ih (h.bare hbare)).cons (not_fault h hbalanced fun _ => hlookup) _
      · rw [rules_cons_full hbalanced hbare]
        exact (ih (h.full hbare)).cons (not_fault h hbalanced fun hb => absurd hb hbare) _
    · rw [rules_cons_unbalanced (by simpa using hbalanced)]
      exact .of_fault (.unbalanced (by simpa using hbalanced))

/-! ### Classes of bare entries -/

theorem Faultless.className_ne {first second : Entry} {front back : List Entry}
    (h : Faultless [] (front ++ second :: back)) (hmem : first ∈ front) (hfirst : first.IsBare)
    (hsecond : second.IsBare) : className first.1 ≠ className second.1 := by
  intro hclass
  cases hbalanced : isBalanced second.2.toList with
  | false => exact h front second back rfl _ (.unbalanced hbalanced)
  | true => exact h front second back rfl _ (.collision first hbalanced hsecond hmem hfirst hclass)

theorem Faultless.eq_of_className (h : Faultless [] entries) {first second : Entry} (hfirst : first ∈ entries)
    (hsecond : second ∈ entries) (hbare : first.IsBare) (hbare' : second.IsBare)
    (hclass : className first.1 = className second.1) : first = second := by
  obtain ⟨front, back, rfl⟩ := List.append_of_mem hsecond
  rcases List.mem_append.mp hfirst with hmem | hmem
  · exact absurd hclass (h.className_ne hmem hbare hbare')
  · rcases List.mem_cons.mp hmem with rfl | hmem
    · rfl
    · -- the second entry stands before the first
      obtain ⟨between, others, rfl⟩ := List.append_of_mem hmem
      have h' : Faultless [] ((front ++ second :: between) ++ first :: others) := by simpa using h
      exact absurd hclass.symm (h'.className_ne (by simp) hbare' hbare)

/-- A key of an ASCII letter and then ASCII letters, digits, underscores and hyphens. -/
def IsPlainKey (key : String) : Prop :=
  ∃ first rest, key.toList = first :: rest ∧ first.isAlpha = true ∧ ∀ c ∈ rest, isClassChar c = true

theorem toNat_lt_of_isClassChar {c : Char} (h : isClassChar c = true) : c.toNat < 0x80 := by
  simp only [isClassChar, Bool.or_eq_true, beq_iff_eq] at h
  rcases h with (hc | rfl) | rfl
  · exact Text.toNat_lt_of_isAlphanum hc
  · decide
  · decide

theorem isPrintable_of_isClassChar {c : Char} (h : isClassChar c = true) : Text.isPrintable c = true :=
  Text.of_ascii (p := fun c => isClassChar c = true → Text.isPrintable c = true) (by decide +kernel)
    (toNat_lt_of_isClassChar h) h

theorem isClassChar_toLower {c : Char} (h : isClassChar c = true) : isClassChar c.toLower = true :=
  Text.of_ascii (p := fun c => isClassChar c = true → isClassChar c.toLower = true) (by decide +kernel)
    (toNat_lt_of_isClassChar h) h

theorem isClassChar_of_isAlpha {c : Char} (h : c.isAlpha = true) : isClassChar c = true := by
  simp [isClassChar, Text.isAlphanum_of_isAlpha h]

/-- The class of such a key begins as a class does, and all of it belongs to the name. -/
theorem IsPlainKey.className (h : IsPlainKey key) :
    (∃ first rest, (HtmlComponents.className key).toList = first :: rest ∧ isClassStart first = true) ∧
      ∀ c ∈ (HtmlComponents.className key).toList, isClassChar c = true := by
  obtain ⟨first, rest, hkey, hfirst, hrest⟩ := h
  have hclass : ∀ c ∈ key.toList, isClassChar c = true := by
    rw [hkey]
    exact List.forall_mem_cons.mpr ⟨isClassChar_of_isAlpha hfirst, hrest⟩
  have hprintable : ∀ c ∈ key.toList, Text.isPrintable c = true :=
    fun c hc => isPrintable_of_isClassChar (hclass c hc)
  have hletter : Text.Words.isSeparator [first] = false ∧ isClassStart first.toLower = true :=
    Text.of_ascii (p := fun c => c.isAlpha = true →
      Text.Words.isSeparator [c] = false ∧ isClassStart c.toLower = true) (by decide +kernel)
      (toNat_lt_of_isClassChar (isClassChar_of_isAlpha hfirst)) hfirst
  obtain ⟨more, hmore⟩ := Text.Words.kebab_eq_cons hprintable hkey hletter.1
  refine ⟨⟨first.toLower, more, hmore, hletter.2⟩, fun c hc => ?_⟩
  rcases Text.Words.mem_kebab hprintable hc with rfl | ⟨d, hd, -, rfl⟩
  · rfl
  · exact isClassChar_toLower (hclass d hd)

theorem classScope_wrapped (h : '\x7b' ∉ name.toList) (body : List Char) :
    classScope (wrapped name body).toList = '.' :: (name.toList ++ [' ']) := by
  have hchars : ∃ block, (wrapped name body).toList = '.' :: ((name.toList ++ [' ']) ++ '\x7b' :: block) := by
    unfold wrapped
    split
    · exact ⟨['\x7d'], by simp⟩
    · exact ⟨' ' :: (body ++ [' ', '\x7d']), by simp⟩
  obtain ⟨block, hblock⟩ := hchars
  have hbrace : ∀ c ∈ name.toList ++ [' '], (c != '\x7b') = true := by
    intro c hc
    rw [bne_iff_ne]
    rintro rfl
    exact h (by simpa using hc)
  rw [hblock]
  refine congrArg (List.cons '.') ?_
  rw [List.takeWhile_append_of_pos hbrace, List.takeWhile_cons_of_neg (by simp), List.append_nil]

theorem leadingClass?_wrapped {first : Char} {rest : List Char} (hname : name.toList = first :: rest)
    (hfirst : isClassStart first = true) (h : ∀ c ∈ name.toList, isClassChar c = true) (body : List Char) :
    leadingClass? (wrapped name body) = some name := by
  have hbrace : '\x7b' ∉ name.toList := fun hmem => absurd (h _ hmem) (by decide)
  have hclass : (name.toList ++ [' ']).takeWhile isClassChar = name.toList := by
    rw [List.takeWhile_append_of_pos h, List.takeWhile_cons_of_neg (by decide), List.append_nil]
  have hfound : firstClass? ('.' :: (name.toList ++ [' '])) = some name.toList := by
    rw [hname, List.cons_append] at hclass ⊢
    rw [firstClass?, if_pos rfl]
    simp only [hfirst, if_true, hclass]
  rw [leadingClass?, classScope_wrapped hbrace, hfound, Option.map_some, String.ofList_toList]

/-! ### The stylesheet -/

theorem declarations?_cases {text body : List Char} (h : declarations? text = some body) :
    '\x7b' ∉ text ∧ body = text ∨
      ∃ inside, text = '\x7b' :: (inside ++ ['\x7d']) ∧ isBalanced inside = true ∧
        body = Text.trimChars inside := by
  unfold declarations? at h
  split at h
  · rename_i hbrace
    exact .inl ⟨hbrace, (Option.some.inj h).symm⟩
  · split at h
    · rename_i rest _
      split at h
      · rename_i hblock
        have hrest : rest.dropLast ++ ['\x7d'] = rest := List.dropLast_append_getLast? _ hblock.1
        exact .inr ⟨rest.dropLast, by rw [hrest], hblock.2, (Option.some.inj h).symm⟩
      · cases h
    · cases h

/-- The body of a bare block, without blank space at its ends: all of the text, or what the braces hold. -/
inductive Body (text : List Char) : List Char → Prop
  | plain {body : List Char} (h : Text.IsTrimmed text body) (hbrace : '\x7b' ∉ body) : Body text body
  | braces {inside body : List Char} (h : Text.IsTrimmed text ('\x7b' :: (inside ++ ['\x7d'])))
      (hbody : Text.IsTrimmed inside body) : Body text body

theorem Entry.body_of_declarations? {body : List Char} (h : entry.declarations? = some body) :
    Body entry.2.toList body := by
  have htrim := Text.isTrimmed_trimChars entry.2.toList
  rcases declarations?_cases h with ⟨hbrace, rfl⟩ | ⟨inside, htext, -, rfl⟩
  · exact .plain htrim hbrace
  · exact .braces (htext ▸ htrim) (Text.isTrimmed_trimChars inside)

/-- What a stylesheet has of an entry: its class and its rule. -/
inductive Written (entry : Entry) : (name css : String) → Prop
  | empty (h : entry.declarations? = some []) (hbody : Body entry.2.toList []) :
      Written entry (className entry.1) ("." ++ className entry.1 ++ " \x7b\x7d")
  | bare {body : List Char} (h : entry.declarations? = some body) (hbody : Body entry.2.toList body)
      (hne : body ≠ []) :
      Written entry (className entry.1) ("." ++ className entry.1 ++ " \x7b " ++ String.ofList body ++ " \x7d")
  | full {css : String} (h : entry.declarations? = none) (hcss : Text.IsTrimmed entry.2.toList css.toList) :
      Written entry ((leadingClass? css).getD (className entry.1)) css

theorem written_ruleOf (entry : Entry) : Written entry (ruleOf entry).className (ruleOf entry).css := by
  cases h : entry.declarations? with
  | some body =>
    have hbody := Entry.body_of_declarations? h
    rw [ruleOf_bare h]
    cases body with
    | nil => exact .empty h hbody
    | cons c body => exact .bare h hbody (List.cons_ne_nil c body)
  | none =>
    have htrim : Text.IsTrimmed entry.2.toList (Text.trim entry.2).toList := by
      rw [Text.trim, String.toList_ofList]
      exact Text.isTrimmed_trimChars entry.2.toList
    rw [ruleOf_full h]
    dsimp only
    exact .full h htrim

/-- A stylesheet has the entries of a table. -/
structure IsSheet (table : Table) (sheet : Sheet) : Prop where
  classes : sheet.classes.entries = table.entries.map fun entry => (entry.1, (ruleOf entry).className)
  css : sheet.css = "\n".intercalate (table.entries.map fun entry => (ruleOf entry).css)
  written : ∀ entry ∈ table.entries, Written entry (ruleOf entry).className (ruleOf entry).css
  distinct : ∀ first second : Entry, first ∈ table.entries → second ∈ table.entries →
    first.IsBare → second.IsBare → (ruleOf first).className = (ruleOf second).className → first = second
  leading : ∀ entry : Entry, entry ∈ table.entries → entry.IsBare → IsPlainKey entry.1 →
    leadingClass? (ruleOf entry).css = some (ruleOf entry).className

/-- A table compiles just if no entry has a fault, and then the stylesheet has a rule and a class for each entry,
in order. Otherwise the error is that of the first entry with a fault. -/
theorem compile_entries (table : Table) :
    match compile table with
    | .ok sheet => Faultless [] table.entries ∧ IsSheet table sheet
    | .error e => ∃ front entry back, table.entries = front ++ entry :: back ∧ Faultless [] front ∧
        Fault front entry e := by
  have hstops := stops_rules .nil table.entries
  unfold compile
  cases hrules : rules [] table.entries with
  | error e =>
    rw [hrules] at hstops
    exact hstops
  | ok rs =>
    rw [hrules] at hstops
    obtain ⟨rfl, -⟩ := rules_eq hrules
    refine ⟨hstops, ?_, ?_, fun entry _ => written_ruleOf entry, ?_, ?_⟩
    · have hnodup : ((table.entries.map fun entry => (entry.1, (ruleOf entry).className)).map
          Prod.fst).Nodup := by simpa [Function.comp_def] using table.nodup
      simpa [Function.comp_def] using congrArg OrderedMap.entries (OrderedMap.ofList_entries ⟨_, hnodup⟩)
    · simp [Function.comp_def]
    · intro first second hfirst hsecond hbare hbare' hclass
      rw [className_ruleOf hbare, className_ruleOf hbare'] at hclass
      exact Faultless.eq_of_className hstops hfirst hsecond hbare hbare' hclass
    · intro entry _ hbare hkey
      obtain ⟨body, hbody⟩ := Option.isSome_iff_exists.mp hbare
      obtain ⟨⟨first, rest, hname, hfirst⟩, hclass⟩ := hkey.className
      rw [ruleOf_bare hbody]
      exact leadingClass?_wrapped hname hfirst hclass body

/-- A block in braces, declarations alone, a block with nothing in it, and a rule with its own selector. -/
def banner : Table :=
  OrderedMap.ofList [("cardTitle", " \x7b color: red; \x7d "), ("card_note", "margin: 0;\n"), ("gap", "\x7b \x7d"),
    ("nav", " .menu a:hover \x7b top: 0; \x7d ")]

theorem compile_entries_banner :
    ∃ sheet, compile banner = .ok sheet ∧ IsSheet banner sheet ∧
      sheet.classes.entries =
        [("cardTitle", "card-title"), ("card_note", "card-note"), ("gap", "gap"), ("nav", "menu")] ∧
      sheet.css = ".card-title \x7b color: red; \x7d\n.card-note \x7b margin: 0; \x7d\n.gap \x7b\x7d\n" ++
        ".menu a:hover \x7b top: 0; \x7d" := by
  obtain ⟨sheet, hsheet⟩ : ∃ sheet, compile banner = .ok sheet := ⟨_, rfl⟩
  have hentries := compile_entries banner
  rw [hsheet] at hentries
  obtain ⟨-, hwritten⟩ := hentries
  refine ⟨sheet, hsheet, hwritten, ?_, ?_⟩
  · rw [hwritten.classes]
    decide +kernel
  · rw [hwritten.css]
    decide +kernel

/-- Two spellings of one class. -/
example :
    compile (OrderedMap.ofList [("button_primary", "\x7b a: 1; \x7d"), ("buttonPrimary", "b: 2;")]) =
      .error (.classCollision "button-primary" "button_primary" "buttonPrimary") := by
  rfl

end HtmlComponents.Style
