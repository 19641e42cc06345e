import HtmlComponents.Proofs.Style.Entries

/-!
# The structure of a block

Strings and comments apart, an entry is a block of declarations if it has no brace, or if one outermost block
is all of it (`BlockOf`). The compiler looks at the characters instead, so it takes an entry for a block only
if the structure shows in them (`IsExposed`): no opening brace at all, or braces at the very ends
(`declarations?_eq_some_iff`). A block with a brace in a string or a comment before it is emitted as it is.
-/

namespace HtmlComponents

namespace Style

/-! ### Braces outside strings and comments -/

namespace Position

variable {p q : Position} {c : Char} {s t : List Char}

/-- Whether a text that begins here has a brace outside strings and comments. -/
def meetsBrace (p : Position) : List Char → Bool
  | [] => false
  | c :: rest =>
    (p.place.region == .outside && (c == '\x7b' || c == '\x7d')) ||
      (p.step? c).any (·.meetsBrace rest)

theorem meetsBrace_append (h : p.scan? s = some q) :
    p.meetsBrace (s ++ t) = (p.meetsBrace s || q.meetsBrace t) := by
  induction s generalizing p with
  | nil =>
    cases h
    rfl
  | cons c s ih =>
    rw [scan?_cons] at h
    obtain ⟨next, hstep, hrest⟩ := Option.bind_eq_some_iff.mp h
    simp only [List.cons_append, meetsBrace, hstep, Option.any_some, ih hrest, Bool.or_assoc]

/-- Without an opening brace the depth stays at zero, so a closing brace stands in a string or a comment. -/
theorem step?_shallow (hdepth : p.depth = 0) (hc : c ≠ '\x7b') (h : p.step? c = some q) :
    q.depth = 0 ∧ (p.place.region = .outside → c ≠ '\x7d') := by
  obtain ⟨place, depth⟩ := p
  obtain rfl : depth = 0 := hdepth
  cases place with
  | neutral | slash | string quote | escape quote | comment star =>
    simp only [step?, stepNeutral?] at h
    grind [Place.region]

theorem meetsBrace_eq_false (hdepth : p.depth = 0) (hs : '\x7b' ∉ s) (h : p.scan? s = some q) :
    p.meetsBrace s = false := by
  induction s generalizing p with
  | nil => rfl
  | cons c s ih =>
    rw [scan?_cons] at h
    obtain ⟨next, hstep, hrest⟩ := Option.bind_eq_some_iff.mp h
    obtain ⟨hopen, hs⟩ := not_or.mp (mt List.mem_cons.mpr hs)
    obtain ⟨hnext, hclose⟩ := step?_shallow hdepth (Ne.symm hopen) hstep
    have hhere : (p.place.region == .outside && (c == '\x7b' || c == '\x7d')) = false := by
      cases hregion : p.place.region with
      | outside => simp [Ne.symm hopen, hclose hregion]
      | string | comment => rfl
    rw [meetsBrace, hhere, hstep, Option.any_some, ih hnext hs hrest]
    rfl

end Position

/-- Whether a text has a brace outside strings and comments. -/
def hasBrace (text : List Char) : Bool := startOfText.meetsBrace text

/-- Blank space and comments. -/
inductive IsMargin : List Char → Prop
  | nil : IsMargin []
  | blank {c : Char} {s : List Char} (hc : Text.isBlank c = true) (hs : IsMargin s) : IsMargin (c :: s)
  | comment {body s : List Char} (hbody : ¬['*', '/'] <:+: body ++ ['*']) (hs : IsMargin s) :
      IsMargin ('/' :: '*' :: (body ++ '*' :: '/' :: s))

/-- A text is a block of declarations: it has no brace, or it is one block in braces with a margin on
each side. -/
inductive BlockOf (text : List Char) : (declarations : List Char) → Prop
  | plain (h : hasBrace text = false) : BlockOf text (Text.trimChars text)
  | braces {front inside back : List Char} (h : text = front ++ '\x7b' :: (inside ++ '\x7d' :: back))
      (hfront : IsMargin front) (hback : IsMargin back) (hinside : closes inside = true) :
      BlockOf text (Text.trimChars inside)

/-- The characters show the structure: there is no opening brace, in a string or a comment either, or there is
one at the start and a closing one at the end. -/
def IsExposed (text : List Char) : Prop :=
  '\x7b' ∉ text ∨ ∃ inside, Text.trimChars text = '\x7b' :: (inside ++ ['\x7d'])

variable {text body : List Char}

/-! ### Margins -/

theorem IsMargin.of_blank {s : List Char} (h : ∀ c ∈ s, Text.isBlank c = true) : IsMargin s := by
  induction s with
  | nil => exact .nil
  | cons c s ih =>
    obtain ⟨hc, hs⟩ := List.forall_mem_cons.mp h
    exact .blank hc (ih hs)

theorem IsMargin.exists_front {s : List Char} (h : IsMargin s) :
    ∃ front core, s = front ++ core ∧ (∀ c ∈ front, Text.isBlank c = true) ∧ ∀ c ∈ core.head?, c = '/' := by
  induction h with
  | nil => exact ⟨[], [], rfl, by simp, by simp⟩
  | @blank c s hc _ ih =>
    obtain ⟨front, core, rfl, hfront, hcore⟩ := ih
    exact ⟨c :: front, core, rfl, List.forall_mem_cons.mpr ⟨hc, hfront⟩, hcore⟩
  | comment => exact ⟨[], _, rfl, by simp, by simp⟩

theorem IsMargin.exists_back {s : List Char} (h : IsMargin s) :
    ∃ core back, s = core ++ back ∧ (∀ c ∈ back, Text.isBlank c = true) ∧ ∀ c ∈ core.getLast?, c = '/' := by
  induction h with
  | nil => exact ⟨[], [], rfl, by simp, by simp⟩
  | @blank c s hc _ ih =>
    obtain ⟨core, back, rfl, hback, hcore⟩ := ih
    cases core with
    | nil => exact ⟨[], c :: back, rfl, List.forall_mem_cons.mpr ⟨hc, hback⟩, by simp⟩
    | cons d core => exact ⟨c :: d :: core, back, rfl, hback, by simpa [List.getLast?_cons] using hcore⟩
  | @comment body s _ _ ih =>
    obtain ⟨core, back, rfl, hback, hcore⟩ := ih
    refine ⟨'/' :: '*' :: (body ++ '*' :: '/' :: core), back, by simp, hback, fun c hc => ?_⟩
    cases hlast : core.getLast? with
    | none => simpa [List.getLast?_cons, List.getLast?_append, hlast, eq_comm] using hc
    | some d =>
      obtain rfl : d = c := by simpa [List.getLast?_cons, List.getLast?_append, hlast] using hc
      exact hcore d hlast

/-- Of a block in braces trimming leaves the block and, on each side, a margin with a comment at its end. -/
theorem trimChars_braces {front back : List Char} (inside : List Char) (hfront : IsMargin front) (hback : IsMargin back) :
    ∃ before after, Text.trimChars (front ++ '\x7b' :: (inside ++ '\x7d' :: back)) =
        before ++ '\x7b' :: (inside ++ '\x7d' :: after) ∧
      (∀ c ∈ before.head?, c = '/') ∧ ∀ c ∈ after.getLast?, c = '/' := by
  obtain ⟨blank, before, rfl, hblank, hbefore⟩ := hfront.exists_front
  obtain ⟨after, blank', rfl, hblank', hafter⟩ := hback.exists_back
  refine ⟨before, after, ?_, hbefore, hafter⟩
  have hsplit : blank ++ before ++ '\x7b' :: (inside ++ '\x7d' :: (after ++ blank')) =
      blank ++ (before ++ '\x7b' :: (inside ++ '\x7d' :: after)) ++ blank' := by simp
  rw [hsplit]
  refine Text.trimChars_append hblank hblank' (fun c hc => ?_) fun c hc => ?_
  · rw [List.head?_append] at hc
    rcases Option.or_eq_some_iff.mp hc with hc | ⟨-, hc⟩
    · rw [hbefore c hc]
      rfl
    · cases hc
      rfl
  · have hlast : (before ++ '\x7b' :: (inside ++ '\x7d' :: after)).getLast? =
        after.getLast?.or (some '\x7d') := by
      rw [List.getLast?_append, List.getLast?_cons, List.getLast?_append, List.getLast?_cons]
      cases after.getLast? <;> rfl
    rw [hlast] at hc
    rcases Option.or_eq_some_iff.mp hc with hc | ⟨-, hc⟩
    · rw [hafter c hc]
      rfl
    · cases hc
      rfl

/-! ### Blocks as the compiler recognises them -/

theorem mem_trimChars_iff {c : Char} (hc : Text.isBlank c = false) : c ∈ Text.trimChars text ↔ c ∈ text := by
  obtain ⟨front, back, htext, hfront, hback⟩ := Text.exists_trimChars text
  have hne : ∀ s : List Char, (∀ d ∈ s, Text.isBlank d = true) → c ∉ s := by
    intro s hs hmem
    rw [hs c hmem] at hc
    cases hc
  conv_rhs => rw [htext]
  simp [hne front hfront, hne back hback]

theorem hasBrace_of_trimChars {rest : List Char} (h : Text.trimChars text = '\x7b' :: rest) :
    hasBrace text = true := by
  obtain ⟨front, back, htext, hfront, -⟩ := Text.exists_trimChars text
  rw [htext, h, hasBrace, List.append_assoc,
    Position.meetsBrace_append (Position.scan?_start_blank hfront)]
  simp [startOfText, Position.meetsBrace, Place.region]

theorem isBalanced_of_closes (h : closes text = true) : isBalanced text = true := by
  obtain ⟨p, hscan, hdepth, hregion⟩ := closes_iff.mp h
  exact isBalanced_iff.mpr ⟨p, hscan, hdepth, by simp [hregion]⟩

theorem declarations?_of_notMem (h : '\x7b' ∉ text) : declarations? text = some text := if_pos h

theorem declarations?_braces {inside : List Char} (h : isBalanced inside = true) :
    declarations? ('\x7b' :: (inside ++ ['\x7d'])) = some (Text.trimChars inside) := by
  simp [declarations?, h]

theorem BlockOf.of_declarations? (hcloses : closes text = true)
    (h : declarations? (Text.trimChars text) = some body) : BlockOf text body ∧ IsExposed text := by
  have hbrace : Text.isBlank '\x7b' = false := rfl
  rcases declarations?_cases h with ⟨hmem, rfl⟩ | ⟨inside, htrim, hbalanced, rfl⟩
  · rw [mem_trimChars_iff hbrace] at hmem
    obtain ⟨p, hscan, -⟩ := closes_iff.mp hcloses
    exact ⟨.plain (Position.meetsBrace_eq_false rfl hmem hscan), .inl hmem⟩
  · obtain ⟨front, back, htext, hfront, hback⟩ := Text.exists_trimChars text
    have hinside : closes inside = true := by
      have htrimmed := isBalanced_of_closes ((closes_trimChars text).trans hcloses)
      rw [← closes_trimChars, (closes_declarations h htrimmed).2, closes_trimChars, hcloses]
    rw [htrim] at htext
    exact ⟨.braces (by simpa using htext) (.of_blank hfront) (.of_blank hback) hinside, .inr ⟨inside, htrim⟩⟩

theorem BlockOf.declarations? (h : BlockOf text body) (hexposed : IsExposed text) :
    declarations? (Text.trimChars text) = some body := by
  cases h with
  | plain hbrace =>
    rcases hexposed with hmem | ⟨inside, htrim⟩
    · exact declarations?_of_notMem fun h => hmem ((mem_trimChars_iff rfl).mp h)
    · exact absurd ((hasBrace_of_trimChars htrim).symm.trans hbrace) (by decide)
  | @braces front inside back htext hfront hback hinside =>
    obtain ⟨before, after, htrim, hbefore, hafter⟩ := trimChars_braces inside hfront hback
    rw [← htext] at htrim
    rcases hexposed with hmem | ⟨inside', htrim'⟩
    · exact absurd (htext ▸ by simp) hmem
    · -- the braces at the ends are those of the block
      obtain rfl : before = [] := by
        cases before with
        | nil => rfl
        | cons c before =>
          obtain ⟨rfl, -⟩ := List.cons.inj (htrim.symm.trans htrim')
          exact absurd (hbefore _ rfl) (by decide)
      have hends : inside ++ '\x7d' :: after = inside' ++ ['\x7d'] :=
        (List.cons.inj (htrim.symm.trans htrim')).2
      obtain rfl : after = [] := by
        cases hlast : after.getLast? with
        | none => exact List.getLast?_eq_none_iff.mp hlast
        | some c =>
          have hc := congrArg List.getLast? hends
          rw [List.getLast?_append, List.getLast?_cons, hlast, List.getLast?_concat] at hc
          cases hc
          exact absurd (hafter _ hlast) (by decide)
      rw [htrim]
      exact declarations?_braces (isBalanced_of_closes hinside)

/-- An entry with all its strings and comments closed is taken for a block just if it is one and its characters
show that. -/
theorem declarations?_eq_some_iff (hcloses : closes text = true) :
    declarations? (Text.trimChars text) = some body ↔ BlockOf text body ∧ IsExposed text :=
  ⟨BlockOf.of_declarations? hcloses, fun h => h.1.declarations? h.2⟩

/-- The rules of a stylesheet, for entries with all their strings and comments closed. A block whose characters
show it has its declarations in the selector of its class; every other entry is emitted as it is. -/
theorem compile_blocks (table : Table) (sheet : Sheet) (h : compile table = .ok sheet) :
    sheet.css = "\n".intercalate (table.entries.map fun entry => (ruleOf entry).css) ∧
      ∀ entry : Entry, entry ∈ table.entries → closes entry.2.toList = true →
        (∀ declarations, BlockOf entry.2.toList declarations → IsExposed entry.2.toList →
          (ruleOf entry).css = wrapped (className entry.1) declarations) ∧
        ((∀ declarations, ¬BlockOf entry.2.toList declarations) ∨ ¬IsExposed entry.2.toList →
          (ruleOf entry).css = Text.trim entry.2) := by
  obtain ⟨rs, hrules, rfl⟩ := exists_of_map_eq_ok h
  obtain ⟨rfl, -⟩ := rules_eq hrules
  refine ⟨by simp [Function.comp_def], fun entry _ hcloses => ⟨fun body hblock hexposed => ?_, fun hfull => ?_⟩⟩
  · rw [ruleOf_bare ((declarations?_eq_some_iff hcloses).mpr ⟨hblock, hexposed⟩)]
  · have hnone : entry.declarations? = none := by
      refine Option.eq_none_iff_forall_ne_some.mpr fun body hbody => ?_
      obtain ⟨hblock, hexposed⟩ := (declarations?_eq_some_iff hcloses).mp hbody
      exact hfull.elim (fun hnot => hnot body hblock) fun hnot => hnot hexposed
    rw [ruleOf_full hnone]

theorem compile_blocks_margin :
    (∃ sheet, compile (OrderedMap.ofList [("card", " \x7b margin: 0; /* \x7b */ \x7d ")]) = .ok sheet) ∧
      closes " \x7b margin: 0; /* \x7b */ \x7d ".toList = true ∧
      (ruleOf ("card", " \x7b margin: 0; /* \x7b */ \x7d ")).css = ".card \x7b margin: 0; /* \x7b */ \x7d" := by
  have hcloses : closes " \x7b margin: 0; /* \x7b */ \x7d ".toList = true := by decide
  have hcompile : ∃ sheet,
      compile (OrderedMap.ofList [("card", " \x7b margin: 0; /* \x7b */ \x7d ")]) = .ok sheet := ⟨_, rfl⟩
  obtain ⟨sheet, hsheet⟩ := hcompile
  have htext : " \x7b margin: 0; /* \x7b */ \x7d ".toList =
      [' '] ++ '\x7b' :: (" margin: 0; /* \x7b */ ".toList ++ '\x7d' :: [' ']) := by decide
  have hblock : BlockOf " \x7b margin: 0; /* \x7b */ \x7d ".toList "margin: 0; /* \x7b */".toList :=
    .braces htext (.blank rfl .nil) (.blank rfl .nil) (by decide)
  have hexposed : IsExposed " \x7b margin: 0; /* \x7b */ \x7d ".toList :=
    .inr ⟨" margin: 0; /* \x7b */ ".toList, by decide⟩
  refine ⟨⟨sheet, hsheet⟩, hcloses, ?_⟩
  rw [((compile_blocks _ sheet hsheet).2 _ (List.mem_singleton_self _) hcloses).1 _ hblock hexposed]
  decide +kernel

/-- Blocks that do not show: one with a brace in a string, one with a comment behind it. They are emitted
without a selector. -/
theorem hidden_blocks :
    let table : Table :=
      OrderedMap.ofList [("quote", "content: \"\x7b\";"), ("note", "\x7b color: red; \x7d /* note */")]
    ∃ sheet, compile table = .ok sheet ∧
      closes "content: \"\x7b\";".toList = true ∧
      BlockOf "content: \"\x7b\";".toList "content: \"\x7b\";".toList ∧
      closes "\x7b color: red; \x7d /* note */".toList = true ∧
      BlockOf "\x7b color: red; \x7d /* note */".toList "color: red;".toList ∧
      sheet.css = "content: \"\x7b\";\n\x7b color: red; \x7d /* note */" := by
  refine ⟨_, rfl, by decide, .plain (by decide), by decide, ?_, by decide +kernel⟩
  have hbody : ¬['*', '/'] <:+: " note ".toList ++ ['*'] := by decide
  have hcomment : IsMargin " /* note */".toList := .blank rfl (.comment hbody .nil)
  have htext : "\x7b color: red; \x7d /* note */".toList =
      [] ++ '\x7b' :: (" color: red; ".toList ++ '\x7d' :: " /* note */".toList) := by decide
  exact .braces htext .nil hcomment (by decide)

end Style

end HtmlComponents
