import HtmlComponents.Proofs.Text.Blank
import HtmlComponents.Route.Declaration

/-!
# Declarations that are read

A declaration is read if it is a word, a gap and a path without blank space in it, whatever blank space stands
around the parts (`parseDeclaration_exact`). Its shape is looked at first: a word that names no method is only
reported for a declaration of this shape.
-/

namespace HtmlComponents.Route

open Text (isBlank isGap trimChars trimChars_dropWhile_isGap)

theorem sameName_iff {a b : String} :
    sameName a b = true ↔ a.toList.map Char.toLower = b.toList.map Char.toLower := by
  have hlower : ∀ text : String, text.toLower.toList = text.toList.map Char.toLower := fun _ => String.toList_map
  rw [sameName, beq_iff_eq, ← hlower, ← hlower, String.toList_inj]

namespace Method

theorem eq_of_sameName {method other : Method} {text : String} (h : sameName method.name text = true)
    (h' : sameName other.name text = true) : method = other := by
  have hnames := (sameName_iff.mp h).trans (sameName_iff.mp h').symm
  revert hnames
  cases method <;> cases other <;> decide

theorem mem_all (method : Method) : method ∈ all := by cases method <;> decide

theorem parse_of_sameName {method : Method} {text : String} (h : sameName method.name text = true) :
    parse text = .ok method := by
  rw [parse]
  cases hfound : all.find? fun method => sameName method.name text with
  | none => exact absurd h (List.find?_eq_none.mp hfound method method.mem_all)
  | some found =>
    have hsame : sameName found.name text = true := by simpa using List.find?_some hfound
    rw [eq_of_sameName hsame h]

theorem parse_of_unknown {text : String} (h : ∀ method : Method, sameName method.name text = false) :
    parse text = .error (.unsupportedMethod text) := by
  have hnone : (all.find? fun method => sameName method.name text) = none :=
    List.find?_eq_none.mpr fun method _ => by simp [h method]
  rw [parse, hnone]

theorem letters_of_sameName {method : Method} {word : String} (h : sameName method.name word = true) :
    word.toList ≠ [] ∧ ∀ c ∈ word.toList, c.isAlpha = true := by
  have hname : method.name.toList.map Char.toLower ≠ [] ∧
      (method.name.toList.map Char.toLower).all Char.isLower = true := by
    cases method <;> decide
  rw [sameName_iff.mp h, Ne, List.map_eq_nil_iff, List.all_eq_true, List.forall_mem_map] at hname
  exact ⟨hname.1, fun c hc => Text.isAlpha_of_isLower_toLower (hname.2 c hc)⟩

end Method

/-- Without the blank space around it, a declaration begins with a word of letters and a gap, and `rest` follows. -/
structure Opens (declaration word : String) (gap rest : List Char) : Prop where
  trimmed : trimChars declaration.toList = word.toList ++ (gap ++ rest)
  word_ne : word.toList ≠ []
  letters : ∀ c ∈ word.toList, c.isAlpha = true
  gap_ne : gap ≠ []
  gaps : ∀ c ∈ gap, isGap c = true

/-- A path without blank space in it, once that around it is taken away. -/
structure IsLonePath (rest : List Char) (path : String) : Prop where
  trimmed : trimChars rest = path.toList
  path_ne : path.toList ≠ []
  unbroken : ∀ c ∈ path.toList, isBlank c = false

/-- A declaration is a word and a path with a gap between them. -/
def Declares (declaration word path : String) : Prop :=
  ∃ gap rest, Opens declaration word gap rest ∧ IsLonePath rest path

/-- Why a text is not a declaration, in the words of its report. -/
inductive Malformed (declaration : String) : String → Prop
  | unopened (h : ∀ word gap rest, ¬Opens declaration word gap rest) :
      Malformed declaration "expected \"METHOD /path\""
  | unpathed {word : String} {gap rest : List Char} (hopens : Opens declaration word gap rest)
      (h : ∀ word path, ¬Declares declaration word path) :
      Malformed declaration "expected a single path after the method"

variable {declaration word path : String} {gap rest : List Char}

/-- What is split off does not depend on where the gap is taken to end. -/
theorem Opens.split (h : Opens declaration word gap rest) :
    splitDeclaration? (trimChars declaration.toList) = some (word.toList, rest.dropWhile isGap) := by
  obtain ⟨c, more, rfl⟩ := List.exists_cons_of_ne_nil h.gap_ne
  obtain ⟨hc, hmore⟩ := List.forall_mem_cons.mp h.gaps
  have hstop : ∀ d ∈ (c :: more ++ rest).head?, d.isAlpha = false :=
    Text.head?_cons_stop (Text.isAlpha_of_isGap hc) (more ++ rest)
  have hword : word.toList.isEmpty = false := by simpa using h.word_ne
  have hdrop : (c :: (more ++ rest)).dropWhile isGap = rest.dropWhile isGap := List.dropWhile_append_of_pos h.gaps
  rw [splitDeclaration?, h.trimmed, Text.takeWhile_append_stop h.letters hstop,
    Text.dropWhile_append_stop h.letters hstop]
  simp [hword, hc, hdrop]

theorem exists_opens {front back : List Char}
    (h : splitDeclaration? (trimChars declaration.toList) = some (front, back)) :
    ∃ word gap rest, Opens declaration word gap rest := by
  have htrimmed := (List.takeWhile_append_dropWhile (p := Char.isAlpha) (l := trimChars declaration.toList)).symm
  rw [splitDeclaration?] at h
  split at h
  · rename_i c rest hrest
    rw [hrest] at htrimmed
    split at h
    · rename_i hparts
      rw [Bool.and_eq_true, Bool.not_eq_true'] at hparts
      exact ⟨String.ofList _, [c], rest, by rwa [String.toList_ofList], by simpa using hparts.1,
        by rw [String.toList_ofList]; exact fun d hd => List.mem_takeWhile_imp hd, List.cons_ne_nil _ _,
        List.forall_mem_singleton.mpr hparts.2⟩
    · cases h
  · cases h

theorem parseDeclaration_of_declares (h : Declares declaration word path) :
    parseDeclaration declaration = (Method.parse word).map fun method => (method, path) := by
  obtain ⟨gap, rest, hopens, hpath⟩ := h
  have hbroken : (path.toList.isEmpty || path.toList.any isBlank) = false := by
    simpa [hpath.path_ne] using hpath.unbroken
  simp only [parseDeclaration, hopens.split, trimChars_dropWhile_isGap, hpath.trimmed, hbroken,
    String.ofList_toList, Bool.false_eq_true, if_false]

theorem parseDeclaration_of_malformed {reason : String} (h : Malformed declaration reason) :
    parseDeclaration declaration = .error (.invalidDeclaration declaration reason) := by
  cases h with
  | unopened h =>
    have hsplit : splitDeclaration? (trimChars declaration.toList) = none := by
      by_contra hsome
      obtain ⟨parts, hparts⟩ := Option.ne_none_iff_exists'.mp hsome
      obtain ⟨word, gap, rest, hopens⟩ := exists_opens hparts
      exact h word gap rest hopens
    rw [parseDeclaration, hsplit]
  | @unpathed word gap rest hopens h =>
    have hbroken : ((trimChars rest).isEmpty || (trimChars rest).any isBlank) = true := by
      by_contra hlone
      rw [Bool.not_eq_true, Bool.or_eq_false_iff] at hlone
      refine h word (String.ofList (trimChars rest)) ⟨gap, rest, hopens, ?_, ?_, ?_⟩ <;>
        rw [String.toList_ofList]
      · simpa using hlone.1
      · simpa using hlone.2
    simp only [parseDeclaration, hopens.split, trimChars_dropWhile_isGap, hbroken, if_true]

theorem malformed_iff : (∃ reason, Malformed declaration reason) ↔ ∀ word path, ¬Declares declaration word path := by
  constructor
  · rintro ⟨_, h⟩ word path ⟨gap, rest, hopens, hpath⟩
    cases h with
    | unopened h => exact h word gap rest hopens
    | unpathed _ h => exact h word path ⟨gap, rest, hopens, hpath⟩
  · intro h
    by_cases hopens : ∃ word gap rest, Opens declaration word gap rest
    · obtain ⟨word, gap, rest, hopens⟩ := hopens
      exact ⟨_, .unpathed hopens h⟩
    · exact ⟨_, .unopened fun word gap rest h => hopens ⟨word, gap, rest, h⟩⟩

theorem parseDeclaration_cases (declaration : String) :
    (∃ method word path, Declares declaration word path ∧ sameName method.name word = true ∧
      parseDeclaration declaration = .ok (method, path)) ∨
    (∃ word path, Declares declaration word path ∧ (∀ method : Method, sameName method.name word = false) ∧
      parseDeclaration declaration = .error (.unsupportedMethod word)) ∨
    ∃ reason, Malformed declaration reason ∧
      parseDeclaration declaration = .error (.invalidDeclaration declaration reason) := by
  by_cases h : ∃ word path, Declares declaration word path
  · obtain ⟨word, path, h⟩ := h
    have hparse := parseDeclaration_of_declares h
    by_cases hknown : ∃ method : Method, sameName method.name word = true
    · obtain ⟨method, hname⟩ := hknown
      rw [Method.parse_of_sameName hname] at hparse
      exact .inl ⟨method, word, path, h, hname, hparse⟩
    · have hunknown : ∀ method : Method, sameName method.name word = false := by simpa using hknown
      rw [Method.parse_of_unknown hunknown] at hparse
      exact .inr (.inl ⟨word, path, h, hunknown, hparse⟩)
  · obtain ⟨reason, hreason⟩ := malformed_iff.mpr fun word path hdeclares => h ⟨word, path, hdeclares⟩
    exact .inr (.inr ⟨reason, hreason, parseDeclaration_of_malformed hreason⟩)

theorem declares_append {front blanks back : List Char} {c : Char} (hfront : ∀ c ∈ front, isBlank c = true)
    (hne : word.toList ≠ []) (hletters : ∀ c ∈ word.toList, c.isAlpha = true) (hgap : isGap c = true)
    (hblanks : ∀ c ∈ blanks, isBlank c = true) (hpath : path.toList ≠ [])
    (hunbroken : ∀ c ∈ path.toList, isBlank c = false) (hback : ∀ c ∈ back, isBlank c = true) :
    Declares (String.ofList (front ++ (word.toList ++ c :: (blanks ++ path.toList)) ++ back)) word path := by
  have hlast : ∀ d ∈ (word.toList ++ c :: (blanks ++ path.toList)).getLast?, isBlank d = false := by
    intro d hd
    rw [← List.cons_append, ← List.append_assoc, List.getLast?_append_of_ne_nil _ hpath] at hd
    exact hunbroken d (List.mem_of_getLast? hd)
  have hfirst : ∀ d ∈ (word.toList ++ c :: (blanks ++ path.toList)).head?, isBlank d = false := by
    intro d hd
    rw [List.head?_append_of_ne_nil _ hne] at hd
    exact Text.isBlank_of_isAlpha (hletters d (List.mem_of_head? hd))
  have hrest : trimChars (blanks ++ path.toList) = path.toList := by
    have htrim := Text.trimChars_append hblanks (List.forall_mem_nil _)
      (fun d hd => hunbroken d (List.mem_of_head? hd)) (fun d hd => hunbroken d (List.mem_of_getLast? hd))
    rwa [List.append_nil] at htrim
  refine ⟨[c], blanks ++ path.toList, ⟨?_, hne, hletters, List.cons_ne_nil _ _, ?_⟩, hrest, hpath, hunbroken⟩
  · rw [String.toList_ofList, Text.trimChars_append hfront hback hfirst hlast]
    rfl
  · exact List.forall_mem_singleton.mpr hgap

/-- What a declaration reads as. It is a method and a path if it declares them, with the name of the method in any
case. A declaration of this shape with another word names an unsupported method. Any other text is invalid, and
reported as it was given. A declaration that is written out is read, whatever blank space is in it. -/
theorem parseDeclaration_exact :
    (∀ declaration : String,
      (∀ method path, parseDeclaration declaration = .ok (method, path) ↔
        ∃ word, Declares declaration word path ∧ sameName method.name word = true) ∧
      (∀ word, parseDeclaration declaration = .error (.unsupportedMethod word) ↔
        (∃ path, Declares declaration word path) ∧ ∀ method : Method, sameName method.name word = false) ∧
      (∀ given reason, parseDeclaration declaration = .error (.invalidDeclaration given reason) ↔
        given = declaration ∧ Malformed declaration reason) ∧
      ((∃ reason, Malformed declaration reason) ↔ ∀ word path, ¬Declares declaration word path)) ∧
    ∀ (method : Method) (word path : String) (front blanks back : List Char) (c : Char),
      sameName method.name word = true → isGap c = true → path.toList ≠ [] →
      (∀ d ∈ path.toList, isBlank d = false) → (∀ d ∈ front ++ blanks ++ back, isBlank d = true) →
        parseDeclaration (String.ofList (front ++ (word.toList ++ c :: (blanks ++ path.toList)) ++ back)) =
          .ok (method, path) := by
  refine ⟨fun declaration => ⟨fun method path => ⟨fun h => ?_, ?_⟩, fun word => ⟨fun h => ?_, ?_⟩,
    fun given reason => ⟨fun h => ?_, ?_⟩, malformed_iff⟩, ?_⟩
  · rcases parseDeclaration_cases declaration with
      ⟨method', word, path', hdeclares, hname, hparse⟩ | ⟨_, _, _, _, hparse⟩ | ⟨_, _, hparse⟩ <;>
      rw [h] at hparse <;> cases hparse
    exact ⟨word, hdeclares, hname⟩
  · rintro ⟨word, hdeclares, hname⟩
    rw [parseDeclaration_of_declares hdeclares, Method.parse_of_sameName hname]
    rfl
  · rcases parseDeclaration_cases declaration with
      ⟨_, _, _, _, _, hparse⟩ | ⟨word', path, hdeclares, hunknown, hparse⟩ | ⟨_, _, hparse⟩ <;>
      rw [h] at hparse <;> cases hparse
    exact ⟨⟨path, hdeclares⟩, hunknown⟩
  · rintro ⟨⟨path, hdeclares⟩, hunknown⟩
    rw [parseDeclaration_of_declares hdeclares, Method.parse_of_unknown hunknown]
    rfl
  · rcases parseDeclaration_cases declaration with
      ⟨_, _, _, _, _, hparse⟩ | ⟨_, _, _, _, hparse⟩ | ⟨reason', hreason, hparse⟩ <;>
      rw [h] at hparse <;> cases hparse
    exact ⟨rfl, hreason⟩
  · rintro ⟨rfl, hreason⟩
    exact parseDeclaration_of_malformed hreason
  · intro method word path front blanks back c hname hgap hpath hunbroken hblank
    simp only [List.mem_append, or_assoc] at hblank
    obtain ⟨hne, hletters⟩ := Method.letters_of_sameName hname
    rw [parseDeclaration_of_declares (declares_append (fun d hd => hblank d (.inl hd)) hne hletters hgap
      (fun d hd => hblank d (.inr (.inl hd))) hpath hunbroken fun d hd => hblank d (.inr (.inr hd))),
      Method.parse_of_sameName hname]
    rfl

/-- A method in mixed case, with line breaks and a no-break space around the path. -/
theorem parseDeclaration_exact_mixed :
    sameName Method.get.name "gEt" = true ∧
      parseDeclaration "\u00a0gEt\n\u2003/a\u00a0" = .ok (.get, "/a") := by
  have hname : sameName Method.get.name "gEt" = true := sameName_iff.mpr (by decide)
  have hpath : "/a".toList.any isBlank = false := by decide
  exact ⟨hname, parseDeclaration_exact.2 .get "gEt" "/a" ['\u00a0'] ['\u2003'] ['\u00a0'] '\n' hname
    (by decide) (by decide) (by simpa using hpath) (List.all_eq_true.mp rfl)⟩

end HtmlComponents.Route
