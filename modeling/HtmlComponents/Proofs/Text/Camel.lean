import HtmlComponents.Proofs.Text.Words

/-!
# Camel case and kebab case

Words of ASCII letters are told apart by their capitals in camel case and by hyphens in kebab case. Both are cut
into the words that were written (`split_camel`, `split_kebab`), so each can be made of the other (`kebab_camel`,
`camel_kebab`).
-/

namespace HtmlComponents.Text

/-- A word of small ASCII letters. -/
structure IsSmall (word : List Char) : Prop where
  ne_nil : word ≠ []
  letters : ∀ c ∈ word, c.isLower = true

instance (word : List Char) : Decidable (IsSmall word) :=
  decidable_of_iff (word ≠ [] ∧ word.all Char.isLower = true)
    ⟨fun h => ⟨h.1, List.all_eq_true.mp h.2⟩, fun h => ⟨h.1, List.all_eq_true.mpr h.2⟩⟩

/-- An ASCII capital with a word of small letters behind it. -/
def IsHump (word : List Char) : Prop :=
  ∃ capital rest, word = capital :: rest ∧ capital.isUpper = true ∧ IsSmall rest

/-- A text in camel case: a small word, and words that begin with a capital. -/
structure IsCamel (text head : List Char) (humps : List (List Char)) : Prop where
  text_eq : text = head ++ humps.flatten
  head : IsSmall head
  humps : ∀ hump ∈ humps, IsHump hump

variable {c : Char} {word head text : List Char} {humps : List (List Char)}

/-! ### Letters -/

theorem isPrintable_of_isLower (h : c.isLower = true) : isPrintable c = true :=
  of_ascii (p := fun c => c.isLower = true → isPrintable c = true) (by decide +kernel) (toNat_lt_of_isLower h) h

theorem isPrintable_of_isUpper (h : c.isUpper = true) : isPrintable c = true :=
  of_ascii (p := fun c => c.isUpper = true → isPrintable c = true) (by decide +kernel) (toNat_lt_of_isUpper h) h

theorem upperChar_toLower (h : c.isUpper = true) : Case.upperChar c.toLower = [c] :=
  of_ascii (p := fun c => c.isUpper = true → Case.upperChar c.toLower = [c]) (by decide +kernel)
    (toNat_lt_of_isUpper h) h

namespace IsSmall

theorem map_toLower (h : IsSmall word) : word.map Char.toLower = word :=
  (List.map_congr_left fun c hc => toLower_of_isLower (h.letters c hc)).trans (List.map_id _)

theorem lower (h : IsSmall word) : Case.lower word = word :=
  (Case.lower_ascii fun c hc => toNat_lt_of_isLower (h.letters c hc)).trans h.map_toLower

theorem isPrintable (h : IsSmall word) : ∀ c ∈ word, isPrintable c = true :=
  fun c hc => isPrintable_of_isLower (h.letters c hc)

end IsSmall

namespace IsHump

theorem isPrintable (h : IsHump word) : ∀ c ∈ word, isPrintable c = true := by
  obtain ⟨capital, rest, rfl, hcapital, hrest⟩ := h
  exact List.forall_mem_cons.mpr ⟨isPrintable_of_isUpper hcapital, hrest.isPrintable⟩

theorem isSmall_map_toLower (h : IsHump word) : IsSmall (word.map Char.toLower) := by
  obtain ⟨capital, rest, rfl, hcapital, hrest⟩ := h
  rw [List.map_cons, hrest.map_toLower]
  exact ⟨List.cons_ne_nil _ _, List.forall_mem_cons.mpr ⟨isLower_toLower hcapital, hrest.letters⟩⟩

theorem lower (h : IsHump word) : Case.lower word = word.map Char.toLower :=
  Case.lower_ascii fun c hc => ((isPrintable_iff.mp (h.isPrintable c hc)).2).trans (by decide)

theorem capitalized_map_toLower (h : IsHump word) : Words.capitalized (word.map Char.toLower) = word := by
  obtain ⟨capital, rest, rfl, hcapital, hrest⟩ := h
  rw [List.map_cons, hrest.map_toLower, Words.capitalized, upperChar_toLower hcapital, hrest.lower]
  rfl

end IsHump

theorem IsCamel.isPrintable (h : IsCamel text head humps) : ∀ c ∈ text, isPrintable c = true := by
  rw [h.text_eq, List.forall_mem_append, List.forall_mem_flatten]
  exact ⟨h.head.isPrintable, fun hump hhump => (h.humps hump hhump).isPrintable⟩

/-! ### Where words start -/

namespace Words

theorem classes_small (h : c.isLower = true) :
    isSeparator [c] = false ∧ isLower [c] = true ∧ isUpper [c] = false ∧ isNumeral [c] = false :=
  of_ascii (p := fun c => c.isLower = true →
    isSeparator [c] = false ∧ isLower [c] = true ∧ isUpper [c] = false ∧ isNumeral [c] = false)
    (by decide +kernel) (toNat_lt_of_isLower h) h

theorem classes_capital (h : c.isUpper = true) :
    isSeparator [c] = false ∧ isUpper [c] = true ∧ isNumeral [c] = false :=
  of_ascii (p := fun c => c.isUpper = true →
    isSeparator [c] = false ∧ isUpper [c] = true ∧ isNumeral [c] = false)
    (by decide +kernel) (toNat_lt_of_isUpper h) h

theorem starts_small {before : Option Cluster} (hbefore : before.any isNumeral = false)
    (h : c.isLower = true) (after : Option Cluster) : starts before [c] after = false := by
  obtain ⟨-, -, hupper, hnumeral⟩ := classes_small h
  cases before with
  | none => rfl
  | some left =>
    have hleft : isNumeral left = false := hbefore
    cases after <;> simp [starts, changes, hleft, hupper, hnumeral]

theorem starts_capital {left : Char} (hleft : left.isLower = true) (h : c.isUpper = true) (after : Option Cluster) :
    starts (some [left]) [c] after = true := by
  simp [starts, changes, (classes_small hleft).2.1, (classes_capital h).2.1]

/-- Small letters are added to the word before them, and the last of them is what a next word stands behind. -/
theorem splitFrom_small {before : Option Cluster} (hbefore : before.any isNumeral = false)
    {run : List Char} (h : IsSmall run) (word : List Char) (rest : List Cluster) :
    ∃ last, last.isLower = true ∧
      splitFrom before word (run.map ([·]) ++ rest) = splitFrom (some [last]) (word ++ run) rest := by
  obtain ⟨hne, hletters⟩ := h
  induction run generalizing before word with
  | nil => exact absurd rfl hne
  | cons c run ih =>
    obtain ⟨hc, hrun⟩ := List.forall_mem_cons.mp hletters
    obtain ⟨hseparator, -, -, hnumeral⟩ := classes_small hc
    have hread : splitFrom before word ((c :: run).map ([·]) ++ rest) =
        splitFrom (some [c]) (word ++ [c]) (run.map ([·]) ++ rest) := by
      rw [List.map_cons, List.cons_append, splitFrom, hseparator, starts_small hbefore hc]
      rfl
    by_cases hnil : run = []
    · subst hnil
      exact ⟨c, hc, hread⟩
    · obtain ⟨last, hlast, heq⟩ := @ih (some [c]) hnumeral (word ++ [c]) hnil hrun
      rw [List.append_assoc, List.singleton_append] at heq
      exact ⟨last, hlast, hread.trans heq⟩

theorem splitFrom_humps {last : Char} (hlast : last.isLower = true) (h : ∀ hump ∈ humps, IsHump hump)
    (word : List Char) : splitFrom (some [last]) word (humps.flatten.map ([·])) = word :: humps := by
  induction humps generalizing last word with
  | nil => rfl
  | cons hump humps ih =>
    obtain ⟨⟨capital, rest, rfl, hcapital, hrest⟩, hhumps⟩ := List.forall_mem_cons.mp h
    obtain ⟨hseparator, -, hnumeral⟩ := classes_capital hcapital
    have hleft : (some [capital]).any isNumeral = false := hnumeral
    obtain ⟨last', hlast', heq⟩ := splitFrom_small hleft hrest [capital] (humps.flatten.map ([·]))
    have hclusters : ((capital :: rest) :: humps).flatten.map (fun c => [c]) =
        [capital] :: (rest.map ([·]) ++ humps.flatten.map ([·])) := by simp
    rw [hclusters, splitFrom, hseparator, starts_capital hlast hcapital, heq, ih hlast' hhumps]
    rfl

theorem split_camel (h : IsCamel text head humps) : split text = head :: humps := by
  have hnone : (none : Option Cluster).any isNumeral = false := rfl
  obtain ⟨last, hlast, heq⟩ := splitFrom_small hnone h.head [] (humps.flatten.map ([·]))
  have hwords : splitFrom none [] (Cluster.split text) = head :: humps := by
    rw [Cluster.split_printable h.isPrintable, h.text_eq, List.map_append, heq, splitFrom_humps hlast h.humps]
    rfl
  have hfilled : ∀ word ∈ head :: humps, (!word.isEmpty) = true := by
    refine List.forall_mem_cons.mpr ⟨by simpa using h.head.ne_nil, fun hump hhump => ?_⟩
    obtain ⟨capital, rest, rfl, -⟩ := h.humps hump hhump
    rfl
  rw [split, hwords, List.filter_eq_self.mpr hfilled]

theorem splitFrom_kebab {before : Option Cluster} (hbefore : before.any isNumeral = false)
    {words : List (List Char)} (h : ∀ w ∈ word :: words, IsSmall w) :
    splitFrom before [] ((['-'].intercalate (word :: words)).map ([·])) = word :: words := by
  induction words generalizing before word with
  | nil =>
    obtain ⟨last, -, heq⟩ := splitFrom_small hbefore (h word List.mem_cons_self) [] []
    rw [List.intercalate_singleton]
    rw [List.append_nil] at heq
    exact heq
  | cons next words ih =>
    obtain ⟨hword, hrest⟩ := List.forall_mem_cons.mp h
    let behind := (['-'].intercalate (next :: words)).map fun c => [c]
    obtain ⟨last, -, heq⟩ := splitFrom_small hbefore hword [] (['-'] :: behind)
    have hclusters : (['-'].intercalate (word :: next :: words)).map (fun c => [c]) =
        word.map ([·]) ++ ['-'] :: behind := by
      rw [List.intercalate_cons_cons]
      simp [behind]
    -- the hyphen ends the word, and the next one begins with nothing read of it
    have hnext : splitFrom (some [last]) word (['-'] :: behind) = word :: splitFrom (some ['-']) [] behind := rfl
    have hhyphen : (some ['-']).any isNumeral = false := rfl
    rw [hclusters, heq, List.nil_append, hnext, ih hhyphen hrest]

theorem split_kebab {words : List (List Char)} (h : ∀ w ∈ word :: words, IsSmall w) :
    split (['-'].intercalate (word :: words)) = word :: words := by
  have hprintable : ∀ c ∈ ['-'].intercalate (word :: words), isPrintable c = true := fun c hc => by
    rcases mem_intercalate hc with hsep | ⟨w, hw, hmem⟩
    · rw [List.mem_singleton.mp hsep]
      rfl
    · exact (h w hw).isPrintable c hmem
  have hnone : (none : Option Cluster).any isNumeral = false := rfl
  have hfilled : ∀ w ∈ word :: words, (!w.isEmpty) = true := fun w hw => by simpa using (h w hw).ne_nil
  rw [split, Cluster.split_printable hprintable, splitFrom_kebab hnone h, List.filter_eq_self.mpr hfilled]

/-! ### From one case to the other -/

/-- The words of a text in camel case as kebab case has them. -/
def smallWords (head : List Char) (humps : List (List Char)) : List (List Char) :=
  head :: humps.map (List.map Char.toLower)

theorem isSmall_of_mem_smallWords (h : IsCamel text head humps) : ∀ w ∈ smallWords head humps, IsSmall w := by
  refine List.forall_mem_cons.mpr ⟨h.head, List.forall_mem_map.mpr fun hump hhump => ?_⟩
  exact (h.humps hump hhump).isSmall_map_toLower

theorem kebab_camel {key : String} (h : IsCamel key.toList head humps) :
    kebab key = String.ofList (['-'].intercalate (smallWords head humps)) := by
  rw [kebab, split_camel h, List.map_cons, h.head.lower, smallWords,
    List.map_congr_left fun hump hhump => (h.humps hump hhump).lower]

theorem camel_kebab {key : String} (h : IsCamel key.toList head humps) :
    camel (String.ofList (['-'].intercalate (smallWords head humps))) = key := by
  have hwords : split (['-'].intercalate (smallWords head humps)) = smallWords head humps :=
    split_kebab (isSmall_of_mem_smallWords h)
  have hhumps : (humps.map (List.map Char.toLower)).flatMap capitalized = humps.flatten := by
    rw [List.flatMap_map, List.flatMap_def]
    refine congrArg List.flatten ((List.map_congr_left fun hump hhump => ?_).trans (List.map_id _))
    exact (h.humps hump hhump).capitalized_map_toLower
  rw [camel, String.toList_ofList, hwords]
  rw [smallWords]
  dsimp only
  rw [h.head.lower, hhumps, ← h.text_eq, String.ofList_toList]

/-- Kebab case has a hyphen unless there is one word alone. -/
theorem hyphen_mem_iff (h : IsCamel text head humps) :
    '-' ∈ ['-'].intercalate (smallWords head humps) ↔ humps ≠ [] := by
  cases humps with
  | nil =>
    have hhead : '-' ∉ head := fun hmem => ne_hyphen_of_isLower (h.head.letters _ hmem) rfl
    simpa [smallWords] using hhead
  | cons hump humps => simp [smallWords]

end Words

end HtmlComponents.Text
