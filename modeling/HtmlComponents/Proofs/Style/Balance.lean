import HtmlComponents.Proofs.Text.Blank
import HtmlComponents.Style.Balance

/-!
# Reading of style texts in parts

How the position after a text hangs on the position before it: braces that are open already do not matter
(`scan?_raise`), nor does blank space at the ends (`closes_trimChars`). A balanced text ends outside strings,
comments and braces, or it leaves a comment open (`closes_eq_of_isBalanced`).
-/

namespace HtmlComponents

namespace Style

inductive Region where
  | outside
  | string
  | comment
deriving DecidableEq

def Place.region : Place → Region
  | .neutral | .slash => .outside
  | .string _ | .escape _ => .string
  | .comment _ => .comment

/-- Whether a text, read from its start, ends outside strings, comments and braces. -/
def closes (text : List Char) : Bool :=
  (scan? text).any fun p => p.depth == 0 && p.place.region == .outside

/-- Whether a text, read from its start, ends in a comment. -/
def leavesComment (text : List Char) : Bool :=
  (scan? text).any fun p => p.place.region == .comment

namespace Position

variable {p q : Position} {c : Char} {s : List Char}

/-- The position after a text that begins here. -/
def scan? (p : Position) (text : List Char) : Option Position := text.foldlM step? p

theorem scan?_cons (p : Position) (c : Char) (s : List Char) :
    p.scan? (c :: s) = (p.step? c).bind (·.scan? s) := List.foldlM_cons

theorem scan?_append (p : Position) (s t : List Char) :
    p.scan? (s ++ t) = (p.scan? s).bind (·.scan? t) := List.foldlM_append

theorem scan?_start (text : List Char) : startOfText.scan? text = Style.scan? text := rfl

/-! ### Braces that are open already -/

/-- The same place inside `k` more braces. -/
def raise (k : Nat) (p : Position) : Position := ⟨p.place, p.depth + k⟩

theorem stepNeutral?_raise {d : Nat} (h : stepNeutral? d c = some q) (k : Nat) :
    stepNeutral? (d + k) c = some (q.raise k) := by
  unfold stepNeutral? at h ⊢
  by_cases hclose : c = '\x7d'
  · subst hclose
    cases d with
    | zero => simp at h
    | succ d =>
      have hpred : d + 1 + k - 1 = d + k := by omega
      obtain rfl : ⟨.neutral, d⟩ = q := by simpa using h
      simp [raise, hpred]
  · grind [raise]

theorem step?_raise (h : p.step? c = some q) (k : Nat) : (p.raise k).step? c = some (q.raise k) := by
  obtain ⟨place, depth⟩ := p
  cases place with
  | neutral => exact stepNeutral?_raise h k
  | slash =>
    by_cases hstar : c = '*'
    · cases (if_pos hstar).symm.trans h
      exact if_pos hstar
    · rw [step?, if_neg hstar] at h
      rw [step?, if_neg hstar]
      exact stepNeutral?_raise h k
  | string quote | escape quote | comment star =>
    simp only [step?, raise] at h ⊢
    grind

/-- Inside more braces a text is read as it is outside them. -/
theorem scan?_raise (h : p.scan? s = some q) (k : Nat) : (p.raise k).scan? s = some (q.raise k) := by
  induction s generalizing p with
  | nil =>
    cases h
    rfl
  | cons c s ih =>
    rw [scan?_cons] at h ⊢
    obtain ⟨next, hstep, hrest⟩ := Option.bind_eq_some_iff.mp h
    rw [step?_raise hstep k]
    exact ih hrest

/-! ### Quotes -/

/-- Strings are in double or single quotes. -/
def IsQuoted (p : Position) : Prop :=
  ∀ quote, p.place = .string quote ∨ p.place = .escape quote → quote = '"' ∨ quote = '\''

theorem IsQuoted.step (hp : p.IsQuoted) (h : p.step? c = some q) : q.IsQuoted := by
  obtain ⟨place, depth⟩ := p
  have hneutral : stepNeutral? depth c = some q → q.IsQuoted := by
    intro h
    unfold stepNeutral? at h
    grind [IsQuoted]
  cases place with
  | neutral => exact hneutral h
  | slash | string quote | escape quote | comment star =>
    simp only [step?] at h
    grind [IsQuoted]

theorem IsQuoted.scan (hp : p.IsQuoted) (h : p.scan? s = some q) : q.IsQuoted := by
  induction s generalizing p with
  | nil =>
    cases h
    exact hp
  | cons c s ih =>
    rw [scan?_cons] at h
    obtain ⟨next, hstep, hrest⟩ := Option.bind_eq_some_iff.mp h
    exact ih (hp.step hstep) hrest

theorem isQuoted_start : startOfText.IsQuoted := by simp [IsQuoted, startOfText]

/-! ### Blank space -/

theorem ne_of_isBlank (h : Text.isBlank c = true) {d : Char} (hd : Text.isBlank d = false) : c ≠ d := by
  rintro rfl
  rw [h] at hd
  cases hd

/-- A blank character ends no string and no comment, and nothing begins with it. -/
theorem step?_blank (hp : p.IsQuoted) (h : Text.isBlank c = true) :
    ∃ place, p.step? c = some ⟨place, p.depth⟩ ∧ place.region = p.place.region := by
  have hdouble : c ≠ '"' := ne_of_isBlank h rfl
  have hsingle : c ≠ '\'' := ne_of_isBlank h rfl
  have hslash : c ≠ '/' := ne_of_isBlank h rfl
  have hstar : c ≠ '*' := ne_of_isBlank h rfl
  have hopen : c ≠ '\x7b' := ne_of_isBlank h rfl
  have hclose : c ≠ '\x7d' := ne_of_isBlank h rfl
  have hescape : c ≠ '\\' := ne_of_isBlank h rfl
  obtain ⟨place, depth⟩ := p
  cases place with
  | neutral | slash => exact ⟨.neutral, by simp [step?, stepNeutral?, *], rfl⟩
  | string quote =>
    have hquote : c ≠ quote := by
      rcases hp quote (.inl rfl) with rfl | rfl <;> assumption
    exact ⟨.string quote, by simp [step?, hescape, hquote], rfl⟩
  | escape quote => exact ⟨.string quote, rfl, rfl⟩
  | comment star => exact ⟨.comment false, by simp [step?, hslash, hstar], rfl⟩

theorem scan?_blank (hp : p.IsQuoted) (h : ∀ c ∈ s, Text.isBlank c = true) :
    ∃ place, p.scan? s = some ⟨place, p.depth⟩ ∧ place.region = p.place.region := by
  induction s generalizing p with
  | nil => exact ⟨p.place, rfl, rfl⟩
  | cons c s ih =>
    obtain ⟨hc, hs⟩ := List.forall_mem_cons.mp h
    obtain ⟨next, hstep, hregion⟩ := step?_blank hp hc
    obtain ⟨place, hscan, hregion'⟩ := ih (hp.step hstep) hs
    refine ⟨place, ?_, hregion'.trans hregion⟩
    rw [scan?_cons, hstep]
    exact hscan

theorem step?_outside (hp : p.place.region = .outside) (hc : c ≠ '*') :
    p.step? c = stepNeutral? p.depth c := by
  obtain ⟨place, depth⟩ := p
  cases place with
  | neutral => rfl
  | slash => exact if_neg hc
  | string quote | escape quote | comment star => cases hp

theorem scan?_start_blank (h : ∀ c ∈ s, Text.isBlank c = true) :
    startOfText.scan? s = some startOfText := by
  induction s with
  | nil => rfl
  | cons c s ih =>
    obtain ⟨hc, hs⟩ := List.forall_mem_cons.mp h
    have hstep : startOfText.step? c = some startOfText := by
      simp [startOfText, step?, stepNeutral?, ne_of_isBlank hc (d := '"') rfl,
        ne_of_isBlank hc (d := '\'') rfl, ne_of_isBlank hc (d := '/') rfl,
        ne_of_isBlank hc (d := '\x7b') rfl, ne_of_isBlank hc (d := '\x7d') rfl]
    rw [scan?_cons, hstep]
    exact ih hs

end Position

/-! ### Balanced texts -/

section
variable {text : List Char}

theorem isBalanced_iff :
    isBalanced text = true ↔ ∃ p, scan? text = some p ∧ p.depth = 0 ∧ p.place.region ≠ .string := by
  unfold isBalanced
  cases scan? text with
  | none => simp
  | some p => cases hplace : p.place <;> simp [hplace, Place.region]

theorem closes_iff :
    closes text = true ↔ ∃ p, scan? text = some p ∧ p.depth = 0 ∧ p.place.region = .outside := by
  cases hscan : scan? text <;> simp [closes, hscan]

/-- A balanced text closes everything, or it leaves a comment open. -/
theorem closes_eq_of_isBalanced (h : isBalanced text = true) : closes text = !leavesComment text := by
  obtain ⟨p, hscan, hdepth, hregion⟩ := isBalanced_iff.mp h
  cases hp : p.place.region <;> simp_all [closes, leavesComment]

theorem scan?_trimChars (text : List Char) :
    (scan? (Text.trimChars text)).map (fun p => (p.place.region, p.depth)) =
      (scan? text).map fun p => (p.place.region, p.depth) := by
  obtain ⟨front, back, htext, hfront, hback⟩ := Text.exists_trimChars text
  have hscan : scan? text = (scan? (Text.trimChars text)).bind (·.scan? back) := by
    refine (congrArg scan? htext).trans ?_
    rw [← Position.scan?_start, Position.scan?_append, Position.scan?_append,
      Position.scan?_start_blank hfront]
    rfl
  rw [hscan]
  cases hcore : scan? (Text.trimChars text) with
  | none => rfl
  | some p =>
    obtain ⟨place, hplace, hregion⟩ := Position.scan?_blank (Position.isQuoted_start.scan hcore) hback
    simp [hplace, hregion]

theorem isBalanced_trimChars (text : List Char) :
    isBalanced (Text.trimChars text) = isBalanced text := by
  have h := scan?_trimChars text
  rw [Bool.eq_iff_iff, isBalanced_iff, isBalanced_iff]
  cases hcore : scan? (Text.trimChars text) <;> cases hscan : scan? text <;> simp_all

theorem closes_trimChars (text : List Char) : closes (Text.trimChars text) = closes text := by
  have h := scan?_trimChars text
  rw [Bool.eq_iff_iff, closes_iff, closes_iff]
  cases hcore : scan? (Text.trimChars text) <;> cases hscan : scan? text <;> simp_all

end

end Style

end HtmlComponents
