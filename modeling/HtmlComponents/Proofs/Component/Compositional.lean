import HtmlComponents.Proofs.Component.Memory
import HtmlComponents.Proofs.Document.Alone

/-!
# Expansion is compositional

The outcome of a text is put together from the outcomes of its outermost component tags, each expanded on
its own (`composed_outcome`). So the outcome of a tag hangs neither on other tags nor on the text around it.
-/

namespace HtmlComponents

/-- A piece with something else in the place of an element. -/
def Document.replaced (replace : List Char → List Char) : Document.Piece → List Char
  | .literal s => s
  | .element _ source => replace source

namespace Component

open Document (Piece Placed Located pieces)

namespace Outcome

def concat (outcomes : List Outcome) : Outcome := outcomes.foldr append (literal [])

theorem html_concat (outcomes : List Outcome) : (concat outcomes).html = outcomes.flatMap html := by
  induction outcomes with
  | nil => rfl
  | cons outcome rest ih => exact congrArg (outcome.html ++ ·) ih

theorem errors_concat (outcomes : List Outcome) :
    (concat outcomes).errors = outcomes.flatMap errors := by
  induction outcomes with
  | nil => rfl
  | cons outcome rest ih => exact congrArg (outcome.errors ++ ·) ih

theorem warnings_concat (outcomes : List Outcome) :
    (concat outcomes).warnings = outcomes.flatMap warnings := by
  induction outcomes with
  | nil => rfl
  | cons outcome rest ih => exact congrArg (outcome.warnings ++ ·) ih

/-- `whole` is what becomes of a text in which elements were found, if each of them becomes of its own
source what `alone` says: the elements are replaced, what is between them is copied, and errors and warnings are
gathered in their order. -/
structure Composed (alone : List Char → Outcome) (text : List Char)
    (found : List (StartTag × Placed)) (whole : Outcome) : Prop where
  html : ∃ ps, Located 0 ps found ∧ ps.flatMap Piece.source = text ∧
    whole.html = ps.flatMap (Document.replaced fun source => (alone source).html)
  errors : whole.errors = found.flatMap fun f => (alone f.2.node.chars).errors
  warnings : whole.warnings = found.flatMap fun f => (alone f.2.node.chars).warnings

end Outcome

namespace Session

open Outcome (literal)

/-- The outcome of a piece, given the outcomes of elements. -/
def pieceOutcome (use : StartTag → List Char → Outcome) : Piece → Outcome
  | .literal s => literal s
  | .element tag source => use tag source

/-- Pieces are expanded as if each of them were the first. -/
theorem fst_expandPieces {use : StartTag → List Char → Session Outcome}
    (huse : ∀ tag source, Stable (use tag source)) (registry : Registry) (ps : List Piece) :
    ((expandPieces use ps).run registry).1 =
      .concat (ps.map (pieceOutcome fun tag source => ((use tag source).run registry).1)) := by
  induction ps with
  | nil => rfl
  | cons piece rest ih =>
    cases piece with
    | literal s => exact congrArg (literal s).append ih
    | element tag source =>
      -- what the first element has remembered does not show in the others
      have hsame := (huse tag source).keeps registry
      have hrest := (stable_expandPieces huse rest).result registry _ hsame
      exact congrArg (Outcome.append _) (hrest.symm.trans ih)

/-- The outcome of HTML with nothing around it. -/
def outcome (options : Options) (registry : Registry) (html : List Char) : Outcome :=
  ((expand options (Scope.outside registry) html).run registry).1

variable {options : Options} {registry : Registry}

/-- The outcome of an element that was found in a text is that of its own source. -/
theorem outcome_element {text source : List Char} {tag : StartTag}
    (h : .element tag source ∈
      pieces (fun tag => registry.contains tag.localName) (Document.ofChars text).roots) :
    outcome options registry source =
      ((expandEntering options (Scope.outside registry) tag source).run registry).1 := by
  rw [outcome, expand_eq_expandPieces, run_bind, run_get, Document.pieces_of_mem_pieces h,
    expandPieces_element]

theorem outcome_eq_concat (options : Options) (registry : Registry) (text : List Char) :
    outcome options registry text =
      .concat ((pieces (fun tag => registry.contains tag.localName) (Document.ofChars text).roots).map
        (pieceOutcome fun _ source => outcome options registry source)) := by
  have huse := stable_expandEntering options (Scope.outside registry)
  rw [outcome, expand_eq_expandPieces, run_bind, run_get, fst_expandPieces huse]
  congr 1
  refine List.map_congr_left fun piece hpiece => ?_
  cases piece with
  | literal s => rfl
  | element tag source => exact (outcome_element hpiece).symm

theorem outcome_of_error {text source : List Char} {tag : StartTag} {e : Error}
    (h : .element tag source ∈
      pieces (fun tag => registry.contains tag.localName) (Document.ofChars text).roots)
    (herror : ((renderTag tag.localName tag.rawAttributes).run registry).1 = .error e) :
    outcome options registry source = .dropped e := by
  have hname : tag.localName ∈ (Scope.outside registry).idle :=
    Registry.contains_iff_mem_names.mp (Document.roots_of_mem_pieces _ (Document.alone_ofChars text) h).1
  have hdepth : ¬(Scope.outside registry).active.length > options.maxDepth := Nat.not_lt_zero _
  rw [outcome_element h, expandEntering, expandTag, expandUse, dif_pos hname, if_neg hdepth, run_bind,
    herror]
  rfl

theorem concat_located {start : Nat} {ps : List Piece} {found : List (StartTag × Placed)}
    (h : Located start ps found) (alone : List Char → Outcome) :
    let whole := Outcome.concat (ps.map (pieceOutcome fun _ source => alone source))
    let parts := Outcome.concat (found.map fun f => alone f.2.node.chars)
    whole.errors = parts.errors ∧ whole.warnings = parts.warnings := by
  induction h with
  | nil => exact ⟨rfl, rfl⟩
  | literal _ ih => exact ih
  | @element tag placed rest found _ ih =>
    obtain ⟨herrors, hwarnings⟩ := ih
    exact ⟨congrArg ((alone placed.node.chars).errors ++ ·) herrors,
      congrArg ((alone placed.node.chars).warnings ++ ·) hwarnings⟩

theorem composed_concat {ps : List Piece} {found : List (StartTag × Placed)} (h : Located 0 ps found)
    (alone : List Char → Outcome) :
    Outcome.Composed alone (ps.flatMap Piece.source) found
      (.concat (ps.map (pieceOutcome fun _ source => alone source))) := by
  obtain ⟨herrors, hwarnings⟩ := concat_located h alone
  refine ⟨⟨ps, h, rfl, ?_⟩, ?_, ?_⟩
  · rw [Outcome.html_concat, List.flatMap_map]
    congr 1
    funext piece
    cases piece <;> rfl
  · rw [herrors, Outcome.errors_concat, List.flatMap_map]
  · rw [hwarnings, Outcome.warnings_concat, List.flatMap_map]

/-- The outcome of a text is put together from those of the elements found in it. -/
theorem composed_outcome (options : Options) (registry : Registry) (text : List Char) :
    Outcome.Composed (outcome options registry) text
      ((Document.ofChars text).outermost fun tag => registry.contains tag.localName)
      (outcome options registry text) := by
  have hlocated := @Document.located_outermostAmong (fun tag => registry.contains tag.localName)
    none 0 0 (Document.ofChars text).roots
  have hsource := Document.source_pieces (fun tag => registry.contains tag.localName) (Document.ofChars text).roots
  have hchars : (Document.ofChars text).chars = text := Document.chars_ofChars text
  have hcomposed := composed_concat hlocated (outcome options registry)
  rwa [hsource, ← Document.chars, hchars, ← outcome_eq_concat] at hcomposed

end Session

end Component

end HtmlComponents
