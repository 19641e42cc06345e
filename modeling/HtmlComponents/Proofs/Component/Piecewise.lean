import HtmlComponents.Component.Expansion
import HtmlComponents.Proofs.Document.Pieces
import HtmlComponents.Proofs.OrderedMap

/-!
# Expansion piece by piece

Outcomes of texts that follow one another make up the outcome of the whole. `expand_eq_expandPieces`:
searching a document for tags, expanding them and replacing them by offsets is going through the pieces
of the document from its start to its end.
-/

namespace HtmlComponents.Component

open Document (Placed Piece Located pieces)

namespace Outcome

/-- Text without tags of components. -/
def literal (s : List Char) : Outcome := ⟨s, OrderedMap.empty, [], []⟩

/-- The outcome of two texts, one right after the other. -/
def append (a b : Outcome) : Outcome where
  html := a.html ++ b.html
  styles := a.styles.union b.styles
  errors := a.errors ++ b.errors
  warnings := a.warnings ++ b.warnings

theorem append_assoc (a b c : Outcome) : (a.append b).append c = a.append (b.append c) := by
  simp [append, OrderedMap.union_assoc]

@[simp] theorem literal_nil_append (a : Outcome) : (literal []).append a = a := by
  simp [append, literal]

@[simp] theorem append_literal_nil (a : Outcome) : a.append (literal []) = a := by
  simp [append, literal]

theorem literal_append (s t : List Char) : literal (s ++ t) = (literal s).append (literal t) := by
  simp [append, literal]

/-- The outcome of a text in which elements were cut out, from the offset `cursor` on. -/
def cutting (cursor : Nat) (text : List Char) (tags : List (Placed × Outcome)) : Outcome where
  html := Document.applyCuts cursor text (tags.map fun tag => tag.1.cut tag.2.html)
  styles := tags.foldr (fun tag styles => tag.2.styles.union styles) OrderedMap.empty
  errors := tags.flatMap fun tag => tag.2.errors
  warnings := tags.flatMap fun tag => tag.2.warnings

theorem cutting_nil (cursor : Nat) (text : List Char) : cutting cursor text [] = literal text := rfl

theorem cutting_cons {placed : Placed} {cursor : Nat} {before : List Char}
    (h : placed.start = cursor + Text.byteLength before) (outcome : Outcome) (rest : List Char)
    (tags : List (Placed × Outcome)) :
    cutting cursor (before ++ placed.node.chars ++ rest) ((placed, outcome) :: tags) =
      (literal before).append (outcome.append (cutting placed.stop rest tags)) := by
  simp only [cutting, List.map_cons, Document.applyCuts_cut h]
  simp [append, literal]

theorem spliced_eq_cutting {document : Document} {tags : List (Placed × Outcome)}
    (hplaced : ∀ tag ∈ tags, tag.1 ∈ document.placed)
    (hsorted : tags.Pairwise fun a b => a.1.start ≤ b.1.start) :
    spliced document tags = cutting 0 document.chars tags := by
  have hsplice : document.splice ((tags.map fun tag => (tag.1, tag.2.html)).map
      fun tag => (tag.1.id, tag.2)) = Document.applyCuts 0 document.chars
        ((tags.map fun tag => (tag.1, tag.2.html)).map fun tag => tag.1.cut tag.2) := by
    refine Document.splice_cuts (fun tag htag => ?_) (List.pairwise_map.mpr hsorted)
    obtain ⟨found, hfound, rfl⟩ := List.mem_map.mp htag
    exact hplaced found hfound
  rw [List.map_map, List.map_map] at hsplice
  rw [spliced, cutting, OrderedMap.foldl_union, OrderedMap.empty_union]
  congr 1

end Outcome

namespace Session

open Outcome (literal)

variable (use : StartTag → List Char → Session Outcome)

/-- Expands pieces one after another. `use` expands an element. -/
def expandPieces : List Piece → Session Outcome
  | [] => return literal []
  | .literal s :: rest => return (literal s).append (← expandPieces rest)
  | .element tag source :: rest => do
    let first ← use tag source
    return first.append (← expandPieces rest)

theorem expandPieces_append (a b : List Piece) :
    expandPieces use (a ++ b) = do
      let first ← expandPieces use a
      return first.append (← expandPieces use b) := by
  induction a with
  | nil => simp only [List.nil_append, expandPieces, pure_bind, Outcome.literal_nil_append, bind_pure]
  | cons piece rest ih =>
    cases piece <;>
      simp only [List.cons_append, expandPieces, ih, bind_assoc, pure_bind, Outcome.append_assoc]

theorem expandPieces_element (tag : StartTag) (source : List Char) :
    expandPieces use [.element tag source] = use tag source := by
  simp only [expandPieces, pure_bind, Outcome.append_literal_nil, bind_pure]

theorem expandPieces_literal (s : List Char) :
    expandPieces use [.literal s] = return literal s := by
  simp only [expandPieces, pure_bind, Outcome.append_literal_nil]

/-- Expands the tag of a component and the HTML that the component renders. -/
def expandEntering (options : Options) (scope : Scope) (tag : StartTag) (source : List Char) :
    Session Outcome :=
  expandTag options scope tag source fun name _ html => expand options (scope.enter name) html

/-- Expands found elements, each kept with its place. -/
def expandFound (found : List (StartTag × Placed)) : Session (List (Placed × Outcome)) :=
  found.mapM fun (tag, placed) => return (placed, ← use tag placed.node.chars)

theorem expandFound_cons (tag : StartTag) (placed : Placed) (found : List (StartTag × Placed)) :
    expandFound use ((tag, placed) :: found) = do
      let first ← use tag placed.node.chars
      return (placed, first) :: (← expandFound use found) := by
  simp [expandFound]

variable {use}

theorem expandFound_bind_congr {α : Type} {found : List (StartTag × Placed)}
    {f g : List (Placed × Outcome) → Session α}
    (h : ∀ tags : List (Placed × Outcome), tags.map Prod.fst = found.map Prod.snd → f tags = g tags) :
    expandFound use found >>= f = expandFound use found >>= g := by
  induction found generalizing f g with
  | nil =>
    have hnil := h [] rfl
    simpa [expandFound] using hnil
  | cons first found ih =>
    obtain ⟨tag, placed⟩ := first
    rw [expandFound_cons]
    simp only [bind_assoc, pure_bind]
    congr 1
    funext outcome
    -- expanding an element says nothing about its place, which is kept beside the outcome
    exact ih fun tags htags => h _ (by rw [List.map_cons, List.map_cons, htags])

/-- Expanding found elements and cutting them out of the text is expanding its pieces. -/
theorem expandFound_cutting {start cursor : Nat} {before : List Char} {ps : List Piece}
    {found : List (StartTag × Placed)} (h : Located start ps found)
    (hstart : start = cursor + Text.byteLength before) :
    (do return Outcome.cutting cursor (before ++ ps.flatMap Piece.source) (← expandFound use found)) =
      do return (literal before).append (← expandPieces use ps) := by
  -- `before` is what has been passed since the last element and is not written yet
  induction h generalizing cursor before with
  | nil => simp [expandFound, expandPieces, Outcome.cutting_nil]
  | @literal start s rest found _ ih =>
    have hnext := @ih cursor (before ++ s) (by rw [Text.byteLength_append, hstart, Nat.add_assoc])
    rw [List.append_assoc] at hnext
    rw [List.flatMap_cons, Piece.source, hnext, expandPieces]
    simp [Outcome.literal_append, Outcome.append_assoc]
  | @element tag placed rest found _ ih =>
    have hnext := @ih placed.stop [] (Nat.add_zero _).symm
    rw [List.nil_append] at hnext
    rw [List.flatMap_cons, Piece.source, ← List.append_assoc, expandFound_cons, expandPieces]
    simp only [bind_assoc, pure_bind, Outcome.cutting_cons hstart]
    congr 1
    funext outcome
    have houtcome := congrArg
      (fun m : Session Outcome => m >>= fun o => pure ((literal before).append (outcome.append o))) hnext
    simpa using houtcome

theorem expand_eq_expandFound (options : Options) (scope : Scope) (html : List Char) :
    expand options scope html = (do
      let registry ← get
      let document := Document.ofChars html
      let outcomes ← expandFound (expandEntering options scope)
        (document.outermost fun tag => registry.contains tag.localName)
      return .spliced document outcomes) := by
  rw [expand]
  rfl

theorem expand_eq_expandPieces (options : Options) (scope : Scope) (html : List Char) :
    expand options scope html = (do
      let registry ← get
      expandPieces (expandEntering options scope)
        (pieces (fun tag => registry.contains tag.localName) (Document.ofChars html).roots)) := by
  rw [expand_eq_expandFound]
  congr 1
  funext registry
  have hlocated := @Document.located_outermostAmong (fun tag => registry.contains tag.localName)
    none 0 0 (Document.ofChars html).roots
  have hsource : html = (pieces (fun tag => registry.contains tag.localName)
      (Document.ofChars html).roots).flatMap Piece.source := by
    rw [Document.source_pieces]
    exact (Document.chars_ofChars html).symm
  have hcut := @expandFound_cutting (expandEntering options scope) 0 0 [] _ _ hlocated rfl
  rw [List.nil_append, ← hsource] at hcut
  simp only [Outcome.literal_nil_append, bind_pure] at hcut
  rw [← hcut]
  refine expandFound_bind_congr fun tags htags => ?_
  congr 1
  rw [Outcome.spliced_eq_cutting, Document.chars_ofChars]
  · intro tag htag
    have hmem := List.mem_map_of_mem (f := Prod.fst) htag
    rw [htags] at hmem
    obtain ⟨found, hfound, heq⟩ := List.mem_map.mp hmem
    rw [← heq]
    exact Document.mem_placeNodes_of_mem_outermostAmong _ hfound
  · have hpairwise : (tags.map Prod.fst).Pairwise fun a b => a.start ≤ b.start := by
      rw [htags]
      exact List.pairwise_map.mpr hlocated.pairwise
    rw [List.pairwise_map] at hpairwise
    exact hpairwise

end Session

end HtmlComponents.Component
