import HtmlComponents.Document.Splice
import HtmlComponents.Proofs.Document.Numbering

/-!
# Documents in pieces

A document as a row of pieces: the outermost elements of some kind, and the text between them.
`located_outermostAmong`: the elements that a search finds are those of the pieces, each at its place.
`splice_cuts` and `applyCuts_cut`: replacing found elements goes through the pieces in their order.
-/

namespace HtmlComponents.Document

/-- A part of a document. -/
inductive Piece where
  | literal (source : List Char)
  /-- An element that is looked for. -/
  | element (tag : StartTag) (source : List Char)

def Piece.source : Piece → List Char
  | literal s => s
  | element _ s => s

section
variable (accepts : StartTag → Bool)

mutual

/-- The pieces of a node. The elements among them are the outermost ones that `accepts` takes. -/
def piecesIn : Node → List Piece
  | .text s => [.literal s]
  | .comment s => [.literal s]
  | .declaration s => [.literal s]
  | .lone tag s => if accepts tag then [.element tag s] else [.literal s]
  | .paired tag s children ending =>
    if accepts tag then [.element tag (Node.chars (.paired tag s children ending))]
    else .literal s :: (pieces children ++ [.literal ending])

/-- The pieces of siblings. -/
def pieces : List Node → List Piece
  | [] => []
  | node :: rest => piecesIn node ++ pieces rest

end

theorem pieces_append (a b : List Node) :
    pieces accepts (a ++ b) = pieces accepts a ++ pieces accepts b := by
  induction a with
  | nil => rfl
  | cons node rest ih => rw [List.cons_append, pieces, pieces, ih, List.append_assoc]

mutual

theorem source_piecesIn : (node : Node) → (piecesIn accepts node).flatMap Piece.source = node.chars
  | .text _ | .comment _ | .declaration _ => by simp [piecesIn, Piece.source, Node.chars]
  | .lone tag _ => by
    rw [piecesIn]
    split <;> simp [Piece.source, Node.chars]
  | .paired tag s children ending => by
    rw [piecesIn]
    split
    · simp [Piece.source]
    · simp [Piece.source, Node.chars, source_pieces children]

theorem source_pieces : (nodes : List Node) →
    (pieces accepts nodes).flatMap Piece.source = Node.charsList nodes
  | [] => rfl
  | node :: rest => by
    rw [pieces, List.flatMap_append, source_piecesIn node, source_pieces rest, Node.charsList]

end

end

/-- Found elements are those of pieces that begin at the offset `start`, in the same order, and each
stands at its place. -/
inductive Located : Nat → List Piece → List (StartTag × Placed) → Prop
  | nil (start : Nat) : Located start [] []
  | literal {start : Nat} {s : List Char} {rest : List Piece} {found : List (StartTag × Placed)}
      (h : Located (start + Text.byteLength s) rest found) :
      Located start (.literal s :: rest) found
  | element {tag : StartTag} {placed : Placed} {rest : List Piece}
      {found : List (StartTag × Placed)} (h : Located placed.stop rest found) :
      Located placed.start (.element tag placed.node.chars :: rest) ((tag, placed) :: found)

namespace Located

variable {start : Nat} {ps qs : List Piece} {found others : List (StartTag × Placed)}

theorem single (tag : StartTag) (p : Placed) :
    Located p.start [.element tag p.node.chars] [(tag, p)] := .element (.nil p.stop)

theorem append (h : Located start ps found)
    (h' : Located (start + Text.byteLength (ps.flatMap Piece.source)) qs others) :
    Located start (ps ++ qs) (found ++ others) := by
  induction h with
  | nil => simpa using h'
  | literal _ ih =>
    refine .literal (ih ?_)
    rw [List.flatMap_cons, Text.byteLength_append, ← Nat.add_assoc] at h'
    exact h'
  | element _ ih =>
    refine .element (ih ?_)
    rw [List.flatMap_cons, Text.byteLength_append, ← Nat.add_assoc] at h'
    rw [Placed.stop, Node.bytes_eq]
    exact h'

theorem mem (h : Located start ps found) {tag : StartTag} {p : Placed} (hp : (tag, p) ∈ found) :
    .element tag p.node.chars ∈ ps := by
  induction h with
  | nil => cases hp
  | literal _ ih => exact List.mem_cons_of_mem _ (ih hp)
  | element _ ih =>
    rcases List.mem_cons.mp hp with heq | hp
    · cases heq
      exact List.mem_cons_self
    · exact List.mem_cons_of_mem _ (ih hp)

theorem le_start (h : Located start ps found) : ∀ p ∈ found, start ≤ p.2.start := by
  induction h with
  | nil => simp
  | literal _ ih => exact fun p hp => by have := ih p hp; omega
  | element _ ih =>
    intro p hp
    rcases List.mem_cons.mp hp with rfl | hp
    · exact Nat.le_refl _
    · exact Nat.le_trans (Nat.le_add_right ..) (ih p hp)

theorem pairwise (h : Located start ps found) : found.Pairwise fun p q => p.2.start ≤ q.2.start := by
  induction h with
  | nil => exact .nil
  | literal _ ih => exact ih
  | element h ih =>
    exact .cons (fun p hp => Nat.le_trans (Nat.le_add_right ..) (h.le_start p hp)) ih

end Located

section
variable {accepts : StartTag → Bool}

mutual

theorem located_outermostIn (parent : Option Nat) (id start : Nat) : (node : Node) →
    Located start (piecesIn accepts node) (outermostIn accepts parent id start node)
  | .text _ | .comment _ | .declaration _ => .literal (.nil _)
  | .lone tag s => by
    rw [piecesIn, outermostIn]
    split
    · exact .single tag ⟨id, parent, start, .lone tag s⟩
    · exact .literal (.nil _)
  | .paired tag s children ending => by
    rw [piecesIn, outermostIn]
    split
    · exact .single tag ⟨id, parent, start, .paired tag s children ending⟩
    · refine .literal ?_
      have h := (located_outermostAmong (some id) (id + 1) (start + Text.byteLength s) children).append
        (.literal (.nil _) : Located _ [.literal ending] [])
      rwa [List.append_nil] at h

theorem located_outermostAmong (parent : Option Nat) (id start : Nat) : (nodes : List Node) →
    Located start (pieces accepts nodes) (outermostAmong accepts parent id start nodes)
  | [] => .nil start
  | node :: rest => by
    rw [pieces, outermostAmong]
    refine (located_outermostIn parent id start node).append ?_
    rw [source_piecesIn, ← Node.bytes_eq]
    exact located_outermostAmong parent (id + node.count) (start + node.bytes) rest

end

mutual

theorem tag_of_mem_outermostIn {parent : Option Nat} {id start : Nat} {tag : StartTag}
    {p : Placed} : (node : Node) → (tag, p) ∈ outermostIn accepts parent id start node →
      accepts tag = true ∧ p.node.tag? = some tag
  | .text _, h | .comment _, h | .declaration _, h => by simp [outermostIn] at h
  | .lone _ s, h => by
    rw [outermostIn] at h
    split at h
    · cases List.mem_singleton.mp h
      exact ⟨by assumption, rfl⟩
    · cases h
  | .paired _ s children ending, h => by
    rw [outermostIn] at h
    split at h
    · cases List.mem_singleton.mp h
      exact ⟨by assumption, rfl⟩
    · exact tag_of_mem_outermostAmong children h

theorem tag_of_mem_outermostAmong {parent : Option Nat} {id start : Nat} {tag : StartTag}
    {p : Placed} : (nodes : List Node) → (tag, p) ∈ outermostAmong accepts parent id start nodes →
      accepts tag = true ∧ p.node.tag? = some tag
  | [], h => by simp [outermostAmong] at h
  | node :: rest, h => by
    rw [outermostAmong] at h
    rcases List.mem_append.mp h with h | h
    · exact tag_of_mem_outermostIn node h
    · exact tag_of_mem_outermostAmong rest h

end

mutual

theorem mem_placeNode_of_mem_outermostIn {parent : Option Nat} {id start : Nat} {tag : StartTag}
    {p : Placed} : (node : Node) → (tag, p) ∈ outermostIn accepts parent id start node →
      p ∈ placeNode parent id start node
  | .text _, h | .comment _, h | .declaration _, h => by simp [outermostIn] at h
  | .lone _ s, h => by
    rw [outermostIn] at h
    split at h
    · cases List.mem_singleton.mp h
      exact mem_placeNode_self ..
    · cases h
  | .paired _ s children ending, h => by
    rw [outermostIn] at h
    split at h
    · cases List.mem_singleton.mp h
      exact mem_placeNode_self ..
    · exact List.mem_cons_of_mem _ (mem_placeNodes_of_mem_outermostAmong children h)

theorem mem_placeNodes_of_mem_outermostAmong {parent : Option Nat} {id start : Nat} {tag : StartTag}
    {p : Placed} : (nodes : List Node) → (tag, p) ∈ outermostAmong accepts parent id start nodes →
      p ∈ placeNodes parent id start nodes
  | [], h => by simp [outermostAmong] at h
  | node :: rest, h => by
    rw [outermostAmong] at h
    rw [placeNodes, List.mem_append]
    rcases List.mem_append.mp h with h | h
    · exact .inl (mem_placeNode_of_mem_outermostIn node h)
    · exact .inr (mem_placeNodes_of_mem_outermostAmong rest h)

end

end

/-- The part of a text that a node covers, with `text` to stand in its place. -/
def Placed.cut (placed : Placed) (text : List Char) : Cut := ⟨placed.start, placed.stop, text⟩

theorem find?_placed {document : Document} {p : Placed} (h : p ∈ document.placed) :
    document.placed.find? (fun q => q.id == p.id) = some p := by
  cases hfind : document.placed.find? (fun q => q.id == p.id) with
  | none =>
    have := List.find?_eq_none.mp hfind p h
    exact absurd (beq_self_eq_true p.id) this
  | some q =>
    have hid : q.id = p.id := by simpa using List.find?_some hfind
    rw [eq_of_id_eq (List.mem_of_find?_eq_some hfind) h hid]

theorem cuts_map {document : Document} {tags : List (Placed × List Char)}
    (h : ∀ tag ∈ tags, tag.1 ∈ document.placed) :
    document.cuts (tags.map fun tag => (tag.1.id, tag.2)) = tags.map fun tag => tag.1.cut tag.2 := by
  induction tags with
  | nil => rfl
  | cons tag rest ih =>
    have hfirst := find?_placed (h tag List.mem_cons_self)
    have hrest := ih fun t ht => h t (List.mem_cons_of_mem _ ht)
    rw [cuts] at hrest ⊢
    simp only [List.map_cons, List.filterMap_cons, hfirst, Option.map_some, hrest]
    rfl

/-- Replacing placed nodes is cutting them out, one after another. -/
theorem splice_cuts {document : Document} {tags : List (Placed × List Char)}
    (hplaced : ∀ tag ∈ tags, tag.1 ∈ document.placed)
    (hsorted : tags.Pairwise fun a b => a.1.start ≤ b.1.start) :
    document.splice (tags.map fun tag => (tag.1.id, tag.2)) =
      applyCuts 0 document.chars (tags.map fun tag => tag.1.cut tag.2) := by
  rw [splice, cuts_map hplaced, List.mergeSort_of_pairwise]
  rw [List.pairwise_map]
  exact hsorted.imp fun h => decide_eq_true h

theorem applyCuts_cut {placed : Placed} {cursor : Nat} {before : List Char}
    (h : placed.start = cursor + Text.byteLength before) (text rest : List Char) (more : List Cut) :
    applyCuts cursor (before ++ placed.node.chars ++ rest) (placed.cut text :: more) =
      before ++ text ++ applyCuts placed.stop rest more := by
  have hstart : placed.start - cursor = Text.byteLength before := by omega
  have hstop : placed.stop - cursor = Text.byteLength (before ++ placed.node.chars) := by
    rw [Text.byteLength_append, ← Node.bytes_eq, Placed.stop]
    omega
  rw [applyCuts, if_neg (by simp only [Placed.cut]; omega)]
  simp only [Placed.cut, hstart, hstop, Text.dropBytes_byteLength_append]
  rw [List.append_assoc before, Text.takeBytes_byteLength_append]

end HtmlComponents.Document
