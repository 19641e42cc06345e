import HtmlComponents.Proofs.Document.Extent
import HtmlComponents.Proofs.Document.Pieces
import Mathlib.Data.List.Forall2

/-!
# A document with one node replaced

An element that consists of its start tag, with another one in its place (`Replaces`). The nodes keep their
numbers and their parents, and what stands behind the element moves (`Replaces.forall₂_placeNodes`).
-/

namespace HtmlComponents.Document

/-- Nodes with one of them replaced. `front` is the text before that one, and `count` the number of nodes before
it in document order. -/
inductive Replaces (old new : Node) :
    (front : List Char) → (count : Nat) → (nodes nodes' : List Node) → Prop
  | here (rest : List Node) : Replaces old new [] 0 (old :: rest) (new :: rest)
  | inside {front : List Char} {count : Nat} {children children' : List Node} (tag : StartTag)
      (s ending : List Char) (h : Replaces old new front count children children') (rest : List Node) :
      Replaces old new (s ++ front) (count + 1) (.paired tag s children ending :: rest)
        (.paired tag s children' ending :: rest)
  | later {front : List Char} {count : Nat} {rest rest' : List Node} (node : Node)
      (h : Replaces old new front count rest rest') :
      Replaces old new (node.chars ++ front) (node.count + count) (node :: rest) (node :: rest')

namespace Replaces

variable {old new node : Node} {front : List Char} {count : Nat} {a b nodes nodes' : List Node}

theorem append_right (h : Replaces old new front count nodes nodes') (b : List Node) :
    Replaces old new front count (nodes ++ b) (nodes' ++ b) := by
  induction h with
  | here rest => exact .here (rest ++ b)
  | inside tag s ending h rest => exact .inside tag s ending h (rest ++ b)
  | later node _ ih => exact .later node ih

theorem append_left (h : Replaces old new front count nodes nodes') (a : List Node) :
    ∃ count, Replaces old new (Node.charsList a ++ front) count (a ++ nodes) (a ++ nodes') := by
  induction a with
  | nil => exact ⟨count, h⟩
  | cons node a ih =>
    obtain ⟨count', ih⟩ := ih
    rw [Node.charsList, List.append_assoc]
    exact ⟨_, .later node ih⟩

theorem append_cases (h : Replaces old new front count (a ++ b) nodes') :
    (∃ a', Replaces old new front count a a' ∧ nodes' = a' ++ b) ∨
      ∃ front' count' b', front = Node.charsList a ++ front' ∧ Replaces old new front' count' b b' ∧
        nodes' = a ++ b' := by
  induction a generalizing front count nodes' with
  | nil => exact .inr ⟨front, count, nodes', rfl, h, rfl⟩
  | cons node a ih =>
    rw [List.cons_append] at h
    cases h with
    | here => exact .inl ⟨new :: a, .here a, rfl⟩
    | inside tag s ending h => exact .inl ⟨_, .inside tag s ending h a, rfl⟩
    | later _ h =>
      rcases ih h with ⟨a', ha, rfl⟩ | ⟨front', count', b', rfl, hb, rfl⟩
      · exact .inl ⟨node :: a', .later node ha, rfl⟩
      · exact .inr ⟨front', count', b', by rw [Node.charsList, List.append_assoc], hb, rfl⟩

theorem singleton_cases (h : Replaces old new front count [node] nodes') :
    (node = old ∧ front = [] ∧ nodes' = [new]) ∨
      ∃ tag s ending children children' front' count', node = .paired tag s children ending ∧
        front = s ++ front' ∧ Replaces old new front' count' children children' ∧
        nodes' = [.paired tag s children' ending] := by
  cases h with
  | here => exact .inl ⟨rfl, rfl, rfl⟩
  | inside tag s ending h => exact .inr ⟨tag, s, ending, _, _, _, _, rfl, rfl, h, rfl⟩
  | later _ h => cases h

end Replaces

/-! ### Places -/

/-- A node without its content. -/
def Node.emptied : Node → Node
  | paired tag s _ ending => paired tag s [] ending
  | node => node

/-- An offset, two bytes further if it lies behind `point`. -/
def shifted (point offset : Nat) : Nat := if offset ≤ point then offset else offset + 2

theorem shifted_of_le {point offset : Nat} (h : offset ≤ point) : shifted point offset = offset := if_pos h

theorem shifted_of_lt {point offset : Nat} (h : point < offset) : shifted point offset = offset + 2 :=
  if_neg (Nat.not_le.mpr h)

/-- Placed nodes of two documents that have the same nodes but for that of the number `target`, which begins at
`point` and has two bytes more as `new`. -/
structure Corresponds (target point : Nat) (new : Node) (q q' : Placed) : Prop where
  id : q'.id = q.id
  parent : q'.parent = q.parent
  childIds : q'.childIds = q.childIds
  node : q'.node.emptied = if q.id = target then new else q.node.emptied
  start : q'.start = shifted point q.start
  openingStop : q'.openingStop = shifted point q.openingStop
  stop : q'.stop = shifted point q.stop

def Placed.moved (bytes : Nat) (q : Placed) : Placed := { q with start := q.start + bytes }

section
variable {old new : Node} {p q : Placed} {target point : Nat}

theorem start_le_openingStop (q : Placed) : q.start ≤ q.openingStop := Nat.le_add_right _ _

theorem openingStop_le_stop (q : Placed) : q.openingStop ≤ q.stop := by
  rw [Placed.openingStop, Placed.stop]
  refine Nat.add_le_add_left ?_ _
  cases hnode : q.node with
  | paired => simp only [Node.openingChars, Node.bytes]; omega
  | text | comment | declaration | lone => exact Nat.le_refl _

theorem Corresponds.same (hid : q.id ≠ target) (hstop : q.stop ≤ point) : Corresponds target point new q q := by
  have hopening := openingStop_le_stop q
  have hstart := start_le_openingStop q
  exact ⟨rfl, rfl, rfl, (if_neg hid).symm, (shifted_of_le (by omega)).symm, (shifted_of_le (by omega)).symm,
    (shifted_of_le hstop).symm⟩

theorem Corresponds.moved (hid : q.id ≠ target) (hpoint : point < q.start) :
    Corresponds target point new q (q.moved 2) := by
  have hopening := openingStop_le_stop q
  have hstart := start_le_openingStop q
  refine ⟨rfl, rfl, rfl, (if_neg hid).symm, ?_, ?_, ?_⟩ <;> rw [shifted_of_lt (by omega)]
  · rfl
  · exact Nat.add_right_comm _ _ _
  · exact Nat.add_right_comm _ _ _

mutual

theorem placeNode_moved (parent : Option Nat) (id start bytes : Nat) : (node : Node) →
    placeNode parent id (start + bytes) node = (placeNode parent id start node).map (Placed.moved bytes)
  | .text _ | .comment _ | .declaration _ | .lone _ _ => rfl
  | .paired _ s children _ => by
    rw [placeNode, placeNode, List.map_cons, ← placeNodes_moved _ _ _ _ children, Nat.add_right_comm]
    rfl

theorem placeNodes_moved (parent : Option Nat) (id start bytes : Nat) : (nodes : List Node) →
    placeNodes parent id (start + bytes) nodes = (placeNodes parent id start nodes).map (Placed.moved bytes)
  | [] => rfl
  | node :: rest => by
    rw [placeNodes, placeNodes, List.map_append, placeNode_moved _ _ _ _ node, Nat.add_right_comm,
      placeNodes_moved _ _ _ _ rest]

end

mutual

theorem exists_replaces_of_placeNode (new : Node) {parent : Option Nat} {id start : Nat} :
    (node : Node) → p ∈ placeNode parent id start node → p.node = old →
    ∃ front count node', Replaces old new front count [node] [node'] ∧
      p.start = start + Text.byteLength front ∧ p.id = id + count
  | .text _, h, hold | .comment _, h, hold | .declaration _, h, hold | .lone _ _, h, hold => by
    rw [placeNode, List.mem_singleton] at h
    subst h hold
    exact ⟨[], 0, new, .here [], rfl, rfl⟩
  | .paired tag s children ending, h, hold => by
    rw [placeNode] at h
    rcases List.mem_cons.mp h with rfl | h
    · subst hold
      exact ⟨[], 0, new, .here [], rfl, rfl⟩
    · obtain ⟨front, count, children', hchildren, hstart, hid⟩ :=
        exists_replaces_of_placeNodes new children h hold
      refine ⟨s ++ front, count + 1, _, .inside tag s ending hchildren [], ?_, by omega⟩
      rw [hstart, Text.byteLength_append, Nat.add_assoc]

theorem exists_replaces_of_placeNodes (new : Node) {parent : Option Nat} {id start : Nat} :
    (nodes : List Node) → p ∈ placeNodes parent id start nodes → p.node = old →
    ∃ front count nodes', Replaces old new front count nodes nodes' ∧
      p.start = start + Text.byteLength front ∧ p.id = id + count
  | [], h, _ => by cases h
  | node :: rest, h, hold => by
    rw [placeNodes] at h
    rcases List.mem_append.mp h with h | h
    · obtain ⟨front, count, node', hnode, hstart, hid⟩ := exists_replaces_of_placeNode new node h hold
      exact ⟨front, count, _, hnode.append_right rest, hstart, hid⟩
    · obtain ⟨front, count, rest', hrest, hstart, hid⟩ := exists_replaces_of_placeNodes new rest h hold
      refine ⟨node.chars ++ front, node.count + count, _, .later node hrest, ?_, by omega⟩
      rw [hstart, Text.byteLength_append, ← Node.bytes_eq, Nat.add_assoc]

end

theorem bounds_of_placeNodes {parent : Option Nat} {id start : Nat} {nodes : List Node}
    (h : q ∈ placeNodes parent id start nodes) :
    id ≤ q.id ∧ q.id < id + Node.countList nodes ∧ start ≤ q.start ∧ q.stop ≤ start + Node.bytesList nodes := by
  have hid : q.id ∈ (placeNodes parent id start nodes).map Placed.id := List.mem_map_of_mem h
  rw [map_id_placeNodes, List.mem_range'_1] at hid
  obtain ⟨front, back, hchars, hstart⟩ := start_of_mem_placeNodes nodes h
  refine ⟨hid.1, hid.2, by omega, ?_⟩
  rw [Placed.stop, hstart, Node.bytesList_eq, hchars, Text.byteLength_append, Text.byteLength_append,
    Node.bytes_eq]
  omega

theorem forall₂_same {parent : Option Nat} {id start : Nat} {node : Node} (hid : id + node.count ≤ target)
    (hpoint : start + node.bytes ≤ point) :
    List.Forall₂ (Corresponds target point new) (placeNode parent id start node)
      (placeNode parent id start node) := by
  refine List.forall₂_same.mpr fun q hq => ?_
  have hmem : q ∈ placeNodes parent id start [node] := by
    rw [placeNodes]
    exact List.mem_append_left _ hq
  obtain ⟨-, hlt, -, hstop⟩ := bounds_of_placeNodes hmem
  simp only [Node.countList, Node.bytesList] at hlt hstop
  exact .same (by omega) (by omega)

theorem forall₂_moved {parent : Option Nat} {id start : Nat} (hid : target < id) (hpoint : point < start)
    (nodes : List Node) :
    List.Forall₂ (Corresponds target point new) (placeNodes parent id start nodes)
      (placeNodes parent id (start + 2) nodes) := by
  rw [placeNodes_moved, List.forall₂_map_right_iff]
  refine List.forall₂_same.mpr fun q hq => ?_
  obtain ⟨hle, -, hstart, -⟩ := bounds_of_placeNodes hq
  exact .moved (by omega) (by omega)

end

namespace Replaces

variable {tag tag' : StartTag} {s s' front : List Char} {count : Nat} {nodes nodes' : List Node}

theorem countList_eq (h : Replaces (.lone tag s) (.lone tag' s') front count nodes nodes') :
    Node.countList nodes' = Node.countList nodes := by
  induction h with
  | here => rfl
  | inside _ _ _ _ _ ih => simp only [Node.countList, Node.count, ih]
  | later _ _ ih => simp only [Node.countList, ih]

theorem siblingIds_eq (h : Replaces (.lone tag s) (.lone tag' s') front count nodes nodes') (id : Nat) :
    siblingIds id nodes' = siblingIds id nodes := by
  induction h generalizing id with
  | here => rfl
  | inside _ _ _ h => simp only [siblingIds, Node.count, h.countList_eq]
  | later _ _ ih => simp only [siblingIds, ih]

variable (hs : s ≠ []) (hbytes : Text.byteLength s' = Text.byteLength s + 2)

include hbytes in
theorem bytesList_eq (h : Replaces (.lone tag s) (.lone tag' s') front count nodes nodes') :
    Node.bytesList nodes' = Node.bytesList nodes + 2 := by
  induction h with
  | here => simp only [Node.bytesList, Node.bytes, hbytes]; omega
  | inside _ _ _ _ _ ih => simp only [Node.bytesList, Node.bytes, ih]; omega
  | later _ _ ih => simp only [Node.bytesList, ih]; omega

theorem count_lt (h : Replaces (.lone tag s) (.lone tag' s') front count nodes nodes') :
    count < Node.countList nodes := by
  induction h with
  | here => simp only [Node.countList, Node.count]; omega
  | inside _ _ _ _ _ ih => simp only [Node.countList, Node.count]; omega
  | later _ _ ih => simp only [Node.countList]; omega

include hs in
theorem byteLength_lt (h : Replaces (.lone tag s) (.lone tag' s') front count nodes nodes') :
    Text.byteLength front < Node.bytesList nodes := by
  induction h with
  | here =>
    have := Text.byteLength_pos hs
    simp only [Node.bytesList, Node.bytes, Text.byteLength_nil]
    omega
  | inside _ _ _ _ _ ih => simp only [Node.bytesList, Node.bytes, Text.byteLength_append]; omega
  | later _ _ ih => simp only [Node.bytesList, Text.byteLength_append, ← Node.bytes_eq]; omega

include hs hbytes in
/-- All nodes but the one that is replaced stay as they are, and those behind it move. -/
theorem forall₂_placeNodes (h : Replaces (.lone tag s) (.lone tag' s') front count nodes nodes')
    (parent : Option Nat) (id start : Nat) :
    List.Forall₂ (Corresponds (id + count) (start + Text.byteLength front) (.lone tag' s'))
      (placeNodes parent id start nodes) (placeNodes parent id start nodes') := by
  induction h generalizing parent id start with
  | here rest =>
    have hpos := Text.byteLength_pos hs
    have hnode : (Node.lone tag' s').bytes = (Node.lone tag s).bytes + 2 := hbytes
    rw [placeNodes, placeNodes, placeNode, placeNode, hnode, ← Nat.add_assoc]
    refine .cons ?_ (forall₂_moved (by simp [Node.count]) (by simp [Node.bytes]; omega) rest)
    have hstop : start + Text.byteLength s' = shifted start (start + Text.byteLength s) := by
      rw [shifted_of_lt (by omega), hbytes, Nat.add_assoc]
    exact ⟨rfl, rfl, rfl, (if_pos rfl).symm, (shifted_of_le (Nat.le_refl _)).symm, hstop, hstop⟩
  | @inside front count children children' tag₁ s₁ ending h rest ih =>
    have hlt := h.byteLength_lt hs
    have hcount : (Node.paired tag₁ s₁ children' ending).count = (Node.paired tag₁ s₁ children ending).count := by
      simp only [Node.count, h.countList_eq]
    have hnode : (Node.paired tag₁ s₁ children' ending).bytes =
        (Node.paired tag₁ s₁ children ending).bytes + 2 := by
      simp only [Node.bytes, h.bytesList_eq hbytes]
      omega
    rw [placeNodes, placeNodes, placeNode, placeNode, hcount, hnode, ← Nat.add_assoc]
    have hchildren := ih (some id) (id + 1) (start + Text.byteLength s₁)
    rw [Nat.add_right_comm, Nat.add_assoc, Nat.add_assoc, ← Text.byteLength_append] at hchildren
    have hlength := Text.byteLength_append s₁ front
    have hopening : start + Text.byteLength s₁ ≤ start + Text.byteLength (s₁ ++ front) := by omega
    have hcountlt := h.count_lt
    refine .cons ?_ (List.rel_append hchildren (forall₂_moved ?_ ?_ rest))
    · refine ⟨rfl, rfl, h.siblingIds_eq (id + 1), (if_neg ?_).symm, (shifted_of_le ?_).symm,
        (shifted_of_le hopening).symm, ?_⟩
      · show id ≠ id + (count + 1)
        omega
      · show start ≤ start + _
        omega
      · show start + (Node.paired tag₁ s₁ children' ending).bytes =
          shifted _ (start + (Node.paired tag₁ s₁ children ending).bytes)
        have hlater : start + Text.byteLength (s₁ ++ front) <
            start + (Node.paired tag₁ s₁ children ending).bytes := by
          rw [Node.bytes]
          omega
        rw [shifted_of_lt hlater, hnode, Nat.add_assoc]
    · simp only [Node.count]
      omega
    · simp only [Node.bytes]
      omega
  | @later front count rest rest' node h ih =>
    rw [placeNodes, placeNodes]
    refine List.rel_append (forall₂_same (by omega) ?_) ?_
    · rw [Text.byteLength_append, ← Node.bytes_eq]
      omega
    · have hrest := ih parent (id + node.count) (start + node.bytes)
      rw [Text.byteLength_append, ← Node.bytes_eq, ← Nat.add_assoc, ← Nat.add_assoc]
      exact hrest

end Replaces

/-- A node that becomes the same in another place of a document makes the same of the document. -/
theorem Replaces.map_pieces {α : Type} {accepts : StartTag → Bool} {become : Piece → α}
    {old new : Node} {front : List Char} {count : Nat} {nodes nodes' : List Node}
    (h : Replaces old new front count nodes nodes')
    (hnode : (piecesIn accepts old).map become = (piecesIn accepts new).map become)
    (helement : ∀ tag, accepts tag = true → ∀ source source',
      become (.element tag source) = become (.element tag source')) :
    (pieces accepts nodes).map become = (pieces accepts nodes').map become := by
  induction h with
  | here rest => simp only [pieces, List.map_append, hnode]
  | inside tag s ending h rest ih =>
    rw [pieces, pieces, List.map_append, List.map_append, piecesIn, piecesIn]
    by_cases haccepts : accepts tag = true
    · -- the whole element is a tag of the same name
      rw [if_pos haccepts, if_pos haccepts, List.map_singleton, List.map_singleton, helement tag haccepts]
    · simp only [if_neg haccepts, List.map_cons, List.map_append, ih]
  | later node h ih => simp only [pieces, List.map_append, ih]

end HtmlComponents.Document
