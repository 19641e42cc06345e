import HtmlComponents.Proofs.Document.Sound

/-!
# Extents of nodes

The bytes that nodes cover. `spans_of_mem_placed`: a placed node covers exactly its source text.
`tiles_siblings`: siblings cover their part of the text without gaps. `pairwise_start_placeNodes`: nodes
start in the order of their numbers, no two of them at one place.
-/

namespace HtmlComponents

/-- The bytes of `text` from `start` to `stop` are the characters of `part`; both offsets lie between
characters. -/
def Text.Spans (text : List Char) (start stop : Nat) (part : List Char) : Prop :=
  ∃ front back, text = front ++ part ++ back ∧ start = byteLength front ∧
    stop = byteLength (front ++ part)

namespace Document

/-- Placed nodes that follow one another from the offset `start` to the offset `stop`. -/
def Tiles (start stop : Nat) : List Placed → Prop
  | [] => start = stop
  | placed :: rest => placed.start = start ∧ Tiles placed.stop stop rest

theorem tiles_siblings (parent : Option Nat) (id start : Nat) (nodes : List Node) :
    Tiles start (start + Node.bytesList nodes) (siblings parent id start nodes) := by
  induction nodes generalizing id start with
  | nil => rfl
  | cons node rest ih =>
    rw [Node.bytesList, ← Nat.add_assoc]
    exact ⟨rfl, ih ..⟩

mutual

theorem start_of_mem_placeNode {parent : Option Nat} {id start : Nat} {p : Placed} :
    (node : Node) → p ∈ placeNode parent id start node →
      ∃ front back, node.chars = front ++ p.node.chars ++ back ∧
        p.start = start + Text.byteLength front
  | .text _, h | .comment _, h | .declaration _, h | .lone _ _, h => by
    rw [placeNode, List.mem_singleton] at h
    exact h ▸ ⟨[], [], by simp, rfl⟩
  | .paired _ s children ending, h => by
    rw [placeNode] at h
    rcases List.mem_cons.mp h with rfl | h
    · exact ⟨[], [], by simp, rfl⟩
    · obtain ⟨front, back, hchars, hstart⟩ := start_of_mem_placeNodes children h
      refine ⟨s ++ front, back ++ ending, ?_, ?_⟩
      · simp [Node.chars, hchars]
      · rw [hstart, Text.byteLength_append, Nat.add_assoc]

theorem start_of_mem_placeNodes {parent : Option Nat} {id start : Nat} {p : Placed} :
    (nodes : List Node) → p ∈ placeNodes parent id start nodes →
      ∃ front back, Node.charsList nodes = front ++ p.node.chars ++ back ∧
        p.start = start + Text.byteLength front
  | [], h => by simp [placeNodes] at h
  | node :: rest, h => by
    rw [placeNodes] at h
    rcases List.mem_append.mp h with h | h
    · obtain ⟨front, back, hchars, hstart⟩ := start_of_mem_placeNode node h
      exact ⟨front, back ++ Node.charsList rest, by simp [Node.charsList, hchars], hstart⟩
    · obtain ⟨front, back, hchars, hstart⟩ := start_of_mem_placeNodes rest h
      refine ⟨node.chars ++ front, back, by simp [Node.charsList, hchars], ?_⟩
      rw [hstart, Text.byteLength_append, ← Node.bytes_eq, Nat.add_assoc]

end

theorem spans_of_mem_placed {document : Document} {p : Placed} (h : p ∈ document.placed) :
    Text.Spans document.chars p.start p.stop p.node.chars := by
  obtain ⟨front, back, hchars, hstart⟩ := start_of_mem_placeNodes document.roots h
  rw [Nat.zero_add] at hstart
  refine ⟨front, back, hchars, hstart, ?_⟩
  rw [Placed.stop, hstart, Node.bytes_eq, Text.byteLength_append]

theorem bytes_pos {node : Node} (h : node.chars ≠ []) : 0 < node.bytes := by
  rw [Node.bytes_eq]
  exact Text.byteLength_pos h

/-! ### Where nodes start -/

/-- All nodes in a node. -/
def Placed.inside (placed : Placed) : List Placed :=
  placeNodes (some placed.id) (placed.id + 1) placed.openingStop placed.node.children

theorem placeNode_eq_cons (parent : Option Nat) (id start : Nat) (node : Node) :
    placeNode parent id start node =
      ⟨id, parent, start, node⟩ :: Placed.inside ⟨id, parent, start, node⟩ := by
  cases node <;> rfl

section
variable {parent : Option Nat} {id start : Nat} {p : Placed}

theorem bounds_of_mem_placeNodes {nodes : List Node} (h : ∀ node ∈ nodes, node.Sound)
    (hp : p ∈ placeNodes parent id start nodes) :
    start ≤ p.start ∧ p.start < start + Text.byteLength (Node.charsList nodes) := by
  obtain ⟨front, back, hchars, hstart⟩ := start_of_mem_placeNodes nodes hp
  have hpos := Text.byteLength_pos (sound_of_mem_placeNodes nodes h hp).chars_ne_nil
  rw [hchars, Text.byteLength_append, Text.byteLength_append]
  omega

theorem byteLength_children_le (node : Node) :
    Text.byteLength node.openingChars + Text.byteLength (Node.charsList node.children) ≤
      Text.byteLength node.chars := by
  cases node <;> simp [Node.openingChars, Node.children, Node.charsList, Node.chars, Text.byteLength_append]

theorem bounds_of_mem_inside (h : p.node.Sound) {q : Placed} (hq : q ∈ p.inside) :
    p.start < q.start ∧ q.start < p.stop := by
  have hopening := Text.byteLength_pos h.openingChars_ne_nil
  obtain ⟨hle, hlt⟩ := bounds_of_mem_placeNodes h.children hq
  have hchars := byteLength_children_le p.node
  rw [Placed.openingStop] at hle hlt
  rw [Placed.stop, Node.bytes_eq]
  omega

mutual

theorem pairwise_start_placeNode {parent : Option Nat} {id start : Nat} :
    (node : Node) → node.Sound →
      (placeNode parent id start node).Pairwise fun p q => p.start < q.start
  | .text _, _ | .comment _, _ | .declaration _, _ | .lone _ _, _ => List.pairwise_singleton _ _
  | .paired tag s children ending, h => by
    rw [placeNode_eq_cons]
    refine List.pairwise_cons.mpr ⟨fun q hq => (bounds_of_mem_inside h hq).1, ?_⟩
    exact pairwise_start_placeNodes children h.children

/-- Nodes start in document order, no two of them at one place. -/
theorem pairwise_start_placeNodes {parent : Option Nat} {id start : Nat} :
    (nodes : List Node) → (∀ node ∈ nodes, node.Sound) →
      (placeNodes parent id start nodes).Pairwise fun p q => p.start < q.start
  | [], _ => .nil
  | node :: rest, h => by
    obtain ⟨hnode, hrest⟩ := List.forall_mem_cons.mp h
    rw [placeNodes]
    refine List.pairwise_append.mpr
      ⟨pairwise_start_placeNode node hnode, pairwise_start_placeNodes rest hrest, fun p hp q hq => ?_⟩
    have hfirst : p ∈ placeNodes parent id start [node] := by
      rwa [placeNodes, placeNodes, List.append_nil]
    have hp := (bounds_of_mem_placeNodes (List.forall_mem_singleton.mpr hnode) hfirst).2
    have hq := (bounds_of_mem_placeNodes hrest hq).1
    rw [Node.charsList, Node.charsList, List.append_nil, ← Node.bytes_eq] at hp
    omega

end

end

end Document

end HtmlComponents
