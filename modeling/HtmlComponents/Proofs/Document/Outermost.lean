import HtmlComponents.Proofs.Document.Rebuild
import HtmlComponents.Proofs.Document.WellFormed

/-!
# Outermost elements

A search walks through a document from a stack of nodes and does not go into what it finds (`Search`). It finds
the accepted elements that are in no other accepted one, in document order, each once (`search_eq`).
`search_maximal` says so of the tree of every text, where the nodes found lie apart and hold all accepted elements.
-/

namespace HtmlComponents.Document

open Relation (TransGen)

/-- Whether a node is an element that a search looks for. -/
def Placed.isAccepted (accepts : Placed → Bool) (placed : Placed) : Bool :=
  placed.node.tag?.isSome && accepts placed

/-- A search from a stack of numbers, with what it finds in order: an accepted element is found and leaves the
stack, and of any other node the children take its place. -/
inductive Search (document : Document) (accepts : Placed → Bool) : List Nat → List Placed → Prop
  | done : Search document accepts [] []
  | found {id : Nat} {p : Placed} {stack : List Nat} {others : List Placed} (node : document.node? id = some p)
      (accepted : p.isAccepted accepts = true) (more : Search document accepts stack others) :
      Search document accepts (id :: stack) (p :: others)
  | passed {id : Nat} {p : Placed} {stack : List Nat} {others : List Placed} (node : document.node? id = some p)
      (refused : p.isAccepted accepts = false) (more : Search document accepts (p.childIds ++ stack) others) :
      Search document accepts (id :: stack) others

/-- `p` is the parent of `q`. -/
def IsParent (document : Document) (p q : Placed) : Prop :=
  p ∈ document.placed ∧ q ∈ document.placed ∧ q.parent = some p.id

/-- `p` is the parent of `q`, or the parent of its parent, and so on. -/
def IsAncestor (document : Document) : Placed → Placed → Prop := TransGen document.IsParent

/-- An accepted element that has no accepted ancestor. -/
def IsOutermost (document : Document) (accepts : Placed → Bool) (p : Placed) : Prop :=
  p.isAccepted accepts = true ∧ ∀ a, document.IsAncestor a p → a.isAccepted accepts = false

variable {document : Document} {accepts : Placed → Bool} {p q : Placed}

theorem Search.unique {stack : List Nat} {found others : List Placed} (h : Search document accepts stack found)
    (h' : Search document accepts stack others) : found = others := by
  induction h generalizing others with
  | done =>
    cases h'
    rfl
  | found node accepted _ ih =>
    cases h' with
    | found node' _ more' =>
      cases node.symm.trans node'
      rw [ih more']
    | passed node' refused' _ =>
      cases node.symm.trans node'
      cases accepted.symm.trans refused'
  | passed node refused _ ih =>
    cases h' with
    | found node' accepted' _ =>
      cases node.symm.trans node'
      cases refused.symm.trans accepted'
    | passed node' _ more' =>
      cases node.symm.trans node'
      exact ih more'

/-! ### Ancestors -/

theorem IsParent.unique {a b : Placed} (h : document.IsParent a p) (h' : document.IsParent b p) : a = b :=
  eq_of_id_eq h.1 h'.1 (Option.some.inj (h.2.2.symm.trans h'.2.2))

theorem IsParent.mem_inside (h : document.IsParent p q) : q ∈ p.inside := by
  obtain ⟨hp, hq, hparent⟩ := h
  have hlisted := (mem_listed_iff hq).mpr hparent.symm
  rw [listed_some hp, ← map_id_content, List.mem_map] at hlisted
  obtain ⟨child, hchild, hid⟩ := hlisted
  rw [← eq_of_id_eq (content_subset_placeNodes document.roots hp hchild) hq hid]
  exact siblings_subset _ _ _ _ hchild

theorem IsAncestor.mem_placed (h : document.IsAncestor p q) : p ∈ document.placed ∧ q ∈ document.placed := by
  induction h with
  | single h => exact ⟨h.1, h.2.1⟩
  | tail _ h ih => exact ⟨ih.1, h.2.1⟩

theorem IsAncestor.mem_inside (h : document.IsAncestor p q) : q ∈ p.inside := by
  induction h with
  | single h => exact h.mem_inside
  | tail _ h ih => exact inside_subset_placeNodes _ ih h.mem_inside

mutual

theorem isAncestor_of_mem_placeNode {p q : Placed} (hp : p ∈ document.placed) {id start : Nat} :
    (node : Node) → placeNode (some p.id) id start node ⊆ document.placed →
      q ∈ placeNode (some p.id) id start node → document.IsAncestor p q
  | .text _, hplaced, hq | .comment _, hplaced, hq | .declaration _, hplaced, hq | .lone _ _, hplaced, hq => by
    have hmem := hplaced hq
    rw [placeNode, List.mem_singleton] at hq
    exact .single ⟨hp, hmem, hq ▸ rfl⟩
  | .paired tag s children ending, hplaced, hq => by
    have hself := hplaced (mem_placeNode_self _ _ _ _)
    have hchild : document.IsAncestor p ⟨id, some p.id, start, .paired tag s children ending⟩ :=
      .single ⟨hp, hself, rfl⟩
    rw [placeNode, List.cons_subset] at hplaced
    rw [placeNode] at hq
    rcases List.mem_cons.mp hq with rfl | hq
    · exact hchild
    · exact hchild.trans (isAncestor_of_mem_placeNodes hself children hplaced.2 hq)

theorem isAncestor_of_mem_placeNodes {p q : Placed} (hp : p ∈ document.placed) {id start : Nat} :
    (nodes : List Node) → placeNodes (some p.id) id start nodes ⊆ document.placed →
      q ∈ placeNodes (some p.id) id start nodes → document.IsAncestor p q
  | [], _, hq => by simp [placeNodes] at hq
  | node :: rest, hplaced, hq => by
    rw [placeNodes, List.append_subset] at hplaced
    rw [placeNodes] at hq
    rcases List.mem_append.mp hq with hq | hq
    · exact isAncestor_of_mem_placeNode hp node hplaced.1 hq
    · exact isAncestor_of_mem_placeNodes hp rest hplaced.2 hq

end

/-- The ancestors of a node are those placed nodes that it is in. -/
theorem isAncestor_iff (hp : p ∈ document.placed) : document.IsAncestor p q ↔ q ∈ p.inside :=
  ⟨IsAncestor.mem_inside, isAncestor_of_mem_placeNodes hp _ (inside_subset_placeNodes document.roots hp)⟩

theorem isAncestor_child {a : Placed} (h : document.IsParent p q) (ha : document.IsAncestor a q) :
    a = p ∨ document.IsAncestor a p := by
  cases ha with
  | single h' => exact .inl (h'.unique h)
  | tail ha h' => exact .inr (h'.unique h ▸ ha)

/-! ### Extents -/

theorem stop_le_of_mem_placeNodes {parent : Option Nat} {id start : Nat} {nodes : List Node}
    (h : p ∈ placeNodes parent id start nodes) : p.stop ≤ start + Text.byteLength (Node.charsList nodes) := by
  obtain ⟨front, back, hchars, hstart⟩ := start_of_mem_placeNodes nodes h
  rw [Placed.stop, hstart, hchars, Node.bytes_eq, Text.byteLength_append, Text.byteLength_append]
  omega

theorem stop_le_of_mem_inside (h : q ∈ p.inside) : q.stop ≤ p.stop := by
  have hle := stop_le_of_mem_placeNodes h
  have hchars := byteLength_children_le p.node
  rw [Placed.openingStop] at hle
  have hstop : p.stop = p.start + Text.byteLength p.node.chars := congrArg (p.start + ·) p.node.bytes_eq
  omega

mutual

theorem pairwise_apart_placeNode {parent : Option Nat} {id start : Nat} : (node : Node) → node.Sound →
    (placeNode parent id start node).Pairwise fun p q => q ∈ p.inside ∨ p.stop ≤ q.start
  | .text _, _ | .comment _, _ | .declaration _, _ | .lone _ _, _ => List.pairwise_singleton _ _
  | .paired tag s children ending, h => by
    rw [placeNode_eq_cons]
    refine List.pairwise_cons.mpr ⟨fun q hq => .inl hq, ?_⟩
    exact pairwise_apart_placeNodes children h.children

/-- Of two nodes the later one is in the earlier one or behind it. -/
theorem pairwise_apart_placeNodes {parent : Option Nat} {id start : Nat} : (nodes : List Node) →
    (∀ node ∈ nodes, node.Sound) →
      (placeNodes parent id start nodes).Pairwise fun p q => q ∈ p.inside ∨ p.stop ≤ q.start
  | [], _ => .nil
  | node :: rest, h => by
    obtain ⟨hnode, hrest⟩ := List.forall_mem_cons.mp h
    rw [placeNodes]
    refine List.pairwise_append.mpr
      ⟨pairwise_apart_placeNode node hnode, pairwise_apart_placeNodes rest hrest, fun p hp q hq => .inr ?_⟩
    have hfirst : p ∈ placeNodes parent id start [node] := by
      rwa [placeNodes, placeNodes, List.append_nil]
    have hstop := stop_le_of_mem_placeNodes hfirst
    rw [Node.charsList, Node.charsList, List.append_nil, ← Node.bytes_eq] at hstop
    exact hstop.trans (bounds_of_mem_placeNodes hrest hq).1

end

/-- Two nodes of which one ends before the other starts. -/
def Placed.Apart (p q : Placed) : Prop := p.stop ≤ q.start ∨ q.stop ≤ p.start

instance : Std.Symm Placed.Apart := ⟨fun _ _ => Or.symm⟩

/-! ### What a search finds -/

section
open Classical
variable {nodes : List Placed}

/-- The outermost accepted elements among nodes, in their order. -/
noncomputable def outermostOf (document : Document) (accepts : Placed → Bool) (nodes : List Placed) : List Placed :=
  nodes.filter fun p => decide (document.IsOutermost accepts p)

theorem mem_outermostOf :
    p ∈ document.outermostOf accepts nodes ↔ p ∈ nodes ∧ document.IsOutermost accepts p := by
  rw [outermostOf, List.mem_filter, decide_eq_true_iff]

theorem outermostOf_sublist (nodes : List Placed) : (document.outermostOf accepts nodes).Sublist nodes :=
  List.filter_sublist

theorem outermostOf_append (a b : List Placed) :
    document.outermostOf accepts (a ++ b) = document.outermostOf accepts a ++ document.outermostOf accepts b :=
  List.filter_append ..

theorem outermostOf_cons_of_pos (h : document.IsOutermost accepts p) :
    document.outermostOf accepts (p :: nodes) = p :: document.outermostOf accepts nodes :=
  List.filter_cons_of_pos (decide_eq_true h)

theorem outermostOf_cons_of_refused (h : p.isAccepted accepts = false) :
    document.outermostOf accepts (p :: nodes) = document.outermostOf accepts nodes := by
  refine List.filter_cons_of_neg fun houtermost => ?_
  cases h.symm.trans (of_decide_eq_true houtermost).1

end

theorem outermostOf_inside_of_accepted (hp : p ∈ document.placed) (h : p.isAccepted accepts = true) :
    document.outermostOf accepts p.inside = [] := by
  refine List.eq_nil_iff_forall_not_mem.mpr fun q hmem => ?_
  obtain ⟨hq, houtermost⟩ := mem_outermostOf.mp hmem
  cases h.symm.trans (houtermost.2 p ((isAncestor_iff hp).mpr hq))

/-- A search comes to a node that has no accepted ancestor, and finds what is outermost in it. -/
theorem search_cons {stack : List Nat} {others : List Placed} (hp : p ∈ document.placed)
    (houter : ∀ a, document.IsAncestor a p → a.isAccepted accepts = false)
    (more : Search document accepts stack others)
    (hinside : p.isAccepted accepts = false → Search document accepts (p.childIds ++ stack)
      (document.outermostOf accepts p.inside ++ others)) :
    Search document accepts (p.id :: stack) (document.outermostOf accepts (p :: p.inside) ++ others) := by
  cases haccepted : p.isAccepted accepts with
  | true =>
    rw [outermostOf_cons_of_pos ⟨haccepted, houter⟩, outermostOf_inside_of_accepted hp haccepted]
    exact .found (node?_id hp) haccepted more
  | false =>
    rw [outermostOf_cons_of_refused haccepted]
    exact .passed (node?_id hp) haccepted (hinside haccepted)

mutual

theorem search_node {parent : Option Nat} {id start : Nat} {stack : List Nat} {others : List Placed}
    (more : Search document accepts stack others) : (node : Node) →
      placeNode parent id start node ⊆ document.placed →
      (∀ a, document.IsAncestor a ⟨id, parent, start, node⟩ → a.isAccepted accepts = false) →
        Search document accepts (id :: stack)
          (document.outermostOf accepts (placeNode parent id start node) ++ others)
  | .text _, hplaced, houter | .comment _, hplaced, houter | .declaration _, hplaced, houter
  | .lone _ _, hplaced, houter =>
    search_cons (hplaced (mem_placeNode_self _ _ _ _)) houter more fun _ => more
  | .paired tag s children ending, hplaced, houter => by
    have hself := hplaced (mem_placeNode_self _ _ _ _)
    rw [placeNode_eq_cons] at hplaced ⊢
    refine search_cons hself houter more fun hrefused => ?_
    exact search_nodes more children (List.cons_subset.mp hplaced).2 fun p hp a ha => by
      -- the parent is refused, and what is around it is not accepted either
      have hparent : document.IsParent _ p := ⟨hself, (List.cons_subset.mp hplaced).2
        (siblings_subset _ _ _ _ hp), parent_of_mem_siblings hp⟩
      rcases isAncestor_child hparent ha with rfl | ha
      · exact hrefused
      · exact houter a ha

theorem search_nodes {parent : Option Nat} {id start : Nat} {stack : List Nat} {others : List Placed}
    (more : Search document accepts stack others) : (nodes : List Node) →
      placeNodes parent id start nodes ⊆ document.placed →
      (∀ p ∈ siblings parent id start nodes, ∀ a, document.IsAncestor a p → a.isAccepted accepts = false) →
        Search document accepts (siblingIds id nodes ++ stack)
          (document.outermostOf accepts (placeNodes parent id start nodes) ++ others)
  | [], _, _ => more
  | node :: rest, hplaced, houter => by
    rw [placeNodes, List.append_subset] at hplaced
    obtain ⟨hnode, hrest⟩ := List.forall_mem_cons.mp houter
    rw [placeNodes, outermostOf_append, List.append_assoc]
    exact search_node (search_nodes more rest hplaced.2 hrest) node hplaced.1 hnode

end

theorem search_eq (document : Document) (accepts : Placed → Bool) :
    Search document accepts document.rootIds (document.outermostOf accepts document.placed) := by
  have hroot : ∀ p ∈ siblings none 0 0 document.roots, ∀ a, document.IsAncestor a p →
      a.isAccepted accepts = false := by
    intro p hp a ha
    -- a root has no parent
    obtain ⟨b, -, -, -, hparent⟩ := TransGen.tail'_iff.mp ha
    cases (parent_of_mem_siblings hp).symm.trans hparent
  have h := search_nodes (.done : Search document accepts [] []) document.roots (List.Subset.refl _) hroot
  rwa [List.append_nil, List.append_nil] at h

/-! ### Searches by start tags -/

/-- Elements whose start tag passes a test. -/
def Placed.passes (test : StartTag → Bool) (placed : Placed) : Bool := placed.node.tag?.any test

theorem isAccepted_passes {test : StartTag → Bool} {tag : StartTag} (h : p.node.tag? = some tag) :
    p.isAccepted (Placed.passes test) = test tag := by
  rw [Placed.isAccepted, Placed.passes, h]
  rfl

theorem isAccepted_of_tag?_eq_none (h : p.node.tag? = none) : p.isAccepted accepts = false := by
  rw [Placed.isAccepted, h]
  rfl

section
variable {test : StartTag → Bool}

theorem search_element {tag : StartTag} {stack : List Nat} {others : List Placed}
    {found : List (StartTag × Placed)} (hp : p ∈ document.placed) (htag : p.node.tag? = some tag)
    (more : Search document (Placed.passes test) stack others)
    (hinside : test tag = false →
      Search document (Placed.passes test) (p.childIds ++ stack) (found.map Prod.snd ++ others)) :
    Search document (Placed.passes test) (p.id :: stack)
      ((if test tag then [(tag, p)] else found).map Prod.snd ++ others) := by
  have haccepted := @isAccepted_passes p test tag htag
  cases hpasses : test tag with
  | true => exact .found (node?_id hp) (haccepted.trans hpasses) more
  | false => exact .passed (node?_id hp) (haccepted.trans hpasses) (hinside hpasses)

mutual

theorem search_outermostIn {parent : Option Nat} {id start : Nat} {stack : List Nat} {others : List Placed}
    (more : Search document (Placed.passes test) stack others) : (node : Node) →
      placeNode parent id start node ⊆ document.placed →
        Search document (Placed.passes test) (id :: stack)
          ((outermostIn test parent id start node).map Prod.snd ++ others)
  | .text _, hplaced | .comment _, hplaced | .declaration _, hplaced =>
    .passed (node?_id (hplaced (mem_placeNode_self _ _ _ _))) (isAccepted_of_tag?_eq_none rfl) more
  | .lone _ _, hplaced => by
    rw [outermostIn]
    exact search_element (hplaced (mem_placeNode_self _ _ _ _)) rfl more fun _ => more
  | .paired _ _ children _, hplaced => by
    have hself := hplaced (mem_placeNode_self _ _ _ _)
    rw [placeNode] at hplaced
    rw [outermostIn]
    exact search_element hself rfl more fun _ =>
      search_outermostAmong more children (List.cons_subset.mp hplaced).2

theorem search_outermostAmong {parent : Option Nat} {id start : Nat} {stack : List Nat} {others : List Placed}
    (more : Search document (Placed.passes test) stack others) : (nodes : List Node) →
      placeNodes parent id start nodes ⊆ document.placed →
        Search document (Placed.passes test) (siblingIds id nodes ++ stack)
          ((outermostAmong test parent id start nodes).map Prod.snd ++ others)
  | [], _ => more
  | node :: rest, hplaced => by
    rw [placeNodes, List.append_subset] at hplaced
    rw [outermostAmong, List.map_append, List.append_assoc]
    exact search_outermostIn (search_outermostAmong more rest hplaced.2) node hplaced.1

end

/-- A search by start tags finds the outermost elements. -/
theorem search_outermost (document : Document) (test : StartTag → Bool) :
    Search document (Placed.passes test) document.rootIds ((document.outermost test).map Prod.snd) := by
  have h := search_outermostAmong (.done : Search document (Placed.passes test) [] []) document.roots
    (List.Subset.refl (placeNodes none 0 0 document.roots))
  rwa [List.append_nil, List.append_nil] at h

mutual

theorem outermostIn_congr {a b : StartTag → Bool} {parent : Option Nat} {id start : Nat} : (node : Node) →
    (∀ p ∈ placeNode parent id start node, ∀ tag ∈ p.node.tag?, a tag = b tag) →
      outermostIn a parent id start node = outermostIn b parent id start node
  | .text _, _ | .comment _, _ | .declaration _, _ => rfl
  | .lone tag s, h => by
    rw [outermostIn, outermostIn, h _ (mem_placeNode_self ..) tag rfl]
  | .paired tag s children ending, h => by
    rw [placeNode] at h
    obtain ⟨hself, hchildren⟩ := List.forall_mem_cons.mp h
    rw [outermostIn, outermostIn, hself tag rfl, outermostAmong_congr children hchildren]

theorem outermostAmong_congr {a b : StartTag → Bool} {parent : Option Nat} {id start : Nat} :
    (nodes : List Node) → (∀ p ∈ placeNodes parent id start nodes, ∀ tag ∈ p.node.tag?, a tag = b tag) →
      outermostAmong a parent id start nodes = outermostAmong b parent id start nodes
  | [], _ => rfl
  | node :: rest, h => by
    rw [placeNodes] at h
    obtain ⟨hnode, hrest⟩ := List.forall_mem_append.mp h
    rw [outermostAmong, outermostAmong, outermostIn_congr node hnode, outermostAmong_congr rest hrest]

end

theorem outermost_congr {a b : StartTag → Bool}
    (h : ∀ p ∈ document.placed, ∀ tag ∈ p.node.tag?, a tag = b tag) :
    document.outermost a = document.outermost b := outermostAmong_congr document.roots h

end

/-! ### What is found -/

/-- Exactly the outermost accepted elements, in document order and each once. They lie apart, one behind the
other, and every accepted element lies in exactly one of them. -/
structure Maximal (document : Document) (accepts : Placed → Bool) (found : List Placed) : Prop where
  order : ∃ order, Walk document document.rootIds order ∧ order.Nodup ∧ (found.map Placed.id).Sublist order
  mem_iff : ∀ p, p ∈ found ↔ p ∈ document.placed ∧ document.IsOutermost accepts p
  spans : ∀ p ∈ found, p.start < p.stop
  apart : found.Pairwise fun p q => p.stop ≤ q.start
  covers : ∀ p ∈ document.placed, p.isAccepted accepts = true →
    ∃! q, q ∈ found ∧ q.start ≤ p.start ∧ p.stop ≤ q.stop

section
variable (h : SoundLevel document.roots)
include h

theorem start_lt_stop (hp : p ∈ document.placed) : p.start < p.stop :=
  Nat.lt_add_of_pos_right (bytes_pos (sound_of_mem_placeNodes _ h.sound hp).chars_ne_nil)

theorem IsAncestor.bounds (hp : document.IsAncestor p q) : p.start < q.start ∧ q.stop ≤ p.stop :=
  ⟨(bounds_of_mem_inside (sound_of_mem_placeNodes _ h.sound hp.mem_placed.1) hp.mem_inside).1,
    stop_le_of_mem_inside hp.mem_inside⟩

theorem exists_isOutermost {p : Placed} (hp : p ∈ document.placed) (haccepted : p.isAccepted accepts = true) :
    ∃ q ∈ document.placed, document.IsOutermost accepts q ∧ q.start ≤ p.start ∧ p.stop ≤ q.stop := by
  by_cases houter : ∃ a, document.IsAncestor a p ∧ a.isAccepted accepts = true
  · -- the ancestor starts before, so the way outwards comes to an end
    obtain ⟨a, ha, hfound⟩ := houter
    have hlt := (IsAncestor.bounds h ha).1
    obtain ⟨q, hq, houtermost, hstart, hstop⟩ := exists_isOutermost ha.mem_placed.1 hfound
    exact ⟨q, hq, houtermost, hstart.trans hlt.le, (IsAncestor.bounds h ha).2.trans hstop⟩
  · refine ⟨p, hp, ⟨haccepted, fun a ha => ?_⟩, le_refl _, le_refl _⟩
    exact Bool.eq_false_iff.mpr fun hfound => houter ⟨a, ha, hfound⟩
termination_by p.start
decreasing_by exact hlt

theorem pairwise_outermostOf :
    (document.outermostOf accepts document.placed).Pairwise fun p q => p.stop ≤ q.start := by
  have hapart : document.placed.Pairwise fun p q => q ∈ p.inside ∨ p.stop ≤ q.start :=
    pairwise_apart_placeNodes document.roots h.sound
  refine (hapart.sublist (outermostOf_sublist _)).imp_of_mem fun {p q} hp hq hpq => hpq.resolve_left fun hin => ?_
  obtain ⟨hplaced, haccepted, -⟩ := mem_outermostOf.mp hp
  obtain ⟨-, -, houter⟩ := mem_outermostOf.mp hq
  cases haccepted.symm.trans (houter p ((isAncestor_iff hplaced).mpr hin))

theorem apart_of_mem_outermostOf (hp : p ∈ document.outermostOf accepts document.placed)
    (hq : q ∈ document.outermostOf accepts document.placed) (hne : p ≠ q) : p.Apart q :=
  List.Pairwise.forall ((pairwise_outermostOf h).imp .inl) hp hq hne

theorem maximal_outermostOf (accepts : Placed → Bool) :
    Maximal document accepts (document.outermostOf accepts document.placed) where
  order := by
    refine ⟨_, walk_rootIds document, List.nodup_range, ?_⟩
    rw [← map_id_placed]
    exact (outermostOf_sublist _).map _
  mem_iff _ := mem_outermostOf
  spans p hp := start_lt_stop h (mem_outermostOf.mp hp).1
  apart := pairwise_outermostOf h
  covers p hp haccepted := by
    obtain ⟨q, hq, houtermost, hstart, hstop⟩ := exists_isOutermost h hp haccepted
    have hq' := mem_outermostOf.mpr ⟨hq, houtermost⟩
    refine ⟨q, ⟨hq', hstart, hstop⟩, ?_⟩
    rintro r ⟨hr, hstart', hstop'⟩
    -- two that lie apart cannot both hold a node that is not empty
    have hlt := start_lt_stop h hp
    by_contra hne
    rcases apart_of_mem_outermostOf h hr hq' hne with hapart | hapart <;> omega

end

/-- In the tree of a text, `outermost` gives the maximal elements whose start tags pass a test, and they are what a
search for these finds. A search for elements by any other mark comes to one end too and finds the maximal ones. -/
theorem search_maximal (source : String) :
    (∀ test : StartTag → Bool,
      (∀ tag p, (tag, p) ∈ (parse source).outermost test → p.node.tag? = some tag) ∧
      Maximal (parse source) (Placed.passes test) (((parse source).outermost test).map Prod.snd) ∧
      Search (parse source) (Placed.passes test) (parse source).rootIds
        (((parse source).outermost test).map Prod.snd)) ∧
    ∀ accepts : Placed → Bool, ∃ found, Maximal (parse source) accepts found ∧
      ∀ others, Search (parse source) accepts (parse source).rootIds others ↔ others = found := by
  have hmaximal := fun accepts => maximal_outermostOf (soundLevel_ofChars source.toList) accepts
  refine ⟨fun test => ⟨fun tag p h => (tag_of_mem_outermostAmong _ h).2, ?_, search_outermost _ test⟩,
    fun accepts => ⟨_, hmaximal accepts, fun others => ?_⟩⟩
  · rw [(search_outermost (parse source) test).unique (search_eq _ _)]
    exact hmaximal _
  · have hsearch := search_eq (parse source) accepts
    exact ⟨fun h => h.unique hsearch, fun h => h ▸ hsearch⟩

end HtmlComponents.Document
