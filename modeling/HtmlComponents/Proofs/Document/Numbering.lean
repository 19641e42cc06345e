import HtmlComponents.Document.Layout

/-!
# Numbers of nodes

A document as a table of nodes: a node is looked up by its number, and lists of numbers say which
nodes are the children of a node and which are outermost. `walk_rootIds`: following the lists visits
every node once, in the order of the numbers. `mem_listed_iff`: a node stands in the list of its
parent and in no other.
-/

namespace HtmlComponents.Document

/-- The node of a number. -/
def node? (document : Document) (id : Nat) : Option Placed := document.placed[id]?

/-- The numbers of the children of a node, or those of the outermost nodes. -/
def listed (document : Document) : Option Nat → List Nat
  | none => document.rootIds
  | some id => ((document.node? id).map Placed.childIds).getD []

/-- The children of a node, or the outermost nodes, looked up by their numbers. -/
def members (document : Document) (parent : Option Nat) : List Placed :=
  (document.listed parent).filterMap document.node?

/-- A walk from a stack of numbers, with the numbers that it visits in order: a visited node leaves
the stack, and its children take its place. -/
inductive Walk (document : Document) : List Nat → List Nat → Prop
  | done : Walk document [] []
  | visit {id : Nat} {placed : Placed} {stack order : List Nat}
      (found : document.node? id = some placed)
      (more : Walk document (placed.childIds ++ stack) order) :
      Walk document (id :: stack) (id :: order)

/-- Siblings in their places, without the nodes in them. -/
def siblings (parent : Option Nat) (id start : Nat) : List Node → List Placed
  | [] => []
  | node :: rest =>
    ⟨id, parent, start, node⟩ :: siblings parent (id + node.count) (start + node.bytes) rest

/-- The children of a node in their places. -/
def Placed.content (placed : Placed) : List Placed :=
  siblings (some placed.id) (placed.id + 1) placed.openingStop placed.node.children

theorem map_id_siblings (parent : Option Nat) (id start : Nat) (nodes : List Node) :
    (siblings parent id start nodes).map Placed.id = siblingIds id nodes := by
  induction nodes generalizing id start with
  | nil => rfl
  | cons node rest ih => simp only [siblings, siblingIds, List.map_cons, ih]

theorem map_id_content (placed : Placed) : placed.content.map Placed.id = placed.childIds :=
  map_id_siblings ..

theorem parent_of_mem_siblings {parent : Option Nat} {id start : Nat} {nodes : List Node}
    {p : Placed} (h : p ∈ siblings parent id start nodes) : p.parent = parent := by
  induction nodes generalizing id start with
  | nil => simp [siblings] at h
  | cons node rest ih =>
    rcases List.mem_cons.mp h with rfl | h
    · rfl
    · exact ih h

mutual

theorem map_id_placeNode (parent : Option Nat) (id start : Nat) :
    (node : Node) → (placeNode parent id start node).map Placed.id = List.range' id node.count
  | .text _ | .comment _ | .declaration _ | .lone _ _ => by simp [placeNode, Node.count]
  | .paired _ _ children _ => by
    rw [placeNode, List.map_cons, map_id_placeNodes _ _ _ children, Node.count, Nat.add_comm 1,
      List.range'_succ]

theorem map_id_placeNodes (parent : Option Nat) (id start : Nat) :
    (nodes : List Node) →
      (placeNodes parent id start nodes).map Placed.id = List.range' id (Node.countList nodes)
  | [] => by simp [placeNodes, Node.countList]
  | node :: rest => by
    rw [placeNodes, List.map_append, map_id_placeNode _ _ _ node, map_id_placeNodes _ _ _ rest,
      Node.countList, List.range'_append_1]

end

theorem mem_placeNode_self (parent : Option Nat) (id start : Nat) (node : Node) :
    ⟨id, parent, start, node⟩ ∈ placeNode parent id start node := by
  cases node <;> exact List.mem_cons_self ..

theorem siblings_subset (parent : Option Nat) (id start : Nat) (nodes : List Node) :
    siblings parent id start nodes ⊆ placeNodes parent id start nodes := by
  induction nodes generalizing id start with
  | nil => exact List.nil_subset _
  | cons node rest ih =>
    rw [siblings, placeNodes]
    refine List.cons_subset.mpr ⟨?_, fun p hp => List.mem_append_right _ (ih _ _ hp)⟩
    exact List.mem_append_left _ (mem_placeNode_self ..)

mutual

theorem content_subset_placeNode {parent : Option Nat} {id start : Nat} {q : Placed} :
    (node : Node) → q ∈ placeNode parent id start node →
      q.content ⊆ placeNode parent id start node
  | .text _, h | .comment _, h | .declaration _, h | .lone _ _, h => by
    rw [placeNode, List.mem_singleton] at h
    exact h ▸ List.nil_subset _
  | .paired _ _ children _, h => by
    rw [placeNode] at h ⊢
    rcases List.mem_cons.mp h with rfl | h
    · exact fun p hp => List.mem_cons_of_mem _ (siblings_subset _ _ _ children hp)
    · exact fun p hp => List.mem_cons_of_mem _ (content_subset_placeNodes children h hp)

theorem content_subset_placeNodes {parent : Option Nat} {id start : Nat} {q : Placed} :
    (nodes : List Node) → q ∈ placeNodes parent id start nodes →
      q.content ⊆ placeNodes parent id start nodes
  | [], h => by simp [placeNodes] at h
  | node :: rest, h => by
    rw [placeNodes] at h ⊢
    rcases List.mem_append.mp h with h | h
    · exact fun p hp => List.mem_append_left _ (content_subset_placeNode node h hp)
    · exact fun p hp => List.mem_append_right _ (content_subset_placeNodes rest h hp)

end

mutual

theorem mem_content_of_mem_placeNode {parent : Option Nat} {id start : Nat} {p : Placed} :
    (node : Node) → p ∈ placeNode parent id start node →
      p = ⟨id, parent, start, node⟩ ∨ ∃ q ∈ placeNode parent id start node, p ∈ q.content
  | .text _, h | .comment _, h | .declaration _, h | .lone _ _, h => by
    rw [placeNode, List.mem_singleton] at h
    exact .inl h
  | .paired _ _ children _, h => by
    rw [placeNode] at h ⊢
    rcases List.mem_cons.mp h with rfl | h
    · exact .inl rfl
    · rcases mem_content_of_mem_placeNodes children h with hp | ⟨q, hq, hp⟩
      · exact .inr ⟨_, List.mem_cons_self .., hp⟩
      · exact .inr ⟨q, List.mem_cons_of_mem _ hq, hp⟩

theorem mem_content_of_mem_placeNodes {parent : Option Nat} {id start : Nat} {p : Placed} :
    (nodes : List Node) → p ∈ placeNodes parent id start nodes →
      p ∈ siblings parent id start nodes ∨
        ∃ q ∈ placeNodes parent id start nodes, p ∈ q.content
  | [], h => by simp [placeNodes] at h
  | node :: rest, h => by
    rw [placeNodes] at h ⊢
    rcases List.mem_append.mp h with h | h
    · rcases mem_content_of_mem_placeNode node h with rfl | ⟨q, hq, hp⟩
      · exact .inl (List.mem_cons_self ..)
      · exact .inr ⟨q, List.mem_append_left _ hq, hp⟩
    · rcases mem_content_of_mem_placeNodes rest h with hp | ⟨q, hq, hp⟩
      · exact .inl (List.mem_cons_of_mem _ hp)
      · exact .inr ⟨q, List.mem_append_right _ hq, hp⟩

end

section
variable {P : Node → Prop}

mutual

theorem holds_of_mem_placeNode (hchildren : ∀ node, P node → ∀ child ∈ node.children, P child)
    {parent : Option Nat} {id start : Nat} {p : Placed} :
    (node : Node) → P node → p ∈ placeNode parent id start node → P p.node
  | .text _, h, hp | .comment _, h, hp | .declaration _, h, hp | .lone _ _, h, hp => by
    rw [placeNode, List.mem_singleton] at hp
    exact hp ▸ h
  | .paired _ _ children _, h, hp => by
    rw [placeNode] at hp
    rcases List.mem_cons.mp hp with rfl | hp
    · exact h
    · exact holds_of_mem_placeNodes hchildren children (hchildren _ h) hp

/-- What children have from their parents holds of every node if it holds of the outermost ones. -/
theorem holds_of_mem_placeNodes (hchildren : ∀ node, P node → ∀ child ∈ node.children, P child)
    {parent : Option Nat} {id start : Nat} {p : Placed} :
    (nodes : List Node) → (∀ node ∈ nodes, P node) → p ∈ placeNodes parent id start nodes → P p.node
  | [], _, hp => by simp [placeNodes] at hp
  | node :: rest, h, hp => by
    obtain ⟨hnode, hrest⟩ := List.forall_mem_cons.mp h
    rw [placeNodes] at hp
    rcases List.mem_append.mp hp with hp | hp
    · exact holds_of_mem_placeNode hchildren node hnode hp
    · exact holds_of_mem_placeNodes hchildren rest hrest hp

end

end

section

variable {document : Document} {p q : Placed} {id : Nat}

theorem map_id_placed (document : Document) :
    document.placed.map Placed.id = List.range document.placed.length := by
  have h := map_id_placeNodes none 0 0 document.roots
  have hlength : document.placed.length = Node.countList document.roots := by
    have := congrArg List.length h
    rwa [List.length_map, List.length_range'] at this
  rw [hlength, List.range_eq_range']
  exact h

theorem pairwise_id_placed (document : Document) : document.placed.Pairwise fun p q => p.id < q.id := by
  rw [← List.pairwise_map, map_id_placed]
  exact List.pairwise_lt_range

theorem id_of_node? (h : document.node? id = some p) : p.id = id := by
  have hmap := congrArg (·[id]?) (map_id_placed document)
  simp only [List.getElem?_map] at hmap
  rw [show document.placed[id]? = some p from h, Option.map_some] at hmap
  obtain ⟨hlt, -⟩ := List.getElem?_eq_some_iff.mp h
  rw [List.getElem?_range hlt] at hmap
  exact Option.some.inj hmap

theorem mem_of_node? (h : document.node? id = some p) : p ∈ document.placed :=
  List.mem_of_getElem? h

theorem node?_id (h : p ∈ document.placed) : document.node? p.id = some p := by
  obtain ⟨n, hn⟩ := List.mem_iff_getElem?.mp h
  rw [id_of_node? hn]
  exact hn

theorem eq_of_id_eq (hp : p ∈ document.placed) (hq : q ∈ document.placed) (h : p.id = q.id) :
    p = q := by
  have e := node?_id hp
  rw [h, node?_id hq] at e
  exact (Option.some.inj e).symm

theorem listed_some (h : p ∈ document.placed) : document.listed (some p.id) = p.childIds := by
  simp [listed, node?_id h]

theorem filterMap_node? {list : List Placed} (h : list ⊆ document.placed) :
    (list.map Placed.id).filterMap document.node? = list := by
  induction list with
  | nil => rfl
  | cons p rest ih =>
    obtain ⟨hp, hrest⟩ := List.cons_subset.mp h
    rw [List.map_cons, List.filterMap_cons, node?_id hp, ih hrest]

theorem members_none (document : Document) :
    document.members none = siblings none 0 0 document.roots := by
  have h : siblings none 0 0 document.roots ⊆ document.placed := siblings_subset ..
  rw [← filterMap_node? h, map_id_siblings]
  rfl

theorem members_some (h : p ∈ document.placed) : document.members (some p.id) = p.content := by
  rw [members, listed_some h, ← map_id_content]
  exact filterMap_node? (content_subset_placeNodes document.roots h)

theorem listed_eq_nil (h : document.node? id = none) : document.listed (some id) = [] := by
  simp [listed, h]

theorem mem_listed_iff (h : p ∈ document.placed) {parent : Option Nat} :
    p.id ∈ document.listed parent ↔ parent = p.parent := by
  constructor
  · intro hmem
    -- whoever is listed stands among the siblings there, and those have one parent
    cases parent with
    | none =>
      rw [listed, rootIds, ← map_id_siblings none 0 0, List.mem_map] at hmem
      obtain ⟨p', hp', hid⟩ := hmem
      rw [← eq_of_id_eq (siblings_subset _ _ _ _ hp') h hid]
      exact (parent_of_mem_siblings hp').symm
    | some k =>
      cases hk : document.node? k with
      | none => simp [listed_eq_nil hk] at hmem
      | some q =>
        have hq := mem_of_node? hk
        rw [← id_of_node? hk, listed_some hq, ← map_id_content, List.mem_map] at hmem
        obtain ⟨p', hp', hid⟩ := hmem
        rw [← eq_of_id_eq (content_subset_placeNodes _ hq hp') h hid, ← id_of_node? hk]
        exact (parent_of_mem_siblings hp').symm
  · rintro rfl
    rcases mem_content_of_mem_placeNodes document.roots h with hp | ⟨q, hq, hp⟩
    · rw [parent_of_mem_siblings hp, listed, rootIds, ← map_id_siblings none 0 0]
      exact List.mem_map_of_mem hp
    · rw [parent_of_mem_siblings hp, listed_some hq, ← map_id_content]
      exact List.mem_map_of_mem hp

mutual

theorem walk_node {parent : Option Nat} {id start : Nat} {stack order : List Nat}
    (more : Walk document stack order) :
    (node : Node) → placeNode parent id start node ⊆ document.placed →
      Walk document (id :: stack) (List.range' id node.count ++ order)
  | .text s, h => .visit (node?_id (h (mem_placeNode_self _ _ _ (.text s)))) more
  | .comment s, h => .visit (node?_id (h (mem_placeNode_self _ _ _ (.comment s)))) more
  | .declaration s, h => .visit (node?_id (h (mem_placeNode_self _ _ _ (.declaration s)))) more
  | .lone tag s, h => .visit (node?_id (h (mem_placeNode_self _ _ _ (.lone tag s)))) more
  | .paired tag s children ending, h => by
    have hself := h (mem_placeNode_self _ _ _ (.paired tag s children ending))
    rw [placeNode] at h
    rw [Node.count, Nat.add_comm 1, List.range'_succ, List.cons_append]
    -- the children take the place of the element on the stack
    exact .visit (node?_id hself) (walk_nodes more children (List.cons_subset.mp h).2)

/-- A walk over siblings visits them and all nodes in them before the rest of the stack. -/
theorem walk_nodes {parent : Option Nat} {id start : Nat} {stack order : List Nat}
    (more : Walk document stack order) :
    (nodes : List Node) → placeNodes parent id start nodes ⊆ document.placed →
      Walk document (siblingIds id nodes ++ stack) (List.range' id (Node.countList nodes) ++ order)
  | [], _ => more
  | node :: rest, h => by
    rw [placeNodes, List.append_subset] at h
    rw [Node.countList, ← List.range'_append_1, List.append_assoc]
    exact walk_node (walk_nodes more rest h.2) node h.1

end

/-- The walk from the outermost nodes visits every node once, in the order of the numbers. -/
theorem walk_rootIds (document : Document) :
    Walk document document.rootIds (List.range document.placed.length) := by
  have hsub : placeNodes none 0 0 document.roots ⊆ document.placed := List.Subset.refl _
  have h := walk_nodes .done document.roots hsub
  rw [List.append_nil, List.append_nil, ← map_id_placeNodes none 0 0] at h
  rw [← map_id_placed]
  exact h

end

end HtmlComponents.Document
