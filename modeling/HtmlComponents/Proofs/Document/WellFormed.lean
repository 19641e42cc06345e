import HtmlComponents.Proofs.Document.Extent

/-!
# Well-formed documents

What holds of the tree of every text, as a table of nodes with numbers, parents, child lists and
byte offsets: `parse_wellFormed`. Numbers follow the order in which the nodes are read (`WellFormed.order`).
-/

namespace HtmlComponents.Document

/-- The outline of a node: only an element with an end tag of its own has content, which lies between
its two tags without gaps; any other element covers its start tag. -/
def Outlined (document : Document) (text : List Char) (p : Placed) : Prop :=
  match p.node with
  | .paired tag opening _ ending =>
    tag.selfClosing = false ∧ isVoid tag.name = false ∧
      IsStartTag tag opening ∧ Text.Spans text p.start p.openingStop opening ∧
      ∃ contentStop name, Tiles p.openingStop contentStop (document.members (some p.id)) ∧
        Text.Spans text contentStop p.stop ending ∧ IsEndTag name ending ∧
        sameName tag.name name = true
  | .lone tag opening =>
    IsStartTag tag opening ∧ Text.Spans text p.start p.openingStop opening ∧
      p.stop = p.openingStop ∧ document.listed (some p.id) = []
  | _ => document.listed (some p.id) = []

/-- A document that is a well-formed tree over a text. -/
structure WellFormed (document : Document) (text : List Char) : Prop where
  /-- The walk over the child lists visits every node once, in the order of the numbers. -/
  walk : document.Walk document.rootIds (List.range document.placed.length)
  /-- A node is found under its own number. -/
  numbered : ∀ id p, document.node? id = some p → p.id = id
  /-- A node is in the child list of its parent and in no other. -/
  parents : ∀ p ∈ document.placed, ∀ parent, p.id ∈ document.listed parent ↔ parent = p.parent
  /-- Nodes have their numbers in the order in which they start in the text, no two of them at one place. -/
  order : document.placed.Pairwise fun p q => p.id < q.id ∧ p.start < q.start
  /-- A node covers bytes of the text, at least one, and starts and ends between characters. -/
  spans : ∀ p ∈ document.placed, p.start < p.stop ∧ Text.Spans text p.start p.stop p.node.chars
  /-- The outermost nodes cover the whole text. -/
  tiled : Tiles 0 (Text.byteLength text) (document.members none)
  outlined : ∀ p ∈ document.placed, document.Outlined text p
  /-- No two neighbouring siblings are texts. -/
  apart : ∀ parent, (document.members parent).IsChain fun a b => Apart a.node b.node

theorem map_node_siblings (parent : Option Nat) (id start : Nat) (nodes : List Node) :
    (siblings parent id start nodes).map Placed.node = nodes := by
  induction nodes generalizing id start with
  | nil => rfl
  | cons node rest ih => simp only [siblings, List.map_cons, ih]

theorem isChain_siblings {parent : Option Nat} {id start : Nat} {nodes : List Node}
    (h : nodes.IsChain Apart) :
    (siblings parent id start nodes).IsChain fun a b => Apart a.node b.node := by
  rw [← map_node_siblings parent id start nodes, List.isChain_map] at h
  exact h

section

variable {document : Document} {p : Placed}

theorem isChain_children {node : Node} (h : node.Sound) : node.children.IsChain Apart := by
  cases h with
  | paired _ _ _ _ apart => exact apart
  | text | comment | declaration | lone => exact .nil

theorem isChain_members (h : SoundLevel document.roots) (parent : Option Nat) :
    (document.members parent).IsChain fun a b => Apart a.node b.node := by
  cases parent with
  | none =>
    rw [members_none]
    exact isChain_siblings h.apart
  | some id =>
    cases hid : document.node? id with
    | none =>
      rw [members, listed_eq_nil hid]
      exact .nil
    | some q =>
      have hq := mem_of_node? hid
      rw [← id_of_node? hid, members_some hq]
      exact isChain_siblings (isChain_children (sound_of_mem_placeNodes _ h.sound hq))

theorem listed_eq_nil_of_children (hp : p ∈ document.placed) (h : p.node.children = []) :
    document.listed (some p.id) = [] := by
  rw [listed_some hp, Placed.childIds, h]
  rfl

theorem spans_opening {text back : List Char} {start : Nat} {opening : List Char}
    (h : Text.Spans text start (start + Text.byteLength (opening ++ back)) (opening ++ back)) :
    Text.Spans text start (start + Text.byteLength opening) opening := by
  obtain ⟨front, rest, rfl, rfl, -⟩ := h
  exact ⟨front, back ++ rest, by simp, rfl, (Text.byteLength_append ..).symm⟩

theorem spans_ending {text front : List Char} {start : Nat} {ending : List Char}
    (h : Text.Spans text start (start + Text.byteLength (front ++ ending)) (front ++ ending)) :
    Text.Spans text (start + Text.byteLength front)
      (start + Text.byteLength (front ++ ending)) ending := by
  obtain ⟨before, back, rfl, rfl, -⟩ := h
  refine ⟨before ++ front, back, by simp, (Text.byteLength_append ..).symm, ?_⟩
  rw [List.append_assoc, Text.byteLength_append before]

theorem outlined_of_mem_placed (h : SoundLevel document.roots) (hp : p ∈ document.placed) :
    document.Outlined document.chars p := by
  have hsound := sound_of_mem_placeNodes _ h.sound hp
  have hspans := spans_of_mem_placed hp
  rw [Placed.stop, Node.bytes_eq] at hspans
  unfold Outlined
  split
  · rename_i tag opening children ending hnode
    rw [hnode] at hsound hspans
    -- the children begin behind the start tag and end where the end tag begins
    have htiles := tiles_siblings (some p.id) (p.id + 1) p.openingStop children
    rw [Node.bytesList_eq, Placed.openingStop, hnode, Nat.add_assoc, ← Text.byteLength_append]
      at htiles
    cases hsound with
    | @paired _ _ _ _ name hopening hclosed hvoid _ _ hnamed hending =>
      refine ⟨hclosed, hvoid, hopening, ?_,
        p.start + Text.byteLength (opening ++ Node.charsList children), name, ?_, ?_, hending, hnamed⟩
      · rw [Placed.openingStop, hnode]
        rw [Node.chars, List.append_assoc] at hspans
        exact spans_opening hspans
      · rw [members_some hp, Placed.content, Placed.openingStop, hnode]
        exact htiles
      · rw [Placed.stop, Node.bytes_eq, hnode]
        exact spans_ending hspans
  · rename_i tag opening hnode
    rw [hnode] at hsound hspans
    cases hsound with
    | lone hopening =>
      refine ⟨hopening, ?_, ?_, listed_eq_nil_of_children hp (by rw [hnode]; rfl)⟩
      · rw [Placed.openingStop, hnode]
        exact hspans
      · rw [Placed.stop, Placed.openingStop, hnode]
        rfl
  · rename_i hpaired hlone
    refine listed_eq_nil_of_children hp ?_
    cases hnode : p.node with
    | paired tag opening children ending => exact absurd hnode (hpaired tag opening children ending)
    | text | comment | declaration | lone => rfl

theorem wellFormed_of_soundLevel (h : SoundLevel document.roots) :
    document.WellFormed document.chars where
  walk := walk_rootIds document
  numbered _ _ hp := id_of_node? hp
  parents _ hp _ := mem_listed_iff hp
  order := (pairwise_id_placed document).and (pairwise_start_placeNodes _ h.sound)
  spans p hp := by
    have hne := (sound_of_mem_placeNodes _ h.sound hp).chars_ne_nil
    exact ⟨Nat.lt_add_of_pos_right (bytes_pos hne), spans_of_mem_placed hp⟩
  tiled := by
    rw [members_none, chars, ← Node.bytesList_eq]
    have htiles := tiles_siblings none 0 0 document.roots
    rwa [Nat.zero_add] at htiles
  outlined _ hp := outlined_of_mem_placed h hp
  apart := isChain_members h

end

/-- Every text has a tree, and it is well-formed. -/
theorem parse_wellFormed (source : String) : (parse source).WellFormed source.toList := by
  have h := wellFormed_of_soundLevel (soundLevel_ofChars source.toList)
  rwa [chars_ofChars] at h

end HtmlComponents.Document
