import HtmlComponents.Proofs.Document.Pieces
import HtmlComponents.Proofs.Document.RawText
import Mathlib.Data.List.Nodup
import Mathlib.Data.List.Pairwise

/-!
# Splicing as substitution in the tree

Replacements are made on the text, by offsets and in order of their start. `splice_eq_rebuild`: they come
to the same as writing the tree out from the outside to the inside, with the first text given for a node in
its place. The nodes of a document start at different offsets (`pairwise_start_placeNodes`), so the cuts of
siblings follow one another, and those of a node come before those of the nodes in it (`CutsTo.append`,
`cutsTo_node`).
-/

namespace HtmlComponents

namespace Text

theorem takeBytes_append (a b : List Char) (n : Nat) :
    takeBytes (byteLength a + n) (a ++ b) = a ++ takeBytes n b := by
  induction a with
  | nil => simp
  | cons c rest ih =>
    have hc := c.utf8Size_pos
    obtain ⟨m, hm⟩ : ∃ m, byteLength (c :: rest) + n = m + 1 :=
      Nat.exists_eq_succ_of_ne_zero (by simp only [byteLength]; omega)
    have hrest : m + 1 - c.utf8Size = byteLength rest + n := by
      simp only [byteLength] at hm
      omega
    rw [hm, List.cons_append, takeBytes, hrest, ih, List.cons_append]
    simp

theorem dropBytes_append (a b : List Char) (n : Nat) :
    dropBytes (byteLength a + n) (a ++ b) = dropBytes n b := by
  induction a with
  | nil => simp
  | cons c rest ih =>
    have hc := c.utf8Size_pos
    obtain ⟨m, hm⟩ : ∃ m, byteLength (c :: rest) + n = m + 1 :=
      Nat.exists_eq_succ_of_ne_zero (by simp only [byteLength]; omega)
    have hrest : m + 1 - c.utf8Size = byteLength rest + n := by
      simp only [byteLength] at hm
      omega
    rw [hm, List.cons_append, dropBytes, hrest, ih]
    simp

end Text

/-- Elements that are tied in the order keep their places, so the first of them stays the first. -/
theorem find?_mergeSort {α : Type} {le : α → α → Bool}
    (trans : ∀ a b c, le a b = true → le b c = true → le a c = true)
    (total : ∀ a b, (le a b || le b a) = true) {p : α → Bool}
    (tied : ∀ a b, p a = true → p b = true → le a b = true) (l : List α) :
    (l.mergeSort le).find? p = l.find? p := by
  have hpairwise : (l.filter p).Pairwise fun a b => le a b = true :=
    List.pairwise_of_forall_mem_list fun a ha b hb =>
      tied a b (List.mem_filter.mp ha).2 (List.mem_filter.mp hb).2
  have hsub := (List.sublist_mergeSort trans total hpairwise List.filter_sublist).filter p
  rw [List.filter_filter] at hsub
  simp only [Bool.and_self] at hsub
  have hlength := ((List.mergeSort_perm l le).filter p).length_eq
  rw [← List.head?_filter, ← List.head?_filter, hsub.eq_of_length hlength.symm]

namespace Document

/-! ### Writing the tree out -/

mutual

/-- The text of a node with nodes replaced, its own number being `id`. A node that has a text in `texts` is
that text, and nothing in it is visited; any other is its own source around its rebuilt children. -/
def rebuildNode (texts : Nat → Option (List Char)) (id : Nat) : Node → List Char
  | .text s => (texts id).getD s
  | .comment s => (texts id).getD s
  | .declaration s => (texts id).getD s
  | .lone _ s => (texts id).getD s
  | .paired _ s children ending =>
    (texts id).getD (s ++ rebuildNodes texts (id + 1) children ++ ending)

/-- The text of siblings with nodes replaced, `id` being the number of the first. -/
def rebuildNodes (texts : Nat → Option (List Char)) (id : Nat) : List Node → List Char
  | [] => []
  | node :: rest => rebuildNode texts id node ++ rebuildNodes texts (id + node.count) rest

end

/-- The text of a document with nodes replaced by the texts of their numbers. -/
def rebuild (document : Document) (texts : Nat → Option (List Char)) : List Char :=
  rebuildNodes texts 0 document.roots

section
variable {document : Document} {p q : Placed}

theorem eq_of_start_eq (h : SoundLevel document.roots) (hp : p ∈ document.placed)
    (hq : q ∈ document.placed) (hstart : p.start = q.start) : p = q := by
  have hpairwise : document.placed.Pairwise fun p q => p.start < q.start :=
    pairwise_start_placeNodes document.roots h.sound
  have hnodup : (document.placed.map Placed.start).Nodup :=
    List.pairwise_map.mpr (hpairwise.imp fun hlt => Nat.ne_of_lt hlt)
  exact List.inj_on_of_nodup_map hnodup hp hq hstart

end

/-! ### Cutting nodes out -/

/-- A cut that begins at the offset or behind it. -/
def Cut.Behind (offset : Nat) (cut : Cut) : Prop := offset ≤ cut.start ∧ cut.start ≤ cut.stop

theorem applyCuts_append {cursor : Nat} {before : List Char} {cuts : List Cut} (rest : List Char)
    (h : ∀ cut ∈ cuts, cut.Behind (cursor + Text.byteLength before)) :
    applyCuts cursor (before ++ rest) cuts =
      before ++ applyCuts (cursor + Text.byteLength before) rest cuts := by
  cases cuts with
  | nil => rfl
  | cons cut more =>
    obtain ⟨hstart, hstop⟩ := h cut List.mem_cons_self
    have hbefore : cut.start - cursor =
        Text.byteLength before + (cut.start - (cursor + Text.byteLength before)) := by omega
    have hbehind : cut.stop - cursor =
        Text.byteLength before + (cut.stop - (cursor + Text.byteLength before)) := by omega
    rw [applyCuts, applyCuts, if_neg (by omega), if_neg (by omega), hbefore, hbehind,
      Text.takeBytes_append, Text.dropBytes_append]
    simp

theorem applyCuts_skip {cursor : Nat} {cuts : List Cut} (rest : List Char) (more : List Cut)
    (h : ∀ cut ∈ cuts, cut.start < cursor) :
    applyCuts cursor rest (cuts ++ more) = applyCuts cursor rest more := by
  induction cuts with
  | nil => rfl
  | cons cut cuts ih =>
    obtain ⟨hcut, hcuts⟩ := List.forall_mem_cons.mp h
    rw [List.cons_append, applyCuts, if_pos hcut, ih hcuts]

theorem exists_split {cuts : List Cut} (h : cuts.Pairwise fun a b => a.start ≤ b.start) (offset : Nat) :
    ∃ before behind, cuts = before ++ behind ∧ (∀ cut ∈ before, cut.start < offset) ∧
      ∀ cut ∈ behind, offset ≤ cut.start := by
  induction cuts with
  | nil => exact ⟨[], [], rfl, List.forall_mem_nil _, List.forall_mem_nil _⟩
  | cons first cuts ih =>
    obtain ⟨hfirst, hrest⟩ := List.pairwise_cons.mp h
    by_cases hlt : first.start < offset
    · obtain ⟨before, behind, rfl, hbefore, hbehind⟩ := ih hrest
      exact ⟨first :: before, behind, rfl, List.forall_mem_cons.mpr ⟨hlt, hbefore⟩, hbehind⟩
    · rw [Nat.not_lt] at hlt
      refine ⟨[], first :: cuts, rfl, List.forall_mem_nil _, List.forall_mem_cons.mpr ⟨hlt, ?_⟩⟩
      exact fun cut hcut => Nat.le_trans hlt (hfirst cut hcut)

/-- Cuts of placed nodes in order of their start. The first one of each node holds its text in `texts`. -/
structure Cutting (texts : Nat → Option (List Char)) (nodes : List Placed) (cuts : List Cut) : Prop where
  sorted : cuts.Pairwise fun a b => a.start ≤ b.start
  placed : ∀ cut ∈ cuts, ∃ p ∈ nodes, cut = p.cut cut.text
  first : ∀ p ∈ nodes, (cuts.find? fun cut => cut.start == p.start).map Cut.text = texts p.id

namespace Cutting

variable {texts : Nat → Option (List Char)} {nodes others : List Placed} {cuts : List Cut} {offset : Nat}

theorem behind (h : Cutting texts nodes cuts) (hnodes : ∀ p ∈ nodes, offset ≤ p.start) :
    ∀ cut ∈ cuts, cut.Behind offset := by
  intro cut hcut
  obtain ⟨p, hp, heq⟩ := h.placed cut hcut
  rw [heq]
  exact ⟨hnodes p hp, Nat.le_add_right ..⟩

theorem eq_nil (h : Cutting texts [] cuts) : cuts = [] := by
  refine List.eq_nil_iff_forall_not_mem.mpr fun cut hcut => ?_
  obtain ⟨p, hp, -⟩ := h.placed cut hcut
  cases hp

theorem part {all : List Placed} {cuts' : List Cut} (h : Cutting texts all cuts)
    (hsub : cuts'.Sublist cuts) (hnodes : nodes ⊆ all)
    (hplaced : ∀ cut ∈ cuts', ∀ p ∈ all, cut.start = p.start → p ∈ nodes)
    (hfind : ∀ p ∈ nodes, cuts'.find? (fun cut => cut.start == p.start) =
      cuts.find? fun cut => cut.start == p.start) : Cutting texts nodes cuts' := by
  refine ⟨h.sorted.sublist hsub, fun cut hcut => ?_, fun p hp => ?_⟩
  · obtain ⟨p, hp, heq⟩ := h.placed cut (hsub.mem hcut)
    exact ⟨p, hplaced cut hcut p hp (congrArg Cut.start heq), heq⟩
  · rw [hfind p hp]
    exact h.first p (hnodes hp)

theorem split (h : Cutting texts (nodes ++ others) cuts) (hnodes : ∀ p ∈ nodes, p.start < offset)
    (hothers : ∀ p ∈ others, offset ≤ p.start) :
    ∃ before behind, cuts = before ++ behind ∧ Cutting texts nodes before ∧
      Cutting texts others behind := by
  obtain ⟨before, behind, rfl, hbefore, hbehind⟩ := exists_split h.sorted offset
  refine ⟨before, behind, rfl, ?_, ?_⟩
  · refine h.part (List.sublist_append_left ..) (List.subset_append_left ..)
      (fun cut hcut p hp hsame => ?_) fun p hp => ?_
    · rcases List.mem_append.mp hp with hp | hp
      · exact hp
      · have := hbefore cut hcut
        have := hothers p hp
        omega
    · have hnone : behind.find? (fun cut => cut.start == p.start) = none := by
        refine List.find?_eq_none.mpr fun cut hcut => ?_
        have := hbehind cut hcut
        have := hnodes p hp
        rw [beq_iff_eq]
        omega
      rw [List.find?_append, hnone, Option.or_none]
  · refine h.part (List.sublist_append_right ..) (List.subset_append_right ..)
      (fun cut hcut p hp hsame => ?_) fun p hp => ?_
    · rcases List.mem_append.mp hp with hp | hp
      · have := hbehind cut hcut
        have := hnodes p hp
        omega
      · exact hp
    · have hnone : before.find? (fun cut => cut.start == p.start) = none := by
        refine List.find?_eq_none.mpr fun cut hcut => ?_
        have := hbefore cut hcut
        have := hothers p hp
        rw [beq_iff_eq]
        omega
      rw [List.find?_append, hnone, Option.none_or]

end Cutting

/-- Cutting `nodes` out of a text that begins at the offset `start` makes `result` of it, whatever follows. -/
def CutsTo (texts : Nat → Option (List Char)) (start : Nat) (nodes : List Placed)
    (text result : List Char) : Prop :=
  ∀ cuts more rest, Cutting texts nodes cuts →
    (∀ cut ∈ more, cut.Behind (start + Text.byteLength text)) →
      applyCuts start (text ++ rest) (cuts ++ more) =
        result ++ applyCuts (start + Text.byteLength text) rest more

namespace CutsTo

variable {texts : Nat → Option (List Char)} {start : Nat} {nodes others : List Placed}
  {text text' result result' : List Char}

theorem literal (start : Nat) (text : List Char) : CutsTo texts start [] text text := by
  intro cuts more rest hcuts hmore
  rw [hcuts.eq_nil, List.nil_append]
  exact applyCuts_append rest hmore

theorem append (h : CutsTo texts start nodes text result)
    (h' : CutsTo texts (start + Text.byteLength text) others text' result')
    (hnodes : ∀ p ∈ nodes, p.start < start + Text.byteLength text)
    (hothers : ∀ p ∈ others, start + Text.byteLength text ≤ p.start) :
    CutsTo texts start (nodes ++ others) (text ++ text') (result ++ result') := by
  intro cuts more rest hcuts hmore
  obtain ⟨before, behind, rfl, hbefore, hbehind⟩ := hcuts.split hnodes hothers
  rw [Text.byteLength_append, ← Nat.add_assoc] at hmore ⊢
  have hlater : ∀ cut ∈ behind ++ more, cut.Behind (start + Text.byteLength text) := by
    intro cut hcut
    rcases List.mem_append.mp hcut with hcut | hcut
    · exact hbehind.behind hothers cut hcut
    · obtain ⟨hstart, hstop⟩ := hmore cut hcut
      exact ⟨Nat.le_trans (Nat.le_add_right ..) hstart, hstop⟩
  rw [List.append_assoc, List.append_assoc, h _ _ _ hbefore hlater, h' _ _ _ hbehind hmore,
    List.append_assoc]

end CutsTo

/-- A node that has a text is cut out as a whole; one that has none is left to the cuts in it. -/
theorem cutsTo_node {texts : Nat → Option (List Char)} {p : Placed} {result : List Char}
    (hsound : p.node.Sound) (h : CutsTo texts p.start p.inside p.node.chars result) :
    CutsTo texts p.start (p :: p.inside) p.node.chars ((texts p.id).getD result) := by
  intro cuts more rest hcuts hmore
  have hinside := fun q hq => bounds_of_mem_inside (p := p) hsound (q := q) hq
  have hfirst := hcuts.first p List.mem_cons_self
  have hbehind : ∀ cut ∈ cuts, cut.Behind p.start := hcuts.behind fun q hq => by
    rcases List.mem_cons.mp hq with rfl | hq
    · exact Nat.le_refl _
    · exact Nat.le_of_lt (hinside q hq).1
  cases htext : texts p.id with
  | none =>
    -- without a cut of its own, all cuts are of nodes in it
    refine h cuts more rest ⟨hcuts.sorted, fun cut hcut => ?_, fun q hq => ?_⟩ hmore
    · obtain ⟨q, hq, heq⟩ := hcuts.placed cut hcut
      rcases List.mem_cons.mp hq with rfl | hq
      · rw [htext, Option.map_eq_none_iff, List.find?_eq_none] at hfirst
        refine absurd ?_ (hfirst cut hcut)
        rw [heq]
        exact beq_self_eq_true q.start
      · exact ⟨q, hq, heq⟩
    · exact hcuts.first q (List.mem_cons_of_mem _ hq)
  | some text =>
    rw [htext, Option.map_eq_some_iff] at hfirst
    obtain ⟨cut, hcut, rfl⟩ := hfirst
    obtain ⟨hstart, before, behind, rfl, hbefore⟩ := List.find?_eq_some_iff_append.mp hcut
    rw [beq_iff_eq] at hstart
    have hroot : ∀ other ∈ before ++ cut :: behind, other.start = p.start →
        other = p.cut other.text := by
      intro other hother hsame
      obtain ⟨q, hq, heq⟩ := hcuts.placed other hother
      rcases List.mem_cons.mp hq with rfl | hq
      · exact heq
      · have := (hinside q hq).1
        rw [heq] at hsame
        exact absurd hsame (Nat.ne_of_gt this)
    -- it comes first, as no other cut starts before the node
    have hnil : before = [] := by
      refine List.eq_nil_iff_forall_not_mem.mpr fun other hother => ?_
      have hle := (List.pairwise_append.mp hcuts.sorted).2.2 other hother cut List.mem_cons_self
      have hge := (hbehind other (List.mem_append_left _ hother)).1
      have hne := hbefore other hother
      simp only [Bool.not_eq_true', beq_eq_false_iff_ne] at hne
      omega
    subst hnil
    have hskip : ∀ other ∈ behind, other.start < p.stop := by
      intro other hother
      obtain ⟨q, hq, heq⟩ := hcuts.placed other (List.mem_cons_of_mem _ hother)
      rw [heq]
      rcases List.mem_cons.mp hq with rfl | hq
      · exact Nat.lt_add_of_pos_right (bytes_pos hsound.chars_ne_nil)
      · exact (hinside q hq).2
    have happly : applyCuts p.start (p.node.chars ++ rest) (p.cut cut.text :: (behind ++ more)) =
        cut.text ++ applyCuts p.stop rest (behind ++ more) :=
      @applyCuts_cut p p.start [] rfl cut.text rest (behind ++ more)
    rw [applyCuts_skip rest more hskip] at happly
    rw [← Node.bytes_eq, List.nil_append, List.cons_append, hroot cut List.mem_cons_self hstart]
    exact happly

mutual

theorem cutsTo_placeNode {texts : Nat → Option (List Char)} {parent : Option Nat} {id start : Nat} :
    (node : Node) → node.Sound →
      CutsTo texts start (placeNode parent id start node) node.chars (rebuildNode texts id node)
  | .text s, h => cutsTo_node (p := ⟨id, parent, start, .text s⟩) h (.literal start s)
  | .comment s, h => cutsTo_node (p := ⟨id, parent, start, .comment s⟩) h (.literal start s)
  | .declaration s, h => cutsTo_node (p := ⟨id, parent, start, .declaration s⟩) h (.literal start s)
  | .lone tag s, h => cutsTo_node (p := ⟨id, parent, start, .lone tag s⟩) h (.literal start s)
  | .paired tag s children ending, h => by
    refine cutsTo_node (p := ⟨id, parent, start, .paired tag s children ending⟩) h ?_
    let inside := placeNodes (some id) (id + 1) (start + Text.byteLength s) children
    have hbounds : ∀ q ∈ inside, _ := fun q hq => bounds_of_mem_placeNodes h.children hq
    -- the start tag is copied, then come the children, and the end tag is copied
    have hopening : CutsTo texts start ([] ++ inside) _ _ :=
      (CutsTo.literal start s).append (cutsTo_placeNodes children h.children) (List.forall_mem_nil _)
        fun q hq => (hbounds q hq).1
    have hwhole := hopening.append (.literal _ ending)
      (fun q hq => by
        rw [Text.byteLength_append, ← Nat.add_assoc]
        exact (hbounds q hq).2)
      (List.forall_mem_nil _)
    rwa [List.append_nil] at hwhole

theorem cutsTo_placeNodes {texts : Nat → Option (List Char)} {parent : Option Nat} {id start : Nat} :
    (nodes : List Node) → (∀ node ∈ nodes, node.Sound) →
      CutsTo texts start (placeNodes parent id start nodes) (Node.charsList nodes)
        (rebuildNodes texts id nodes)
  | [], _ => .literal start []
  | node :: rest, h => by
    obtain ⟨hnode, hrest⟩ := List.forall_mem_cons.mp h
    have hbefore : ∀ p ∈ placeNode parent id start node,
        p.start < start + Text.byteLength node.chars := by
      intro p hp
      have hsingle : p ∈ placeNodes parent id start [node] := by
        rwa [placeNodes, placeNodes, List.append_nil]
      have hlt := (bounds_of_mem_placeNodes (List.forall_mem_singleton.mpr hnode) hsingle).2
      rwa [Node.charsList, Node.charsList, List.append_nil] at hlt
    rw [placeNodes, Node.bytes_eq]
    exact (cutsTo_placeNode node hnode).append (cutsTo_placeNodes rest hrest) hbefore
      fun p hp => (bounds_of_mem_placeNodes hrest hp).1

end

/-! ### Splicing -/

section
variable {document : Document} {replacements : List (Nat × List Char)} {p : Placed}

theorem cuts_cons (document : Document) (id : Nat) (text : List Char)
    (replacements : List (Nat × List Char)) :
    document.cuts ((id, text) :: replacements) =
      match document.placed.find? fun placed => placed.id == id with
      | some placed => placed.cut text :: document.cuts replacements
      | none => document.cuts replacements := by
  cases hfind : document.placed.find? fun placed => placed.id == id with
  | none => simp only [cuts, List.filterMap_cons, hfind, Option.map_none]
  | some placed =>
    simp only [cuts, List.filterMap_cons, hfind, Option.map_some]
    rfl

theorem find?_cuts (h : SoundLevel document.roots) (hp : p ∈ document.placed) :
    ((document.cuts replacements).find? fun cut => cut.start == p.start).map Cut.text =
      replacements.lookup p.id := by
  induction replacements with
  | nil => rfl
  | cons first rest ih =>
    obtain ⟨id, text⟩ := first
    rw [cuts_cons, List.lookup_cons]
    cases hfind : document.placed.find? fun placed => placed.id == id with
    | none =>
      -- a number without a node is not that of `p`
      have hne : (p.id == id) = false := by
        rw [Bool.eq_false_iff]
        exact List.find?_eq_none.mp hfind p hp
      rw [hne]
      exact ih
    | some q =>
      have hq := List.mem_of_find?_eq_some hfind
      have hid : q.id = id := by simpa using List.find?_some hfind
      dsimp only
      rw [List.find?_cons, Placed.cut]
      dsimp only
      by_cases hsame : p.id = id
      · obtain rfl := eq_of_id_eq hq hp (hid.trans hsame.symm)
        rw [beq_self_eq_true, beq_iff_eq.mpr hsame]
        rfl
      · have hstart : q.start ≠ p.start := fun heq =>
          hsame (eq_of_start_eq h hq hp heq ▸ hid)
        rw [beq_false_of_ne hstart, beq_false_of_ne hsame]
        exact ih

/-- Sorting the cuts of a document keeps the first text given for each node in front. -/
theorem cutting_sorted (h : SoundLevel document.roots) :
    Cutting (fun id => replacements.lookup id) document.placed
      ((document.cuts replacements).mergeSort fun a b => decide (a.start ≤ b.start)) := by
  have htrans : ∀ a b c : Cut, decide (a.start ≤ b.start) = true → decide (b.start ≤ c.start) = true →
      decide (a.start ≤ c.start) = true := by
    intro a b c hab hbc
    rw [decide_eq_true_eq] at hab hbc ⊢
    exact Nat.le_trans hab hbc
  have htotal : ∀ a b : Cut, (decide (a.start ≤ b.start) || decide (b.start ≤ a.start)) = true := by
    intro a b
    rw [Bool.or_eq_true, decide_eq_true_eq, decide_eq_true_eq]
    exact Nat.le_total ..
  refine ⟨?_, fun cut hcut => ?_, fun p hp => ?_⟩
  · exact (List.pairwise_mergeSort htrans htotal _).imp fun hle => of_decide_eq_true hle
  · rw [List.mem_mergeSort, cuts, List.mem_filterMap] at hcut
    obtain ⟨⟨id, text⟩, -, hfind⟩ := hcut
    obtain ⟨p, hp, rfl⟩ := Option.map_eq_some_iff.mp hfind
    exact ⟨p, List.mem_of_find?_eq_some hp, rfl⟩
  · rw [find?_mergeSort htrans htotal, find?_cuts h hp]
    intro a b ha hb
    rw [beq_iff_eq] at ha hb
    exact decide_eq_true (ha.trans hb.symm).le

end

/-! ### What a rebuilt document hangs on -/

mutual

theorem inside_subset_placeNode {parent : Option Nat} {id start : Nat} {q : Placed} :
    (node : Node) → q ∈ placeNode parent id start node → q.inside ⊆ placeNode parent id start node
  | .text _, h | .comment _, h | .declaration _, h | .lone _ _, h => by
    rw [placeNode, List.mem_singleton] at h
    exact h ▸ List.nil_subset _
  | .paired _ _ children _, h => by
    rw [placeNode_eq_cons] at h ⊢
    rcases List.mem_cons.mp h with rfl | h
    · exact List.subset_cons_self ..
    · exact fun p hp => List.mem_cons_of_mem _ (inside_subset_placeNodes children h hp)

theorem inside_subset_placeNodes {parent : Option Nat} {id start : Nat} {q : Placed} :
    (nodes : List Node) → q ∈ placeNodes parent id start nodes →
      q.inside ⊆ placeNodes parent id start nodes
  | [], h => by simp [placeNodes] at h
  | node :: rest, h => by
    rw [placeNodes] at h ⊢
    rcases List.mem_append.mp h with h | h
    · exact fun p hp => List.mem_append_left _ (inside_subset_placeNode node h hp)
    · exact fun p hp => List.mem_append_right _ (inside_subset_placeNodes rest h hp)

end

section
variable {texts texts' : Nat → Option (List Char)} {parent : Option Nat} {id start : Nat}

theorem notMem_inside {node : Node} (h : node.Sound) {q : Placed}
    (hq : q ∈ placeNode parent id start node) : ⟨id, parent, start, node⟩ ∉ q.inside := by
  intro hmem
  have hsound := holds_of_mem_placeNode (fun _ hnode => Node.Sound.children hnode) node h hq
  have hlt : q.start < start := (bounds_of_mem_inside hsound hmem).1
  rw [placeNode_eq_cons] at hq
  rcases List.mem_cons.mp hq with rfl | hq
  · exact absurd hlt (Nat.lt_irrefl start)
  · have hgt : start < q.start := (bounds_of_mem_inside (p := ⟨id, parent, start, node⟩) h hq).1
    omega

theorem rebuildNode_eq {node : Node} (hself : texts' id = texts id)
    (hchildren : texts id = none →
      rebuildNodes texts' (id + 1) node.children = rebuildNodes texts (id + 1) node.children) :
    rebuildNode texts' id node = rebuildNode texts id node := by
  cases node with
  | text s | comment s | declaration s | lone tag s => rw [rebuildNode, rebuildNode, hself]
  | paired tag s children ending =>
    rw [rebuildNode, rebuildNode, hself]
    cases htext : texts id with
    | none => exact congrArg (s ++ · ++ ending) (hchildren htext)
    | some text => rfl

/-- Two ways of replacing nodes agree on the nodes that are reached. -/
def AgreeOutside (texts texts' : Nat → Option (List Char)) (nodes : List Placed) : Prop :=
  ∀ p ∈ nodes, (∀ q ∈ nodes, p ∈ q.inside → texts q.id = none) → texts' p.id = texts p.id

mutual

theorem rebuildNode_congr {parent : Option Nat} {id start : Nat} : (node : Node) → node.Sound →
    AgreeOutside texts texts' (placeNode parent id start node) →
      rebuildNode texts' id node = rebuildNode texts id node
  | .text s, h, hsame => rebuildNode_eq (hsame _ (mem_placeNode_self _ _ _ _)
      fun _ hq hmem => absurd hmem (notMem_inside h hq)) fun _ => rfl
  | .comment s, h, hsame => rebuildNode_eq (hsame _ (mem_placeNode_self _ _ _ _)
      fun _ hq hmem => absurd hmem (notMem_inside h hq)) fun _ => rfl
  | .declaration s, h, hsame => rebuildNode_eq (hsame _ (mem_placeNode_self _ _ _ _)
      fun _ hq hmem => absurd hmem (notMem_inside h hq)) fun _ => rfl
  | .lone tag s, h, hsame => rebuildNode_eq (hsame _ (mem_placeNode_self _ _ _ _)
      fun _ hq hmem => absurd hmem (notMem_inside h hq)) fun _ => rfl
  | .paired tag s children ending, h, hsame => by
    have hself := hsame _ (mem_placeNode_self _ _ _ _) fun _ hq hmem => absurd hmem (notMem_inside h hq)
    refine rebuildNode_eq hself fun hnone => ?_
    rw [placeNode_eq_cons] at hsame
    have hinside : AgreeOutside texts texts'
        (placeNodes (some id) (id + 1) (start + Text.byteLength s) children) := by
      intro p hp hfree
      refine hsame p (List.mem_cons_of_mem _ hp) fun q hq hmem => ?_
      rcases List.mem_cons.mp hq with rfl | hq
      · exact hnone
      · exact hfree q hq hmem
    exact rebuildNodes_congr children h.children hinside

/-- Texts that nodes inside replaced ones have do not matter. -/
theorem rebuildNodes_congr {parent : Option Nat} {id start : Nat} : (nodes : List Node) →
    (∀ node ∈ nodes, node.Sound) → AgreeOutside texts texts' (placeNodes parent id start nodes) →
      rebuildNodes texts' id nodes = rebuildNodes texts id nodes
  | [], _, _ => rfl
  | node :: rest, h, hsame => by
    have hpairwise : (placeNodes parent id start (node :: rest)).Pairwise fun p q => p.start < q.start :=
      pairwise_start_placeNodes _ h
    obtain ⟨hnode, hrest⟩ := List.forall_mem_cons.mp h
    rw [placeNodes] at hsame hpairwise
    have hapart := (List.pairwise_append.mp hpairwise).2.2
    -- what is in one part is in no node of the other
    have hfirst : AgreeOutside texts texts' (placeNode parent id start node) := by
      intro p hp hfree
      refine hsame p (List.mem_append_left _ hp) fun q hq hmem => ?_
      rcases List.mem_append.mp hq with hq | hq
      · exact hfree q hq hmem
      · exact absurd (hapart p hp p (inside_subset_placeNodes rest hq hmem)) (Nat.lt_irrefl _)
    have hothers : AgreeOutside texts texts'
        (placeNodes parent (id + node.count) (start + node.bytes) rest) := by
      intro p hp hfree
      refine hsame p (List.mem_append_right _ hp) fun q hq hmem => ?_
      rcases List.mem_append.mp hq with hq | hq
      · exact absurd (hapart p (inside_subset_placeNode node hq hmem) p hp) (Nat.lt_irrefl _)
      · exact hfree q hq hmem
    rw [rebuildNodes, rebuildNodes, rebuildNode_congr node hnode hfirst,
      rebuildNodes_congr rest hrest hothers]

end

theorem getD_of_forall_eq {α : Type} {a? : Option α} {b : α} (h : ∀ a, a? = some a → a = b) :
    a?.getD b = b := by
  cases a? with
  | none => rfl
  | some a => exact h a rfl

mutual

theorem rebuildNode_own {parent : Option Nat} {id start : Nat} : (node : Node) →
    (∀ p ∈ placeNode parent id start node, ∀ text, texts p.id = some text → text = p.node.chars) →
    rebuildNode texts id node = node.chars
  | .text _, h | .comment _, h | .declaration _, h | .lone _ _, h =>
    getD_of_forall_eq (h _ (mem_placeNode_self _ _ _ _))
  | .paired tag s children ending, h => by
    have hself := h _ (mem_placeNode_self _ _ _ _)
    rw [placeNode, List.forall_mem_cons] at h
    rw [rebuildNode, rebuildNodes_own children h.2]
    exact getD_of_forall_eq hself

theorem rebuildNodes_own {parent : Option Nat} {id start : Nat} : (nodes : List Node) →
    (∀ p ∈ placeNodes parent id start nodes, ∀ text, texts p.id = some text → text = p.node.chars) →
    rebuildNodes texts id nodes = Node.charsList nodes
  | [], _ => rfl
  | node :: rest, h => by
    rw [placeNodes, List.forall_mem_append] at h
    rw [rebuildNodes, rebuildNode_own node h.1, rebuildNodes_own rest h.2, Node.charsList]

end

end

theorem splice_eq {document : Document} (h : SoundLevel document.roots)
    (replacements : List (Nat × List Char)) :
    document.splice replacements = document.rebuild fun id => replacements.lookup id := by
  have hwhole : CutsTo (fun id => replacements.lookup id) 0 document.placed _ _ :=
    cutsTo_placeNodes document.roots h.sound
  have hcuts := hwhole _ [] [] (cutting_sorted h) (List.forall_mem_nil _)
  rwa [List.append_nil, List.append_nil, applyCuts, List.append_nil] at hcuts

/-- Splicing is substitution in the tree: the document is written out with the first text given for each
node in its place. So the order of the replacements does not show, nor do texts for nodes inside replaced
ones, and nodes replaced by their own source are as they were. -/
theorem splice_eq_rebuild (source : String) (replacements : List (Nat × List Char)) :
    let document := parse source
    document.splice replacements = document.rebuild (fun id => replacements.lookup id) ∧
      (∀ others : List (Nat × List Char),
        (∀ p ∈ document.placed,
          (∀ q ∈ document.placed, p ∈ q.inside → replacements.lookup q.id = none) →
            others.lookup p.id = replacements.lookup p.id) →
        document.splice others = document.splice replacements) ∧
      ((∀ r ∈ replacements, ∃ p ∈ document.placed, p.id = r.1 ∧ r.2 = p.node.chars) →
        document.splice replacements = source.toList) := by
  intro document
  have hsound : SoundLevel document.roots := soundLevel_ofChars source.toList
  have hchars : document.chars = source.toList := chars_ofChars source.toList
  refine ⟨splice_eq hsound replacements, fun others hsame => ?_, fun hown => ?_⟩
  · rw [splice_eq hsound, splice_eq hsound]
    exact @rebuildNodes_congr _ _ none 0 0 document.roots hsound.sound hsame
  · rw [splice_eq hsound, ← hchars]
    refine @rebuildNodes_own _ none 0 0 document.roots fun p hp text htext => ?_
    obtain ⟨before, behind, hmem, -⟩ := List.lookup_eq_some_iff.mp htext
    obtain ⟨q, hq, hid, htext⟩ := hown (p.id, text) (hmem ▸ List.mem_append_right _ List.mem_cons_self)
    rw [← eq_of_id_eq hq hp hid]
    exact htext

end Document

end HtmlComponents
