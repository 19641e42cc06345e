import HtmlComponents.Proofs.Document.Alone
import HtmlComponents.Proofs.Document.Replaced
import HtmlComponents.Proofs.Document.Slashed

/-!
# Elements without an end tag

An element without an end tag of its own is in the tree what its self-closing form is
(`replaces_of_mem_placed`). While it is open, what follows it waits in a level of its own; under construction from
the self-closing form it stands behind the element from the start (`Turned`). Tokens are taken back one by one
(`Turned.of_add`): from the tree, where the element is known to have no end tag, to its start tag
(`Turned.of_foldl`). The other way around it would not be known which of two elements of a name an end tag closes.
-/

namespace HtmlComponents

/-- Text with more text at a byte offset. -/
def Text.insertBytes (offset : Nat) (added text : List Char) : List Char :=
  takeBytes offset text ++ (added ++ dropBytes offset text)

theorem Text.insertBytes_append (front added back : List Char) :
    insertBytes (byteLength front) added (front ++ back) = front ++ (added ++ back) := by
  rw [insertBytes, takeBytes_byteLength_append, dropBytes_byteLength_append]

namespace Document

/-- A tree under construction with an open or a lone element, and with a node in its place. `front` is the text
before the element. -/
inductive Turned (tag : StartTag) (s : List Char) (new : Node) :
    (front : List Char) → (builder builder' : Builder) → Prop
  | level {front : List Char} {count : Nat} {level level' : List Node} (frames : List Frame)
      (h : Replaces (.lone tag s) new front count level.reverse level'.reverse) :
      Turned tag s new (Builder.chars [] frames ++ front) ⟨level, frames⟩ ⟨level', frames⟩
  | opened (level earlier : List Node) (outer : List Frame) :
      Turned tag s new (Builder.chars earlier outer) ⟨level, ⟨tag, s, earlier⟩ :: outer⟩
        ⟨level ++ new :: earlier, outer⟩
  | around {front : List Char} {frame : Frame} {outer : List Frame} {around : Builder} (level : List Node)
      (h : Turned tag s new front ⟨frame.earlier, outer⟩ around) :
      Turned tag s new front ⟨level, frame :: outer⟩
        ⟨level, { frame with earlier := around.level } :: around.frames⟩

namespace Turned

variable {tag : StartTag} {s s' front : List Char} {new : Node} {level : List Node} {frames : List Frame}
  {builder after : Builder} {node : Node}

theorem cons (h : Turned tag s new front builder after) (node : Node) :
    Turned tag s new front ⟨node :: builder.level, builder.frames⟩ ⟨node :: after.level, after.frames⟩ := by
  cases h with
  | level frames h =>
    have hcons := h.append_right [node]
    rw [← List.reverse_cons, ← List.reverse_cons] at hcons
    exact .level frames hcons
  | opened level earlier outer => exact .opened (node :: level) earlier outer
  | around level h => exact .around (node :: level) h

theorem cons_cases (h : Turned tag s new front ⟨node :: level, frames⟩ after) :
    (∃ before, Turned tag s new front ⟨level, frames⟩ before ∧ after = ⟨node :: before.level, before.frames⟩) ∨
      ∃ front' count node', front = Builder.chars level frames ++ front' ∧
        Replaces (.lone tag s) new front' count [node] [node'] ∧ after = ⟨node' :: level, frames⟩ := by
  cases h with
  | @level front' count _ level' _ h =>
    rw [List.reverse_cons] at h
    rcases h.append_cases with ⟨a', ha, heq⟩ | ⟨front'', count', b', rfl, hb, heq⟩
    · refine .inl ⟨⟨a'.reverse, frames⟩, .level frames (by rwa [List.reverse_reverse]), ?_⟩
      rw [← List.reverse_reverse level', heq, List.reverse_append, List.reverse_singleton]
      rfl
    · obtain ⟨node', rfl⟩ : ∃ node', b' = [node'] := by
        rcases hb.singleton_cases with ⟨-, -, rfl⟩ | ⟨_, _, _, _, _, _, _, -, -, -, rfl⟩ <;> exact ⟨_, rfl⟩
      refine .inr ⟨front'', count', node', ?_, hb, ?_⟩
      · rw [← List.append_assoc, ← Builder.chars_append, List.append_nil]
      · rw [← List.reverse_reverse level', heq, List.reverse_append, List.reverse_singleton,
          List.reverse_reverse]
        rfl
  | opened _ earlier outer => exact .inl ⟨_, .opened level earlier outer, rfl⟩
  | around _ h => exact .inl ⟨_, .around level h, rfl⟩

theorem of_cons (h : Turned tag s new front ⟨node :: level, frames⟩ after) (hnode : node ≠ .lone tag s)
    (hleaf : ∀ tag s children ending, node ≠ .paired tag s children ending) :
    ∃ before, Turned tag s new front ⟨level, frames⟩ before ∧
      after = ⟨node :: before.level, before.frames⟩ := by
  rcases h.cons_cases with hbefore | ⟨_, _, _, -, hlast, -⟩
  · exact hbefore
  · rcases hlast.singleton_cases with ⟨heq, -⟩ | ⟨_, _, _, _, _, _, _, heq, -⟩
    · exact absurd heq hnode
    · exact absurd heq (hleaf _ _ _ _)

theorem chars_eq_append (level : List Node) (frames : List Frame) :
    Builder.chars level frames = Builder.chars [] frames ++ Node.charsList level.reverse := by
  rw [← Builder.chars_append, List.append_nil]

theorem last {front : List Char} {count : Nat} {node' : Node}
    (h : Replaces (.lone tag s) new front count [node] [node']) (level : List Node) (frames : List Frame) :
    Turned tag s new (Builder.chars level frames ++ front) ⟨node :: level, frames⟩ ⟨node' :: level, frames⟩ := by
  obtain ⟨count', hlast⟩ := h.append_left level.reverse
  rw [← List.reverse_cons, ← List.reverse_cons] at hlast
  rw [chars_eq_append, List.append_assoc]
  exact .level frames hlast

theorem exists_text (h : Turned tag s (.lone tag.closed s') front builder after) {t : List Char}
    {rest : List Node} (hafter : after.level = .text t :: rest) : ∃ rest, builder.level = .text t :: rest := by
  obtain ⟨level, frames⟩ := builder
  cases level with
  | nil =>
    cases h with
    | level _ h => cases h
    | opened => cases hafter
    | around => cases hafter
  | cons node level =>
    rcases h.cons_cases with ⟨before, -, rfl⟩ | ⟨_, _, node', -, hnode, rfl⟩
    · obtain ⟨rfl, -⟩ := List.cons.inj hafter
      exact ⟨level, rfl⟩
    · obtain ⟨rfl, -⟩ := List.cons.inj hafter
      rcases hnode.singleton_cases with ⟨-, -, heq⟩ | ⟨_, _, _, _, _, _, _, -, -, -, heq⟩ <;> cases heq

theorem addText_cases {t : List Char}
    (h : Turned tag s (.lone tag.closed s') front ⟨Builder.addText t level, frames⟩ after) :
    ∃ before, Turned tag s (.lone tag.closed s') front ⟨level, frames⟩ before ∧
      after = ⟨Builder.addText t before.level, before.frames⟩ := by
  unfold Builder.addText at h
  split at h
  · rename_i t₀ rest
    obtain ⟨before, hbefore, rfl⟩ := h.of_cons (by simp) (by simp)
    exact ⟨⟨.text t₀ :: before.level, before.frames⟩, hbefore.cons _, rfl⟩
  · rename_i hlast
    obtain ⟨before, hbefore, rfl⟩ := h.of_cons (by simp) (by simp)
    refine ⟨before, hbefore, ?_⟩
    unfold Builder.addText
    split
    · -- a text that stands last now stood there before, so it would have been continued
      rename_i t₀ rest heq
      obtain ⟨rest', hrest⟩ := hbefore.exists_text heq
      exact absurd hrest (hlast t₀ rest')
    · rfl

/-- What changes where the element is one of those that an end tag further out leaves without an end tag, changes
while it is open. -/
theorem flatten_cases {frame : Frame} {outer : List Frame}
    (h : Turned tag s new front ⟨Builder.flatten level frame, outer⟩ after) :
    ∃ before, Turned tag s new front ⟨level, frame :: outer⟩ before ∧
      (before = after ∨ ∃ frame' outer', before.frames = frame' :: outer' ∧ frame'.tag = frame.tag ∧
        after = ⟨Builder.flatten before.level frame', outer'⟩) := by
  induction level generalizing after with
  | nil =>
    rcases h.cons_cases with ⟨before, hbefore, rfl⟩ | ⟨front', count, node', rfl, hnode, rfl⟩
    · exact ⟨_, .around [] hbefore, .inr ⟨_, _, rfl, rfl, rfl⟩⟩
    · rcases hnode.singleton_cases with ⟨heq, rfl, hnode'⟩ | ⟨_, _, _, _, _, _, _, heq, -⟩
      · obtain ⟨tag', s', earlier⟩ := frame
        cases heq
        cases hnode'
        rw [List.append_nil]
        exact ⟨_, .opened [] earlier outer, .inl rfl⟩
      · cases heq
  | cons node level ih =>
    rcases h.cons_cases with ⟨before, hbefore, rfl⟩ | ⟨front', count, node', rfl, hnode, rfl⟩
    · obtain ⟨before', hbefore', hsame⟩ := ih hbefore
      refine ⟨_, hbefore'.cons node, ?_⟩
      rcases hsame with rfl | ⟨frame', outer', hframes, htag, rfl⟩
      · exact .inl rfl
      · exact .inr ⟨frame', outer', hframes, htag, rfl⟩
    · have hchars := Builder.chars_flatten level frame outer
      exact ⟨_, hchars ▸ last hnode level (frame :: outer), .inr ⟨frame, outer, rfl, rfl, rfl⟩⟩

theorem close?_cases {name : String} {ending : List Char} {closed : Builder}
    (hclose : Builder.close? name ending level frames = some closed) (h : Turned tag s new front closed after) :
    ∃ before, Turned tag s new front ⟨level, frames⟩ before ∧
      Builder.close? name ending before.level before.frames = some after := by
  induction frames generalizing level with
  | nil => cases hclose
  | cons frame outer ih =>
    rw [Builder.close?] at hclose
    split at hclose
    · rename_i hnamed
      cases hclose
      rcases h.cons_cases with ⟨before, hbefore, rfl⟩ | ⟨front', count, node', rfl, hnode, rfl⟩
      · exact ⟨_, .around level hbefore, if_pos hnamed⟩
      · rcases hnode.singleton_cases with
          ⟨heq, -⟩ | ⟨tag', s', ending', children, children', front'', count', heq, rfl, hchildren, hnode'⟩
        · cases heq
        · -- the element stands in the one that is closed
          cases heq
          cases hnode'
          have hlevel : Replaces (.lone tag s) new front'' count' level.reverse children'.reverse.reverse := by
            rwa [List.reverse_reverse]
          have hturned := Turned.level (frame :: outer) hlevel
          rw [Builder.chars, List.reverse_nil, Node.charsList, List.append_nil, List.append_assoc] at hturned
          refine ⟨_, hturned, ?_⟩
          rw [Builder.close?, if_pos hnamed, List.reverse_reverse]
    · rename_i hnamed
      obtain ⟨before', hbefore', hclosed⟩ := ih hclose
      obtain ⟨before, hbefore, hsame⟩ := hbefore'.flatten_cases
      refine ⟨before, hbefore, ?_⟩
      rcases hsame with rfl | ⟨frame', outer', hframes, htag, rfl⟩
      · exact hclosed
      · rw [hframes, Builder.close?, htag, if_neg hnamed]
        exact hclosed

theorem finish_cases {count : Nat} {nodes : List Node}
    (h : Replaces (.lone tag s) new front count builder.finish nodes) :
    ∃ before, Turned tag s new front builder before ∧ nodes = before.finish := by
  obtain ⟨level, frames⟩ := builder
  induction frames generalizing level with
  | nil =>
    have hlevel : Replaces (.lone tag s) new front count level.reverse nodes.reverse.reverse := by
      rwa [List.reverse_reverse]
    exact ⟨_, .level [] hlevel, (List.reverse_reverse nodes).symm⟩
  | cons frame outer ih =>
    obtain ⟨before', hbefore', rfl⟩ := ih (Builder.flatten level frame) h
    obtain ⟨before, hbefore, hsame⟩ := hbefore'.flatten_cases
    refine ⟨before, hbefore, ?_⟩
    rcases hsame with rfl | ⟨frame', outer', hframes, -, rfl⟩
    · rfl
    · rw [Builder.finish, Builder.finish, hframes]
      rfl

theorem isNamed_frames {name : String} (h : Turned tag s new front builder after)
    (hnone : ∀ frame ∈ builder.frames, frame.tag.isNamed name = false) :
    ∀ frame ∈ after.frames, frame.tag.isNamed name = false := by
  induction h with
  | level frames h => exact hnone
  | opened level earlier outer => exact (List.forall_mem_cons.mp hnone).2
  | around level h ih =>
    obtain ⟨hframe, houter⟩ := List.forall_mem_cons.mp hnone
    exact List.forall_mem_cons.mpr ⟨hframe, ih houter⟩

/-- What changes behind a token changes before it, unless the token is the start tag of the element. -/
theorem of_add {token : Token} (h : Turned tag s (.lone tag.closed s') front (builder.add token) after)
    (hopens : (tag.selfClosing || isVoid tag.name) = false) :
    (∃ before, Turned tag s (.lone tag.closed s') front builder before ∧ after = before.add token) ∨
      token = .startTag tag s ∧ front = Builder.chars builder.level builder.frames ∧
        after = builder.add (.startTag tag.closed s') := by
  obtain ⟨level, frames⟩ := builder
  cases token with
  | text t => exact .inl h.addText_cases
  | comment t | declaration t => exact .inl (h.of_cons (by simp) (by simp))
  | startTag tag' t =>
    by_cases hlone : (tag'.selfClosing || isVoid tag'.name) = true
    · have hadd : ∀ builder : Builder, builder.add (.startTag tag' t) =
          ⟨.lone tag' t :: builder.level, builder.frames⟩ := fun builder => if_pos hlone
      rw [hadd] at h
      simp only [hadd]
      refine .inl (h.of_cons (fun heq => ?_) (by simp))
      cases heq
      cases hlone.symm.trans hopens
    · have hadd : ∀ builder : Builder, builder.add (.startTag tag' t) =
          ⟨[], ⟨tag', t, builder.level⟩ :: builder.frames⟩ := fun builder => if_neg hlone
      rw [hadd] at h
      simp only [hadd]
      cases h with
      | level _ h => cases h
      | opened _ earlier outer => exact .inr ⟨rfl, rfl, rfl⟩
      | around _ h => exact .inl ⟨_, h, rfl⟩
  | endTag name ending =>
    rcases Builder.nearest_or_none name frames with hnone | ⟨inner, frame, outer, hsplit, hinner, hframe⟩
    · -- a stray end tag is text
      have hadd : ∀ builder : Builder, (∀ frame ∈ builder.frames, frame.tag.isNamed name = false) →
          builder.add (.endTag name ending) = ⟨Builder.addText ending builder.level, builder.frames⟩ :=
        fun builder hnone => by rw [Builder.add, Builder.close?_eq_none hnone]
      rw [hadd _ hnone] at h
      obtain ⟨before, hbefore, rfl⟩ := h.addText_cases
      exact .inl ⟨before, hbefore, (hadd before (hbefore.isNamed_frames hnone)).symm⟩
    · have hclose := @Builder.close?_append name ending level inner outer frame hinner hframe
      rw [← hsplit] at hclose
      simp only [Builder.add, hclose] at h ⊢
      obtain ⟨before, hbefore, hclosed⟩ := close?_cases hclose h
      exact .inl ⟨before, hbefore, by rw [hclosed]⟩

/-- A tree with an element without an end tag comes from tokens with its start tag, and the tree with the
self-closing form in its place from those with that form. -/
theorem of_foldl {ts : List Token} (h : Turned tag s (.lone tag.closed s') front (ts.foldl Builder.add .start) after)
    (hopens : (tag.selfClosing || isVoid tag.name) = false) :
    ∃ us vs, ts = us ++ .startTag tag s :: vs ∧ front = us.flatMap Token.source ∧
      after = (us ++ .startTag tag.closed s' :: vs).foldl Builder.add .start := by
  induction ts using List.reverseRecOn generalizing after with
  | nil =>
    cases h with
    | level _ h => cases h
  | append_singleton ts token ih =>
    rw [List.foldl_append, List.foldl_cons, List.foldl_nil] at h
    rcases h.of_add hopens with ⟨before, hbefore, rfl⟩ | ⟨rfl, rfl, rfl⟩
    · obtain ⟨us, vs, rfl, hfront, rfl⟩ := ih hbefore
      exact ⟨us, vs ++ [token], by simp, hfront, by simp⟩
    · refine ⟨ts, [], rfl, ?_, by simp⟩
      rw [chars_foldl_add]
      rfl

end Turned

/-- The self-closing form of an element without an end tag: a slash before the end of its start tag, with a space
before it. -/
def slashed (s : List Char) : List Char := Text.insertBytes (Text.byteLength s - 1) [' ', '/'] s

theorem slashed_append (b : List Char) : slashed (b ++ ['>']) = b ++ [' ', '/', '>'] := by
  have hpoint : Text.byteLength (b ++ ['>']) - 1 = Text.byteLength b := by
    rw [Text.byteLength_append]
    rfl
  rw [slashed, hpoint, Text.insertBytes_append]
  rfl

/-- An element without an end tag is in the tree what its self-closing form is. -/
theorem replaces_of_mem_placed {text s : List Char} {tag : StartTag} {p : Placed} (hp : p ∈ (ofChars text).placed)
    (hnode : p.node = .lone tag s) (hclosing : tag.selfClosing = false) (hvoid : isVoid tag.name = false)
    (hraw : isRawText tag.name = false) :
    ∃ front b, p.start = Text.byteLength front ∧ s = b ++ ['>'] ∧
      Replaces (.lone tag s) (.lone tag.closed (slashed s)) front p.id (ofChars text).roots
        (ofChars (Text.insertBytes (p.stop - 1) [' ', '/'] text)).roots := by
  obtain ⟨front, count, nodes, hreplaces, hstart, hid⟩ :=
    exists_replaces_of_placeNodes (.lone tag.closed (slashed s)) _ hp hnode
  rw [Nat.zero_add] at hstart hid
  subst hid
  obtain ⟨after, hturned, rfl⟩ := Turned.finish_cases hreplaces
  have hopens : (tag.selfClosing || isVoid tag.name) = false := by rw [hclosing, hvoid]; rfl
  obtain ⟨us, vs, htokens, rfl, rfl⟩ := hturned.of_foldl hopens
  obtain ⟨b, rfl, hslashed⟩ := tokens_slashed htokens hclosing hraw
  have htext : text = us.flatMap Token.source ++ b ++ '>' :: vs.flatMap Token.source := by
    rw [← sources_tokens text, htokens]
    simp [Token.source]
  have hpoint : p.stop - 1 = Text.byteLength (us.flatMap Token.source ++ b) := by
    rw [Placed.stop, hstart, hnode, Node.bytes, Text.byteLength_append, Text.byteLength_append]
    rfl
  refine ⟨_, b, hstart, rfl, ?_⟩
  rw [hpoint, htext, Text.insertBytes_append, ← htext]
  have htext' : us.flatMap Token.source ++ b ++ ([' ', '/'] ++ '>' :: vs.flatMap Token.source) =
      us.flatMap Token.source ++ (b ++ ' ' :: '/' :: '>' :: vs.flatMap Token.source) := by simp
  rw [htext', ofChars.eq_def (_ ++ _), hslashed, ← slashed_append]
  exact hreplaces

end Document

end HtmlComponents
