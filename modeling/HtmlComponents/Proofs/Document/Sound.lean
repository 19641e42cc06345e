import HtmlComponents.Proofs.Document.Numbering
import HtmlComponents.Proofs.Document.Tag
import Mathlib.Data.List.Chain

/-!
# Sound trees

What the reading of any text keeps to: no node is empty, a paired element is neither void nor
self-closing and ends with an end tag of its name, and no two texts are neighbours. Tokens of a text
are sound (`sound_tokens`), adding a sound token keeps a tree under construction sound
(`Builder.Sound.add`), and so does flattening the elements that are left open at the end
(`soundLevel_ofChars`).
-/

namespace HtmlComponents.Document

def Node.isText : Node → Bool
  | .text _ => true
  | _ => false

/-- At most one of two neighbours is text. -/
def Apart (a b : Node) : Prop := ¬ (a.isText = true ∧ b.isText = true)

theorem Apart.symm {a b : Node} (h : Apart a b) : Apart b a := fun hba => h hba.symm

theorem apart_left {a b : Node} (h : a.isText = false) : Apart a b := by simp [Apart, h]

theorem apart_right {a b : Node} (h : b.isText = false) : Apart a b := by simp [Apart, h]

/-- A node as reading makes it. -/
inductive Node.Sound : Node → Prop
  | text {s : List Char} (hs : s ≠ []) : Sound (.text s)
  | comment {s : List Char} (hs : s ≠ []) : Sound (.comment s)
  | declaration {s : List Char} (hs : s ≠ []) : Sound (.declaration s)
  | lone {tag : StartTag} {s : List Char} (opening : IsStartTag tag s) : Sound (.lone tag s)
  | paired {tag : StartTag} {s ending : List Char} {children : List Node} {name : String}
      (opening : IsStartTag tag s) (notClosed : tag.selfClosing = false)
      (notVoid : isVoid tag.name = false) (content : ∀ node ∈ children, Sound node)
      (apart : children.IsChain Apart) (named : sameName tag.name name = true)
      (closing : IsEndTag name ending) : Sound (.paired tag s children ending)

theorem Node.Sound.chars_ne_nil {node : Node} (h : node.Sound) : node.chars ≠ [] := by
  cases h with
  | text hs => exact hs
  | comment hs => exact hs
  | declaration hs => exact hs
  | lone opening => exact opening.ne_nil
  | paired opening =>
    intro hnil
    simp only [Node.chars, List.append_eq_nil_iff] at hnil
    exact opening.ne_nil hnil.1.1

theorem Node.Sound.openingChars_ne_nil {node : Node} (h : node.Sound) : node.openingChars ≠ [] := by
  cases h with
  | text hs => exact hs
  | comment hs => exact hs
  | declaration hs => exact hs
  | lone opening => exact opening.ne_nil
  | paired opening => exact opening.ne_nil

/-- Sound siblings, in their order or from the last to the first. -/
structure SoundLevel (nodes : List Node) : Prop where
  sound : ∀ node ∈ nodes, node.Sound
  apart : nodes.IsChain Apart

namespace SoundLevel

variable {level earlier : List Node} {node : Node} {s : List Char}

theorem nil : SoundLevel [] := ⟨by simp, .nil⟩

theorem tail (h : SoundLevel (node :: level)) : SoundLevel level :=
  ⟨fun n hn => h.sound n (List.mem_cons_of_mem _ hn), (List.isChain_cons.mp h.apart).2⟩

theorem cons (hnode : node.Sound) (hhead : ∀ n ∈ level.head?, Apart node n)
    (h : SoundLevel level) : SoundLevel (node :: level) := by
  refine ⟨fun n hn => ?_, List.isChain_cons.mpr ⟨hhead, h.apart⟩⟩
  rcases List.mem_cons.mp hn with rfl | hn
  · exact hnode
  · exact h.sound n hn

theorem cons_of_not_text (hnode : node.Sound) (ht : node.isText = false) (h : SoundLevel level) :
    SoundLevel (node :: level) :=
  h.cons hnode fun _ _ => apart_left ht

theorem append (h : SoundLevel level) (h' : SoundLevel earlier)
    (hhead : ∀ n ∈ earlier.head?, n.isText = false) : SoundLevel (level ++ earlier) := by
  refine ⟨fun n hn => ?_, h.apart.append h'.apart fun _ _ n hn => apart_right (hhead n hn)⟩
  rcases List.mem_append.mp hn with hn | hn
  · exact h.sound n hn
  · exact h'.sound n hn

theorem reverse (h : SoundLevel level) : SoundLevel level.reverse := by
  refine ⟨fun n hn => h.sound n (List.mem_reverse.mp hn), List.isChain_reverse.mpr ?_⟩
  exact h.apart.imp fun _ _ hab => hab.symm

theorem addText (hs : s ≠ []) (h : SoundLevel level) : SoundLevel (Builder.addText s level) := by
  unfold Builder.addText
  split
  · -- the text before it is continued, and keeps its other neighbour
    rename_i s' rest
    refine h.tail.cons (.text (by simp [hs])) fun n hn => ?_
    exact (List.isChain_cons.mp h.apart).1 n hn
  · rename_i hnot
    refine h.cons (.text hs) fun n hn => apart_right ?_
    cases n with
    | text s' =>
      obtain ⟨rest, hrest⟩ := List.head?_eq_some_iff.mp hn
      exact absurd hrest (hnot s' rest)
    | comment | declaration | lone | paired => rfl

end SoundLevel

/-- An open element that an end tag may close. -/
structure Frame.Sound (frame : Frame) : Prop where
  opening : IsStartTag frame.tag frame.source
  notClosed : frame.tag.selfClosing = false
  notVoid : isVoid frame.tag.name = false
  earlier : SoundLevel frame.earlier

def Token.Sound : Token → Prop
  | .text s => s ≠ []
  | .comment s => s ≠ []
  | .declaration s => s ≠ []
  | .startTag tag s => IsStartTag tag s
  | .endTag name s => IsEndTag name s

theorem upTo_ne_nil {c : Char} {rest left : List Char} (h : left <:+ rest) :
    upTo (c :: rest) left ≠ [] := by
  obtain ⟨front, rfl⟩ := h
  rw [← List.cons_append, upTo_append_left]
  simp

theorem sound_readToken (c : Char) (rest : List Char) : (readToken c rest).1.Sound := by
  unfold readToken
  simp only
  split
  · exact upTo_ne_nil (afterComment_suffix c rest)
  · split
    · rename_i name left he
      obtain ⟨source, hsource, hend⟩ := readEndTag?_eq he
      rwa [hsource, upTo_append_left]
    · split
      · rename_i tag left hs
        obtain ⟨source, hsource, hstart⟩ := readStartTag?_eq hs
        rwa [hsource, upTo_append_left]
      · split
        · exact upTo_ne_nil (afterDeclaration?_suffix (by assumption))
        · exact List.cons_ne_nil _ _

theorem sound_of_mem_textToken {source : List Char} {token : Token}
    (h : token ∈ textToken source) : token.Sound := by
  unfold textToken at h
  split at h
  · simp at h
  · rename_i hne
    rw [List.mem_singleton.mp h]
    exact fun hnil => hne (by rw [hnil]; rfl)

theorem sound_tokens (text : List Char) : ∀ token ∈ tokens text, token.Sound := by
  fun_induction tokens text with
  | case1 => simp
  | case2 c rest token raw ih =>
    intro t ht
    rcases List.mem_cons.mp ht with rfl | ht
    · exact sound_readToken c rest
    · rcases List.mem_append.mp ht with ht | ht
      · exact sound_of_mem_textToken ht
      · exact ih t ht

namespace Builder

/-- A tree under construction whose levels and open elements are sound. -/
structure Sound (builder : Builder) : Prop where
  level : SoundLevel builder.level
  frames : ∀ frame ∈ builder.frames, frame.Sound

theorem soundLevel_flatten {level : List Node} {frame : Frame} (h : SoundLevel level)
    (hf : frame.Sound) : SoundLevel (flatten level frame) := by
  refine h.append (hf.earlier.cons_of_not_text (.lone hf.opening) rfl) fun n hn => ?_
  rw [← Option.mem_some.mp hn]
  rfl

/-- An end tag closes an element around sound content, and what it leaves open on the way is
flattened. -/
theorem sound_close? {name : String} {ending : List Char} {level : List Node}
    {frames : List Frame} {closed : Builder} (hend : IsEndTag name ending) (h : SoundLevel level)
    (hf : ∀ frame ∈ frames, frame.Sound) (hclose : close? name ending level frames = some closed) :
    closed.Sound := by
  induction frames generalizing level with
  | nil => simp [close?] at hclose
  | cons frame outer ih =>
    obtain ⟨hframe, houter⟩ := List.forall_mem_cons.mp hf
    simp only [close?] at hclose
    split at hclose
    · rename_i hname
      cases hclose
      have hnode : Node.Sound (.paired frame.tag frame.source level.reverse ending) :=
        .paired hframe.opening hframe.notClosed hframe.notVoid h.reverse.sound h.reverse.apart hname
          hend
      exact ⟨hframe.earlier.cons_of_not_text hnode rfl, houter⟩
    · -- the element has another name: it covers its start tag, and the search goes on outside it
      exact ih (soundLevel_flatten h hframe) houter hclose

theorem Sound.add {builder : Builder} {token : Token} (h : builder.Sound) (ht : token.Sound) :
    (builder.add token).Sound := by
  cases token with
  | text s => exact ⟨h.level.addText ht, h.frames⟩
  | comment s => exact ⟨h.level.cons_of_not_text (.comment ht) rfl, h.frames⟩
  | declaration s => exact ⟨h.level.cons_of_not_text (.declaration ht) rfl, h.frames⟩
  | startTag tag s =>
    simp only [Builder.add]
    split
    · exact ⟨h.level.cons_of_not_text (.lone ht) rfl, h.frames⟩
    · rename_i hopen
      simp only [Bool.or_eq_true, not_or, Bool.not_eq_true] at hopen
      refine ⟨.nil, fun frame hframe => ?_⟩
      rcases List.mem_cons.mp hframe with rfl | hframe
      · exact ⟨ht, hopen.1, hopen.2, h.level⟩
      · exact h.frames frame hframe
  | endTag name s =>
    simp only [Builder.add]
    split
    · exact sound_close? ht h.level h.frames (by assumption)
    · exact ⟨h.level.addText (IsEndTag.ne_nil ht), h.frames⟩

theorem Sound.foldl_add {builder : Builder} {tokens : List Token} (h : builder.Sound)
    (ht : ∀ token ∈ tokens, token.Sound) : (tokens.foldl Builder.add builder).Sound := by
  induction tokens generalizing builder with
  | nil => exact h
  | cons token rest ih =>
    obtain ⟨htoken, hrest⟩ := List.forall_mem_cons.mp ht
    exact ih (h.add htoken) hrest

theorem Sound.finish {builder : Builder} (h : builder.Sound) : SoundLevel builder.finish := by
  obtain ⟨level, frames⟩ := builder
  obtain ⟨hlevel, hframes⟩ := h
  refine SoundLevel.reverse ?_
  dsimp only at hlevel hframes ⊢
  induction frames generalizing level with
  | nil => exact hlevel
  | cons frame outer ih =>
    obtain ⟨hframe, houter⟩ := List.forall_mem_cons.mp hframes
    exact ih _ (soundLevel_flatten hlevel hframe) houter

end Builder

/-- Whatever the text is, its tree is sound. -/
theorem soundLevel_ofChars (text : List Char) : SoundLevel (ofChars text).roots := by
  have hstart : Builder.start.Sound := ⟨.nil, by simp [Builder.start]⟩
  exact (hstart.foldl_add (sound_tokens text)).finish

theorem Node.Sound.children {node : Node} (h : node.Sound) : ∀ child ∈ node.children, child.Sound := by
  cases h with
  | paired _ _ _ content => exact content
  | text | comment | declaration | lone => exact fun _ hchild => absurd hchild List.not_mem_nil

theorem sound_of_mem_placeNodes {parent : Option Nat} {id start : Nat} {p : Placed}
    (nodes : List Node) (h : ∀ node ∈ nodes, node.Sound) (hp : p ∈ placeNodes parent id start nodes) :
    p.node.Sound :=
  holds_of_mem_placeNodes (fun _ hnode => hnode.children) nodes h hp

end HtmlComponents.Document
