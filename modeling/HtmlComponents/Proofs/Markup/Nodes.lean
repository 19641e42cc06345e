import HtmlComponents.Document.Tree
import HtmlComponents.Proofs.Markup.Opening

/-!
# Markup as a tree of nodes

The nodes that markup stands for, said without reading its HTML: fragments are flattened, empty texts
are dropped and neighbouring texts are one. Markup is readable if it holds no raw HTML, its names are
read whole, and its raw text elements hold text alone.
-/

namespace HtmlComponents

open Document (Node Builder)

namespace Document

/-- Nodes with neighbouring texts joined. -/
def joinTexts : List Node → List Node
  | [] => []
  | node :: rest =>
    match node, joinTexts rest with
    | .text a, .text b :: more => .text (a ++ b) :: more
    | node, nodes => node :: nodes

theorem joinTexts_text_text (a b : List Char) (rest : List Node) :
    joinTexts (.text a :: .text b :: rest) = joinTexts (.text (a ++ b) :: rest) := by
  simp only [joinTexts]
  cases joinTexts rest with
  | nil => rfl
  | cons node more => cases node <;> simp

theorem joinTexts_cons (node : Node) (rest : List Node) :
    (∃ a b more, node = .text a ∧ joinTexts rest = .text b :: more ∧
      joinTexts (node :: rest) = .text (a ++ b) :: more) ∨
    joinTexts (node :: rest) = node :: joinTexts rest := by
  cases node with
  | text a =>
    simp only [joinTexts]
    cases joinTexts rest with
    | nil => exact .inr rfl
    | cons next more =>
      cases next with
      | text b => exact .inl ⟨a, b, more, rfl, rfl, rfl⟩
      | comment | declaration | lone | paired => exact .inr rfl
  | comment | declaration | lone | paired => exact .inr rfl

theorem charsList_joinTexts (nodes : List Node) :
    Node.charsList (joinTexts nodes) = Node.charsList nodes := by
  induction nodes with
  | nil => rfl
  | cons node rest ih =>
    rcases joinTexts_cons node rest with ⟨a, b, more, rfl, hrest, hjoin⟩ | hjoin
    · rw [hrest] at ih
      rw [hjoin, Node.charsList, Node.charsList, ← ih]
      simp [Node.charsList, Node.chars]
    · rw [hjoin, Node.charsList, Node.charsList, ih]

theorem joinTexts_cons_of_not_text {node : Node} (h : ∀ s, node ≠ .text s) (rest : List Node) :
    joinTexts (node :: rest) = node :: joinTexts rest := by
  cases node with
  | text s => exact absurd rfl (h s)
  | comment | declaration | lone | paired => rfl

theorem joinTexts_cons_cons_of_not_text {node : Node} (h : ∀ s, node ≠ .text s) (before : Node)
    (rest : List Node) : joinTexts (before :: node :: rest) = before :: joinTexts (node :: rest) := by
  rw [joinTexts]
  intro a b more _ heq
  rw [joinTexts_cons_of_not_text h] at heq
  exact h b (List.cons.inj heq).1

namespace Builder

/-- Puts nodes on a level, last first; a text continues a text right before it. -/
def place (level : List Node) : List Node → List Node
  | [] => level
  | .text s :: rest => place (addText s level) rest
  | node :: rest => place (node :: level) rest

theorem place_append (level a b : List Node) : place level (a ++ b) = place (place level a) b := by
  induction a generalizing level with
  | nil => rfl
  | cons node rest ih => cases node <;> exact ih _

theorem addText_addText (a b : List Char) (level : List Node) :
    addText b (addText a level) = addText (a ++ b) level := by
  cases level with
  | nil => rfl
  | cons node rest => cases node <;> simp [addText]

/-- Placed nodes in their order: the last node before them may be a text that they continue. -/
theorem reverse_place (level nodes : List Node) :
    (place level nodes).reverse = level.tail.reverse ++ joinTexts (level.head?.toList ++ nodes) := by
  induction nodes generalizing level with
  | nil =>
    cases level with
    | nil => rfl
    | cons node rest => cases node <;> simp [place, joinTexts]
  | cons node rest ih =>
    by_cases h : ∃ t, node = .text t
    · -- a text is joined with the last node of the level if that is a text too
      obtain ⟨t, rfl⟩ := h
      rw [place, ih]
      cases level with
      | nil => rfl
      | cons last level =>
        by_cases hlast : ∃ s, last = .text s
        · obtain ⟨s, rfl⟩ := hlast
          exact congrArg (level.reverse ++ ·) (joinTexts_text_text s t rest).symm
        · have hne : ∀ s, last ≠ .text s := fun s hs => hlast ⟨s, hs⟩
          have hadd : addText t (last :: level) = .text t :: last :: level := by
            cases last with
            | text s => exact absurd rfl (hne s)
            | comment | declaration | lone | paired => rfl
          simp [hadd, joinTexts_cons_of_not_text hne]
    · have hne : ∀ t, node ≠ .text t := fun t ht => h ⟨t, ht⟩
      have hplace : place level (node :: rest) = place (node :: level) rest := by
        cases node with
        | text t => exact absurd rfl (hne t)
        | comment | declaration | lone | paired => rfl
      rw [hplace, ih]
      cases level with
      | nil => rfl
      | cons last level =>
        simp [joinTexts_cons_of_not_text hne, joinTexts_cons_cons_of_not_text hne]

theorem reverse_place_nil (nodes : List Node) : (place [] nodes).reverse = joinTexts nodes :=
  reverse_place [] nodes

end Builder

end Document

namespace Markup

mutual

/-- Markup without anything but text. -/
def isOnlyText : Markup → Bool
  | text _ => true
  | raw _ => false
  | fragment children => isOnlyTextList children
  | element _ _ => false

def isOnlyTextList : List Markup → Bool
  | [] => true
  | node :: rest => isOnlyText node && isOnlyTextList rest

end

mutual

/-- Markup whose HTML can be read back. -/
def isReadable : Markup → Bool
  | text _ => true
  | raw _ => false
  | fragment children => isReadableList children
  | element opening children =>
    opening.isReadable && (!isRawText opening.tag || isOnlyTextList children) &&
      isReadableList children

def isReadableList : List Markup → Bool
  | [] => true
  | node :: rest => isReadable node && isReadableList rest

end

mutual

/-- The nodes of readable markup, before neighbouring texts are joined. -/
def nodes : Markup → List Node
  | text s => if s.toList.isEmpty then [] else [.text (s.toList.flatMap Text.escapeTextChar)]
  | raw _ => []
  | fragment children => nodesList children
  | element opening children =>
    if opening.isChildless then [.lone opening.startTag opening.chars]
    else
      [.paired opening.startTag opening.chars (Document.joinTexts (nodesList children))
        (endTagChars opening.tag)]

def nodesList : List Markup → List Node
  | [] => []
  | node :: rest => nodes node ++ nodesList rest

end

mutual

theorem lt_notMem_chars : (markup : Markup) → markup.isOnlyText = true → '<' ∉ markup.chars
  | text s, _ => by
    rw [chars]
    exact Text.lt_notMem_escapeText s.toList
  | raw _, h => by simp [isOnlyText] at h
  | fragment children, h => by
    rw [isOnlyText] at h
    rw [chars]
    exact lt_notMem_charsList children h
  | element _ _, h => by simp [isOnlyText] at h

theorem lt_notMem_charsList : (children : List Markup) → isOnlyTextList children = true →
    '<' ∉ charsList children
  | [], _ => by simp [charsList]
  | node :: rest, h => by
    rw [isOnlyTextList, Bool.and_eq_true] at h
    rw [charsList, List.mem_append, not_or]
    exact ⟨lt_notMem_chars node h.1, lt_notMem_charsList rest h.2⟩

end

end Markup

end HtmlComponents
