import HtmlComponents.Document.Tree

/-!
# Layout of a document

Every node of a document with its number in document order, its parent, and the bytes that it
covers.
-/

namespace HtmlComponents.Document

/-- A node in its place. -/
structure Placed where
  id : Nat
  parent : Option Nat
  /-- The offset of the first byte. -/
  start : Nat
  node : Node

namespace Placed

/-- The offset after the last byte. -/
def stop (placed : Placed) : Nat := placed.start + placed.node.bytes

/-- The offset after the start tag of an element. -/
def openingStop (placed : Placed) : Nat := placed.start + Text.byteLength placed.node.openingChars

end Placed

/-- The numbers of sibling nodes, given the number of the first. -/
def siblingIds (id : Nat) : List Node → List Nat
  | [] => []
  | node :: rest => id :: siblingIds (id + node.count) rest

/-- The numbers of the children of a node: those after its own. -/
def Placed.childIds (placed : Placed) : List Nat := siblingIds (placed.id + 1) placed.node.children

mutual

/-- A node and all nodes in it, in document order. -/
def placeNode (parent : Option Nat) (id start : Nat) : Node → List Placed
  | .text s => [⟨id, parent, start, .text s⟩]
  | .comment s => [⟨id, parent, start, .comment s⟩]
  | .declaration s => [⟨id, parent, start, .declaration s⟩]
  | .lone tag s => [⟨id, parent, start, .lone tag s⟩]
  | .paired tag s children ending =>
    ⟨id, parent, start, .paired tag s children ending⟩ ::
      placeNodes (some id) (id + 1) (start + Text.byteLength s) children

/-- Siblings and all nodes in them, in document order. -/
def placeNodes (parent : Option Nat) (id start : Nat) : List Node → List Placed
  | [] => []
  | node :: rest =>
    placeNode parent id start node ++
      placeNodes parent (id + node.count) (start + node.bytes) rest

end

/-- All nodes of a document, in document order. -/
def placed (document : Document) : List Placed := placeNodes none 0 0 document.roots

def rootIds (document : Document) : List Nat := siblingIds 0 document.roots

mutual

/-- The outermost elements that `accepts` takes, in a node. -/
def outermostIn (accepts : StartTag → Bool) (parent : Option Nat) (id start : Nat) :
    Node → List (StartTag × Placed)
  | .text _ => []
  | .comment _ => []
  | .declaration _ => []
  | .lone tag s => if accepts tag then [(tag, ⟨id, parent, start, .lone tag s⟩)] else []
  | .paired tag s children ending =>
    if accepts tag then [(tag, ⟨id, parent, start, .paired tag s children ending⟩)]
    else outermostAmong accepts (some id) (id + 1) (start + Text.byteLength s) children

/-- The outermost elements that `accepts` takes, in siblings. -/
def outermostAmong (accepts : StartTag → Bool) (parent : Option Nat) (id start : Nat) :
    List Node → List (StartTag × Placed)
  | [] => []
  | node :: rest =>
    outermostIn accepts parent id start node ++
      outermostAmong accepts parent (id + node.count) (start + node.bytes) rest

end

/-- The elements that `accepts` takes, each with its tag, in document order and without those inside
of one found. -/
def outermost (document : Document) (accepts : StartTag → Bool) : List (StartTag × Placed) :=
  outermostAmong accepts none 0 0 document.roots

end HtmlComponents.Document
