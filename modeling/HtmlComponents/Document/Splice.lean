import HtmlComponents.Document.Layout

/-!
# Splicing

The text of a document with whole nodes replaced. Replacements are made from the start of the text to
its end; one that lies inside a part already replaced has no effect.
-/

namespace HtmlComponents.Document

/-- A part of a text, in byte offsets, and what is to stand in its place. -/
structure Cut where
  start : Nat
  stop : Nat
  text : List Char

/-- The rest of a text, from the offset `cursor` on, with cuts in order of their start replaced. -/
def applyCuts (cursor : Nat) (rest : List Char) : List Cut → List Char
  | [] => rest
  | cut :: more =>
    if cut.start < cursor then applyCuts cursor rest more
    else
      Text.takeBytes (cut.start - cursor) rest ++ cut.text ++
        applyCuts cut.stop (Text.dropBytes (cut.stop - cursor) rest) more

/-- The cuts of replacements by node number; a number without a node is passed over. -/
def cuts (document : Document) (replacements : List (Nat × List Char)) : List Cut :=
  let nodes := document.placed
  replacements.filterMap fun (id, text) =>
    (nodes.find? fun placed => placed.id == id).map fun placed => ⟨placed.start, placed.stop, text⟩

/-- The text of a document with nodes replaced. Of several replacements that start at one place the
first in the list counts. -/
def splice (document : Document) (replacements : List (Nat × List Char)) : List Char :=
  applyCuts 0 document.chars
    ((document.cuts replacements).mergeSort fun a b => decide (a.start ≤ b.start))

end HtmlComponents.Document
