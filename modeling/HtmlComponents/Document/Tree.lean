import HtmlComponents.Document.Token
import HtmlComponents.Text.Bytes

/-!
# Document trees

The tree of a document. An end tag closes the nearest open element of its name; elements opened
after that one, and those that nothing closes, cover their start tag alone, and what follows them
becomes their siblings. `chars_ofTokens`: the nodes written one after another are the tokens.
-/

namespace HtmlComponents.Document

/-- A node with the source text that it covers. -/
inductive Node where
  | text (source : List Char)
  | comment (source : List Char)
  | declaration (source : List Char)
  /-- An element that consists of its start tag. -/
  | lone (tag : StartTag) (source : List Char)
  /-- An element with its start tag, its content and its end tag. -/
  | paired (tag : StartTag) (source : List Char) (children : List Node) (ending : List Char)

namespace Node

mutual

/-- The source text of a node. -/
def chars : Node → List Char
  | text s => s
  | comment s => s
  | declaration s => s
  | lone _ s => s
  | paired _ s children ending => s ++ charsList children ++ ending

def charsList : List Node → List Char
  | [] => []
  | node :: rest => chars node ++ charsList rest

end

mutual

/-- The number of bytes that a node covers. -/
def bytes : Node → Nat
  | text s => Text.byteLength s
  | comment s => Text.byteLength s
  | declaration s => Text.byteLength s
  | lone _ s => Text.byteLength s
  | paired _ s children ending =>
    Text.byteLength s + bytesList children + Text.byteLength ending

def bytesList : List Node → Nat
  | [] => 0
  | node :: rest => bytes node + bytesList rest

end

mutual

theorem bytes_eq : (node : Node) → node.bytes = Text.byteLength node.chars
  | text _ => by simp [bytes, chars]
  | comment _ => by simp [bytes, chars]
  | declaration _ => by simp [bytes, chars]
  | lone _ _ => by simp [bytes, chars]
  | paired _ _ children _ => by
    simp [bytes, chars, Text.byteLength_append, bytesList_eq children, Nat.add_assoc]

theorem bytesList_eq : (nodes : List Node) → bytesList nodes = Text.byteLength (charsList nodes)
  | [] => by simp [bytesList, charsList]
  | node :: rest => by
    simp [bytesList, charsList, Text.byteLength_append, bytes_eq node, bytesList_eq rest]

end

mutual

/-- The number of nodes in a tree. -/
def count : Node → Nat
  | paired _ _ children _ => 1 + countList children
  | _ => 1

def countList : List Node → Nat
  | [] => 0
  | node :: rest => count node + countList rest

end

/-- The start tag of an element. -/
def tag? : Node → Option StartTag
  | lone tag _ => some tag
  | paired tag _ _ _ => some tag
  | _ => none

def children : Node → List Node
  | paired _ _ children _ => children
  | _ => []

/-- The source of the start tag of an element; for other nodes their whole source. -/
def openingChars : Node → List Char
  | text s => s
  | comment s => s
  | declaration s => s
  | lone _ s => s
  | paired _ s _ _ => s

theorem charsList_append (a b : List Node) : charsList (a ++ b) = charsList a ++ charsList b := by
  induction a with
  | nil => simp [charsList]
  | cons node rest ih => simp [charsList, ih]

end Node

/-- An open element, with the nodes before it on its level, last first. -/
structure Frame where
  tag : StartTag
  source : List Char
  earlier : List Node

/-- A tree under construction: the nodes of the innermost level, last first, and the open elements,
innermost first. -/
structure Builder where
  level : List Node
  frames : List Frame

namespace Builder

def start : Builder := ⟨[], []⟩

/-- Adds text, which continues a text right before it. -/
def addText (source : List Char) : List Node → List Node
  | .text s :: rest => .text (s ++ source) :: rest
  | level => .text source :: level

/-- The level around an element that turns out to have no end tag. -/
def flatten (level : List Node) (frame : Frame) : List Node :=
  level ++ .lone frame.tag frame.source :: frame.earlier

/-- Closes the nearest open element of a name, if there is one. -/
def close? (name : String) (ending : List Char) (level : List Node) : List Frame → Option Builder
  | [] => none
  | frame :: outer =>
    if frame.tag.isNamed name then
      some ⟨.paired frame.tag frame.source level.reverse ending :: frame.earlier, outer⟩
    else close? name ending (flatten level frame) outer

/-- Adds a token. An end tag without an open element is text. -/
def add (builder : Builder) : Token → Builder
  | .text s => { builder with level := addText s builder.level }
  | .comment s => { builder with level := .comment s :: builder.level }
  | .declaration s => { builder with level := .declaration s :: builder.level }
  | .startTag tag s =>
    if tag.selfClosing || isVoid tag.name then
      { builder with level := .lone tag s :: builder.level }
    else ⟨[], ⟨tag, s, builder.level⟩ :: builder.frames⟩
  | .endTag name s =>
    match close? name s builder.level builder.frames with
    | some closed => closed
    | none => { builder with level := addText s builder.level }

/-- The nodes of the outermost level, once all tokens are added. -/
def finish (builder : Builder) : List Node :=
  (builder.frames.foldl flatten builder.level).reverse

end Builder

end Document

/-- A document: its nodes on the outermost level. -/
structure Document where
  roots : List Document.Node

namespace Document

/-- The tree that tokens make up. -/
def ofTokens (tokens : List Token) : Document :=
  ⟨(tokens.foldl Builder.add .start).finish⟩

/-- The tree of a text. -/
def ofChars (text : List Char) : Document := ofTokens (tokens text)

/-- The tree of a text. Every text has one. -/
def parse (text : String) : Document := ofChars text.toList

/-- The text that a document is the tree of. -/
def chars (document : Document) : List Char := Node.charsList document.roots

namespace Builder

/-- The source text of the nodes of a level and of all that is around it so far. -/
def chars (level : List Node) : List Frame → List Char
  | [] => Node.charsList level.reverse
  | frame :: outer => chars frame.earlier outer ++ frame.source ++ Node.charsList level.reverse

theorem chars_cons (node : Node) (level : List Node) (frames : List Frame) :
    chars (node :: level) frames = chars level frames ++ node.chars := by
  cases frames <;> simp [chars, Node.charsList_append, Node.charsList]

theorem chars_addText (s : List Char) (level : List Node) (frames : List Frame) :
    chars (addText s level) frames = chars level frames ++ s := by
  unfold addText
  split <;> simp [chars_cons, Node.chars]

theorem chars_append (a b : List Node) (frames : List Frame) :
    chars (a ++ b) frames = chars b frames ++ Node.charsList a.reverse := by
  induction a with
  | nil => simp [Node.charsList]
  | cons node rest ih => simp [chars_cons, ih, Node.charsList_append, Node.charsList]

theorem chars_flatten (level : List Node) (frame : Frame) (outer : List Frame) :
    chars (flatten level frame) outer = chars level (frame :: outer) := by
  simp [flatten, chars_append, chars_cons, Node.chars, chars]

theorem chars_close? {name : String} {ending : List Char} {level : List Node}
    {frames : List Frame} {closed : Builder} (h : close? name ending level frames = some closed) :
    chars closed.level closed.frames = chars level frames ++ ending := by
  induction frames generalizing level with
  | nil => simp [close?] at h
  | cons frame outer ih =>
    simp only [close?] at h
    split at h
    · simp only [Option.some.injEq] at h
      subst h
      simp [chars_cons, Node.chars, chars]
    · rw [ih h, chars_flatten]

theorem chars_add (builder : Builder) (token : Token) :
    chars (builder.add token).level (builder.add token).frames =
      chars builder.level builder.frames ++ token.source := by
  cases token with
  | text s => exact chars_addText ..
  | comment s => exact chars_cons ..
  | declaration s => exact chars_cons ..
  | startTag tag s =>
    simp only [add]
    split
    · exact chars_cons ..
    · simp [chars, Token.source, Node.charsList]
  | endTag name s =>
    simp only [add]
    split
    · exact chars_close? (by assumption)
    · exact chars_addText ..

theorem charsList_finish (builder : Builder) :
    Node.charsList builder.finish = chars builder.level builder.frames := by
  obtain ⟨level, frames⟩ := builder
  simp only [finish]
  induction frames generalizing level with
  | nil => rfl
  | cons frame outer ih => rw [List.foldl_cons, ih, chars_flatten]

end Builder

theorem chars_foldl_add (builder : Builder) (tokens : List Token) :
    Builder.chars (tokens.foldl Builder.add builder).level (tokens.foldl Builder.add builder).frames =
      Builder.chars builder.level builder.frames ++ tokens.flatMap Token.source := by
  induction tokens generalizing builder with
  | nil => simp
  | cons token rest ih => simp [ih, Builder.chars_add]

theorem chars_ofTokens (tokens : List Token) :
    (ofTokens tokens).chars = tokens.flatMap Token.source := by
  simp [chars, ofTokens, Builder.charsList_finish, chars_foldl_add, Builder.start, Builder.chars,
    Node.charsList]

/-- A tree holds the whole text. -/
@[simp] theorem chars_ofChars (text : List Char) : (ofChars text).chars = text := by
  rw [ofChars, chars_ofTokens, sources_tokens]

end Document

end HtmlComponents
