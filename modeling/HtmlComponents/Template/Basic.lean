import HtmlComponents.Property.Basic

/-!
# Templates

Render functions and handlers written as data: expressions for texts, and nodes for markup.
-/

namespace HtmlComponents.Template

open Property (Value)

/-- An expression for a text. -/
inductive Text where
  | literal (text : String)
  /-- A typed property, with its default. -/
  | property (name : String) (default : Value)
  /-- The kind and the text of a typed value as it was parsed. -/
  | found (name : String)
  | recording
  | concat (parts : List Text)
  | equal (left right : Text)
  /-- The item of the innermost repetition. -/
  | item
  /-- The number of the item, from zero. -/
  | index
  /-- The class of a style key. -/
  | className (key : String)
  /-- The path of an action. -/
  | path (action : String) (arguments : List Text)
  /-- A path parameter of the request, which has to be there. -/
  | parameter (name : String)
  | parameterOr (name fallback : String)
  | queryOr (name fallback : String)
  | fieldOr (name fallback : String)
  /-- The method and the path of the request. -/
  | request

instance : Inhabited Text := ⟨.literal ""⟩

mutual

/-- An expression for markup. -/
inductive Node where
  | text (text : Text)
  | raw (html : Text)
  | fragment (nodes : List Node)
  | element (tag : String) (steps : List Step)
  /-- A node inside of a number of elements of one tag. -/
  | nested (tag : String) (times : Nat) (node : Node)
  | choice (condition : Text) (yes no : Node)
  /-- A node for every item of an array property. -/
  | each (name : String) (default : List Json) (node : Node)
  | failure (reason : Text)

/-- A step in the building of an element. -/
inductive Step where
  | attr (name : String) (value : Text)
  | flag (name : String)
  | flagIf (name : String) (condition : Text)
  | attrs (pairs : List (String × String))
  | addClass (name : Text)
  | addText (text : Text)
  | children (nodes : List Node)
  | close
  /-- The attributes that call an action. -/
  | call (action : String) (arguments : List Text)

end

instance : Inhabited Node := ⟨.fragment []⟩

instance : Inhabited Step := ⟨.close⟩

end HtmlComponents.Template
