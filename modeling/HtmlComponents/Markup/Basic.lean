import HtmlComponents.OrderedMap
import HtmlComponents.TagName

/-!
# Markup

The tree that a component renders, and the building of its elements.
-/

namespace HtmlComponents

/-- What the start tag of an element says. An attribute without a value is a flag. -/
structure Opening where
  tag : String
  attributes : OrderedMap (Option String)
  selfClosing : Bool

/-- A node of rendered markup. -/
inductive Markup where
  | text (text : String)
  /-- HTML that is written as it is. -/
  | raw (html : String)
  | fragment (children : List Markup)
  | element (opening : Opening) (children : List Markup)

def Markup.empty : Markup := .fragment []

/-- An element under construction. -/
structure Element where
  opening : Opening
  children : List Markup

namespace Element

def ofTag (tag : String) : Element := ⟨⟨tag, .empty, false⟩, []⟩

def toMarkup (e : Element) : Markup := .element e.opening e.children

def setAttribute (e : Element) (name : String) (value : Option String) : Element :=
  { e with opening := { e.opening with attributes := e.opening.attributes.insert name value } }

/-- Sets an attribute; one that is set again keeps its place. -/
def attr (e : Element) (name value : String) : Element := e.setAttribute name (some value)

/-- Sets an attribute without a value. -/
def flag (e : Element) (name : String) : Element := e.setAttribute name none

def flagIf (e : Element) (name : String) (on : Bool) : Element :=
  if on then e.flag name else e

def attrs (e : Element) (pairs : List (String × String)) : Element :=
  pairs.foldl (fun e pair => e.attr pair.1 pair.2) e

/-- Adds a class to the list of classes. -/
def addClass (e : Element) (name : String) : Element :=
  if name.isEmpty then e
  else
    match e.opening.attributes.get? "class" with
    | some (some present) =>
      e.attr "class" (if present.isEmpty then name else present ++ " " ++ name)
    | _ => e.attr "class" name

def addChildren (e : Element) (children : List Markup) : Element :=
  { e with children := e.children ++ children }

def addChild (e : Element) (child : Markup) : Element := e.addChildren [child]

/-- Makes the element end with its start tag; its children are not written. -/
def close (e : Element) : Element := { e with opening := { e.opening with selfClosing := true } }

/-- The value of an attribute, if it has one. -/
def attr? (e : Element) (name : String) : Option String :=
  (e.opening.attributes.get? name).join

def hasAttr (e : Element) (name : String) : Bool := e.opening.attributes.contains name

end Element

end HtmlComponents
