import HtmlComponents.Decimal.Notation
import HtmlComponents.Json.Printer

/-!
# Properties

The five kinds of property and their values.
-/

namespace HtmlComponents.Property

/-- The kind of a property. -/
inductive Kind where
  | string
  | number
  | boolean
  | array
  | object
deriving DecidableEq

def Kind.name : Kind → String
  | string => "string"
  | number => "number"
  | boolean => "boolean"
  | array => "array"
  | object => "object"

/-- A typed value. -/
inductive Value where
  | string (text : String)
  | number (x : Float)
  | boolean (b : Bool)
  | array (items : List Json)
  | object (members : List (String × Json))

namespace Value

def kind : Value → Kind
  | string _ => .string
  | number _ => .number
  | boolean _ => .boolean
  | array _ => .array
  | object _ => .object

/-- Numbers in texts are always positional, and whole ones have no point. -/
def plain : Decimal.Notation where
  positional := none
  pointZero := false
  tie := .up

/-- The text of a number in markup and in paths. -/
def numberText (x : Float) : String := plain.write x

/-- A value as text: a string itself, arrays and objects as JSON. -/
def text : Value → String
  | string s => s
  | number x => numberText x
  | boolean b => if b then "true" else "false"
  | array items => (Json.array items).print
  | object members => (Json.object members).print

end Value

/-- A raw attribute text that does not fit the kind of its property. -/
structure TypeError where
  property : String
  expected : Kind
  found : String
deriving DecidableEq

end HtmlComponents.Property
