import HtmlComponents.Decimal.Numeral
import HtmlComponents.Json.Reader
import HtmlComponents.Naming
import HtmlComponents.OrderedMap
import HtmlComponents.Property.Basic

/-!
# Property schemas

The properties of a component with their defaults, and how raw attribute texts become typed values.
The kind of a property is the kind of its default.
-/

namespace HtmlComponents

/-- Attribute texts as they are written on a tag or sent with a request. -/
abbrev RawAttributes := OrderedMap String

namespace Property

/-- Typed values by property name. -/
abbrev Values := OrderedMap Value

/-- The value of a property from its raw text, if it has one. The presence of an attribute makes a
boolean true, whatever it says; text that is no JSON of the right shape counts as absent. -/
def parse (name : String) (default : Value) (raw : Option String) : Except TypeError Value :=
  match default, raw with
  | default, none => .ok default
  | .boolean _, some _ => .ok (.boolean true)
  | .string _, some text => .ok (.string text)
  | .number _, some text =>
    match Decimal.parse? text with
    | some x => .ok (.number x)
    | none => .error ⟨name, .number, text⟩
  | .array items, some text =>
    match Json.parse? text with
    | some (.array found) => .ok (.array found)
    | _ => .ok (.array items)
  | .object members, some text =>
    match Json.parse? text with
    | some (.object found) => .ok (.object found)
    | _ => .ok (.object members)

/-- The defaults of the properties of a component, in the order in which they were added. -/
structure Schema where
  defaults : OrderedMap Value

namespace Schema

def empty : Schema := ⟨OrderedMap.empty⟩

/-- Adds a property; one that is present stays as it is. -/
def insert (schema : Schema) (name : String) (default : Value) : Schema :=
  ⟨schema.defaults.insertNew name default⟩

def contains (schema : Schema) (name : String) : Bool := schema.defaults.contains name

def kind? (schema : Schema) (name : String) : Option Kind :=
  (schema.defaults.get? name).map Value.kind

def names (schema : Schema) : List String := schema.defaults.keys

def size (schema : Schema) : Nat := schema.defaults.size

/-- Raw texts by property name: of several attributes for one property the last counts. -/
def normalized (attributes : RawAttributes) : OrderedMap String :=
  OrderedMap.ofList (attributes.entries.map fun entry => (propertyName entry.1, entry.2))

/-- The values of the properties in order, up to the first error. -/
def parseEntries (raw : OrderedMap String) :
    List (String × Value) → Except TypeError (List (String × Value))
  | [] => .ok []
  | (name, default) :: rest => do
    let value ← Property.parse name default (raw.get? name)
    let values ← parseEntries raw rest
    return (name, value) :: values

/-- Types the attributes of a tag; those that are no property are ignored. -/
def parse (schema : Schema) (attributes : RawAttributes) : Except TypeError Values :=
  (parseEntries (normalized attributes) schema.defaults.entries).map OrderedMap.ofList

end Schema

end Property

end HtmlComponents
