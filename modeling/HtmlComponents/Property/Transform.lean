import HtmlComponents.Property.Schema

/-!
# Attribute rules

Typing of attributes by rules instead of a schema: each rule reads one attribute, by its name as
written, into one property.
-/

namespace HtmlComponents.Property

/-- Reads an attribute into a property. -/
structure Rule where
  attributeName : String
  property : String
  default : Value

/-- The values that rules give, one after another, up to the first error. -/
def applyRules (attributes : RawAttributes) (values : Values) : List Rule → Except TypeError Values
  | [] => .ok values
  | rule :: rest => do
    let value ← parse rule.property rule.default (attributes.get? rule.attributeName)
    applyRules attributes (values.insert rule.property value) rest

/-- Rules as a function from attributes to values. -/
def transform (rules : List Rule) (attributes : RawAttributes) : Except TypeError Values :=
  applyRules attributes OrderedMap.empty rules

end HtmlComponents.Property
