import HtmlComponents.Property.Schema

/-!
# Computations that read properties

A render function asks for properties one after another, and later questions may depend on earlier
answers. It runs in two ways: answered from the attributes of a tag, or answered with the defaults
while the questions are recorded as a schema.
-/

namespace HtmlComponents.Component

open Property (Schema Value Values)

/-- A computation that may ask for properties before it gives a result. -/
inductive Reading (α : Type) where
  | done (result : α)
  /-- Asks for a typed property, with the default that also gives its kind. -/
  | read (name : String) (default : Value) (next : Value → Reading α)
  /-- Asks for a typed value as it was parsed, if it was. -/
  | find (name : String) (next : Option Value → Reading α)
  /-- Asks whether the questions are being recorded. -/
  | isRecording (next : Bool → Reading α)

/-- What a computation reads from: typed values, and raw texts by property name for the properties
that have none. -/
structure Props where
  values : Values
  raw : OrderedMap String

namespace Props

def ofValues (values : Values) : Props := ⟨values, OrderedMap.empty⟩

/-- Of several attributes for one property the first counts. -/
def withAttributes (values : Values) (attributes : RawAttributes) : Props :=
  ⟨values, OrderedMap.ofListFirst
    (attributes.entries.map fun entry => (propertyName entry.1, entry.2))⟩

/-- The value of a property without a typed value. Text that does not fit counts as absent. -/
def readRaw (name : String) (default : Value) (raw : Option String) : Value :=
  match Property.parse name default raw with
  | .ok value => value
  | .error _ => default

/-- The answer to a typed question. A value of another kind is passed over. -/
def read (props : Props) (name : String) (default : Value) : Value :=
  match props.values.get? name with
  | some value => if value.kind = default.kind then value else default
  | none => readRaw name default (props.raw.get? name)

end Props

namespace Reading

variable {α β : Type}

def bind (reading : Reading α) (f : α → Reading β) : Reading β :=
  match reading with
  | done result => f result
  | read name default next => read name default fun value => (next value).bind f
  | find name next => find name fun value => (next value).bind f
  | isRecording next => isRecording fun answer => (next answer).bind f

instance : Monad Reading where
  pure := done
  bind := bind

/-- The result with answers from given properties. -/
def run (props : Props) : Reading α → α
  | done result => result
  | read name default next => (next (props.read name default)).run props
  | find name next => (next (props.values.get? name)).run props
  | isRecording next => (next false).run props

/-- The result with defaults as answers, and the schema of the questions; the first question for a
property counts. -/
def record (schema : Schema) : Reading α → α × Schema
  | done result => (result, schema)
  | read name default next => (next default).record (schema.insert name default)
  | find _ next => (next none).record schema
  | isRecording next => (next true).record schema

end Reading

end HtmlComponents.Component
