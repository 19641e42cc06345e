import HtmlComponents.Component.Definition

/-!
# Registries

Components by name. A definition is compiled when it is first needed, and what was derived is kept
until the definition is replaced; a failure is not kept. The calls of render functions are counted.
`fst_compile`: what is kept is never seen in a result.
-/

namespace HtmlComponents.Component

open Property (Schema)

/-- How tags are expanded. -/
structure Options where
  /-- How many components may be rendered inside one another below the outermost one. -/
  maxDepth : Nat
  /-- Put a comment in the place of a tag that is not expanded; otherwise the tag is left. -/
  markers : Bool
deriving DecidableEq

def Options.standard : Options := ⟨32, true⟩

/-- A registered component. -/
structure Entry where
  definition : Definition
  /-- What is derived from the definition, once that has been done. -/
  compiled : Option { compiled : Compiled // definition.compile = .ok compiled }
  /-- Calls of the render function to infer the schema. -/
  inferences : Nat
  /-- Calls of the render function to render. -/
  renderings : Nat

namespace Entry

def ofDefinition (definition : Definition) : Entry := ⟨definition, none, 0, 0⟩

/-- All calls of the render function. -/
def calls (entry : Entry) : Nat := entry.inferences + entry.renderings

/-- What is derived from the definition, and the entry that remembers it. -/
def compile (entry : Entry) : Except Error Compiled × Entry :=
  match entry.compiled with
  | some known => (.ok known.val, entry)
  | none =>
    match h : entry.definition.derive with
    | (.ok compiled, calls) =>
      (.ok compiled,
        { entry with
          compiled := some ⟨compiled, congrArg Prod.fst h⟩
          inferences := entry.inferences + calls })
    | (.error e, calls) => (.error e, { entry with inferences := entry.inferences + calls })

/-- The entry after rendering, with the calls that were made. -/
def countRendering (entry : Entry) (calls : Nat) : Entry :=
  { entry with renderings := entry.renderings + calls }

/-- What is remembered is never seen in a result. -/
@[simp] theorem fst_compile (entry : Entry) : entry.compile.1 = entry.definition.compile := by
  unfold compile
  split
  · rename_i known _
    exact known.property.symm
  · split <;> rename_i h <;> exact (congrArg Prod.fst h).symm

@[simp] theorem definition_compile (entry : Entry) :
    entry.compile.2.definition = entry.definition := by
  unfold compile
  split
  · rfl
  · split <;> rfl

@[simp] theorem definition_countRendering (entry : Entry) (calls : Nat) :
    (entry.countRendering calls).definition = entry.definition := rfl

end Entry

/-- Registered components in the order of their first registration. -/
structure Registry where
  entries : OrderedMap Entry
  options : Options
  /-- Every component stands under its own name, which is a component name. -/
  named : ∀ name entry, entries.get? name = some entry →
    entry.definition.name = name ∧ isComponentName name = true

namespace Registry

def empty (options : Options) : Registry := ⟨OrderedMap.empty, options, by simp⟩

def names (registry : Registry) : List String := registry.entries.keys

def size (registry : Registry) : Nat := registry.entries.size

def contains (registry : Registry) (name : String) : Bool := registry.entries.contains name

def definition? (registry : Registry) (name : String) : Option Definition :=
  (registry.entries.get? name).map Entry.definition

/-- How often the render function of the current definition was called. -/
def calls? (registry : Registry) (name : String) : Option Nat :=
  (registry.entries.get? name).map Entry.calls

/-- Puts in an entry under the name of its component. -/
def setEntry (registry : Registry) (entry : Entry)
    (valid : isComponentName entry.definition.name = true) : Registry where
  entries := registry.entries.insert entry.definition.name entry
  options := registry.options
  named := fun name found h => by
    rw [OrderedMap.get?_insert] at h
    split at h
    · rename_i hname
      cases h
      exact ⟨hname.symm, hname ▸ valid⟩
    · exact registry.named name found h

theorem isComponentName_of_get? {registry : Registry} {name : String} {entry : Entry}
    (h : registry.entries.get? name = some entry) :
    isComponentName entry.definition.name = true := by
  obtain ⟨rfl, hvalid⟩ := registry.named name entry h
  exact hvalid

theorem definition?_setEntry (registry : Registry) (entry : Entry)
    (valid : isComponentName entry.definition.name = true) (name : String) :
    (registry.setEntry entry valid).definition? name =
      if name = entry.definition.name then some entry.definition
      else registry.definition? name := by
  simp only [definition?, setEntry, OrderedMap.get?_insert]
  split <;> rfl

/-- Registers a component, in the place of one of the same name if there is one. -/
def register (registry : Registry) (definition : Definition) : Except InvalidName Registry :=
  if h : isComponentName definition.name = true then
    .ok (registry.setEntry (.ofDefinition definition) h)
  else .error ⟨definition.name⟩

/-- Compiles a component and remembers what is derived. -/
def compile (registry : Registry) (name : String) : Except Error Compiled × Registry :=
  match h : registry.entries.get? name with
  | none => (.error (.unknownComponent name), registry)
  | some entry =>
    (entry.compile.1, registry.setEntry entry.compile.2 (by simpa using isComponentName_of_get? h))

/-- Counts calls of a render function. -/
def countRendering (registry : Registry) (name : String) (calls : Nat) : Registry :=
  match h : registry.entries.get? name with
  | none => registry
  | some entry =>
    registry.setEntry (entry.countRendering calls) (by simpa using isComponentName_of_get? h)

theorem fst_compile (registry : Registry) (name : String) :
    (registry.compile name).1 =
      match registry.definition? name with
      | some definition => definition.compile
      | none => .error (.unknownComponent name) := by
  unfold compile definition?
  split <;> rename_i h <;> simp [h]

@[simp] theorem definition?_compile (registry : Registry) (name other : String) :
    (registry.compile name).2.definition? other = registry.definition? other := by
  unfold compile
  split <;> rename_i h
  · rfl
  · rw [definition?_setEntry, Entry.definition_compile, (registry.named name _ h).1]
    split <;> rename_i ho
    · simp [ho, definition?, h]
    · rfl

@[simp] theorem definition?_countRendering (registry : Registry) (name : String) (calls : Nat)
    (other : String) :
    (registry.countRendering name calls).definition? other = registry.definition? other := by
  unfold countRendering
  split <;> rename_i h
  · rfl
  · rw [definition?_setEntry, Entry.definition_countRendering, (registry.named name _ h).1]
    split <;> rename_i ho
    · simp [ho, definition?, h]
    · rfl

end Registry

/-- An activity that may compile components and call their render functions. -/
abbrev Session := StateM Registry

namespace Session

/-- What is derived from the definition of a component. -/
def compile (name : String) : Session (Except Error Compiled) := fun registry =>
  registry.compile name

/-- Compiles components up to the first error. -/
def compileEach : List String → Session (Except Error (List Compiled))
  | [] => pure (.ok [])
  | name :: rest => do
    match ← compile name with
    | .error e => return .error e
    | .ok compiled =>
      match ← compileEach rest with
      | .error e => return .error e
      | .ok others => return .ok (compiled :: others)

/-- Compiles all components, up to the first error. -/
def compileAll : Session (Except Error (List Compiled)) := do
  compileEach (← get).names

def schema (name : String) : Session (Except Error Schema) := do
  return (← compile name).map Compiled.schema

/-- One router over the actions of all components, in the order of registration. -/
def router : Session (Except Error (Route.Router Handler)) := do
  return (← compileAll).map fun all => ⟨all.flatMap fun compiled => compiled.router.routes⟩

/-- Renders a component for the attributes of one tag. Gives its markup and its css. -/
def renderTag (name : String) (attributes : RawAttributes) :
    Session (Except Error (Markup × String)) := do
  match ← compile name with
  | .error e => return .error e
  | .ok compiled =>
    match (← get).definition? name with
    | none => return .error (.unknownComponent name)
    | some definition =>
      match definition.props compiled.schema attributes with
      | .error e => return .error e
      | .ok props =>
        let (result, calls) := definition.call compiled.api compiled.classes (·.run props)
        modify fun registry => registry.countRendering name calls
        match result with
        | .error failure => return .error (.ofFailure name failure)
        | .ok markup => return .ok (markup, compiled.css)

end Session

end HtmlComponents.Component
