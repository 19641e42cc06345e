import HtmlComponents.Component.Registry
import HtmlComponents.Proofs.Except

/-!
# What rendering leaves of a registry

Compiling and rendering change what is remembered of components and not which components there are: the
registry stays the same in the sense of `Registry.Same`, and what a tag renders hangs on the definition
of its component alone (`run_renderTag`).
-/

namespace HtmlComponents.Component

namespace Registry

variable {registry : Registry} {name : String}

theorem mem_names_of_get? {entry : Entry} (h : registry.entries.get? name = some entry) :
    entry.definition.name ∈ registry.names := by
  rw [(registry.named name entry h).1]
  exact OrderedMap.mem_keys_of_get? h

theorem names_setEntry {entry : Entry} (valid : isComponentName entry.definition.name = true)
    (h : entry.definition.name ∈ registry.names) :
    (registry.setEntry entry valid).names = registry.names := by
  show (registry.entries.insert entry.definition.name entry).keys = registry.entries.keys
  rw [OrderedMap.keys_insert]
  exact if_pos h

theorem register_eq_ok {changed : Registry} {definition : Definition}
    (h : registry.register definition = .ok changed) :
    ∃ valid : isComponentName definition.name = true,
      changed = registry.setEntry (.ofDefinition definition) valid := by
  unfold register at h
  split at h
  · rename_i valid
    cases h
    exact ⟨valid, rfl⟩
  · cases h

@[simp] theorem names_compile (registry : Registry) (name : String) :
    (registry.compile name).2.names = registry.names := by
  unfold compile
  split
  · rfl
  · rename_i entry h
    have hmem := mem_names_of_get? h
    rw [← entry.definition_compile] at hmem
    exact names_setEntry (by simpa using isComponentName_of_get? h) hmem

@[simp] theorem names_countRendering (registry : Registry) (name : String) (calls : Nat) :
    (registry.countRendering name calls).names = registry.names := by
  unfold countRendering
  split
  · rfl
  · rename_i entry h
    have hmem := mem_names_of_get? h
    rw [← entry.definition_countRendering calls] at hmem
    exact names_setEntry (by simpa using isComponentName_of_get? h) hmem

@[simp] theorem options_compile (registry : Registry) (name : String) :
    (registry.compile name).2.options = registry.options := by
  unfold compile
  split <;> rfl

@[simp] theorem options_countRendering (registry : Registry) (name : String) (calls : Nat) :
    (registry.countRendering name calls).options = registry.options := by
  unfold countRendering
  split <;> rfl

theorem mem_names_of_definition? {definition : Definition}
    (h : registry.definition? name = some definition) : name ∈ registry.names := by
  rw [definition?] at h
  obtain ⟨entry, hentry, -⟩ := Option.map_eq_some_iff.mp h
  exact OrderedMap.mem_keys_of_get? hentry

theorem contains_iff_mem_names : registry.contains name = true ↔ name ∈ registry.names :=
  OrderedMap.contains_iff_mem_keys

theorem contains_eq_isSome (registry : Registry) (name : String) :
    registry.contains name = (registry.definition? name).isSome := by
  rw [definition?, Option.isSome_map, Bool.eq_iff_iff, contains_iff_mem_names]
  cases hentry : registry.entries.get? name with
  | none =>
    exact ⟨fun h => absurd h (OrderedMap.get?_eq_none_iff.mp hentry), fun h => absurd h Bool.false_ne_true⟩
  | some entry => exact ⟨fun _ => rfl, fun _ => OrderedMap.mem_keys_of_get? hentry⟩

theorem length_names (registry : Registry) : registry.names.length = registry.size := by
  simp [names, OrderedMap.keys, size, OrderedMap.size]

/-- Registries with the same components and options. -/
structure Same (a b : Registry) : Prop where
  names : a.names = b.names
  definition? : ∀ name, a.definition? name = b.definition? name
  options : a.options = b.options

namespace Same

variable {a b c : Registry}

theorem refl (a : Registry) : a.Same a := ⟨rfl, fun _ => rfl, rfl⟩

theorem symm (h : a.Same b) : b.Same a :=
  ⟨h.names.symm, fun name => (h.definition? name).symm, h.options.symm⟩

theorem trans (h : a.Same b) (h' : b.Same c) : a.Same c :=
  ⟨h.names.trans h'.names, fun name => (h.definition? name).trans (h'.definition? name),
    h.options.trans h'.options⟩

theorem contains (h : a.Same b) : a.contains = b.contains := by
  funext name
  rw [Bool.eq_iff_iff, contains_iff_mem_names, contains_iff_mem_names, h.names]

end Same

theorem same_compile (registry : Registry) (name : String) :
    registry.Same (registry.compile name).2 :=
  ⟨(registry.names_compile name).symm, fun other => (registry.definition?_compile name other).symm,
    (registry.options_compile name).symm⟩

theorem same_countRendering (registry : Registry) (name : String) (calls : Nat) :
    registry.Same (registry.countRendering name calls) :=
  ⟨(registry.names_countRendering name calls).symm,
    fun other => (registry.definition?_countRendering name calls other).symm,
    (registry.options_countRendering name calls).symm⟩

end Registry

namespace Definition

variable {definition : Definition} {sheet : Style.Sheet} {router : Route.Router Handler} {e : Error}

theorem derive_of_error (h : definition.prepare = .error e) : definition.derive = (.error e, 0) := by
  rw [derive, h]

theorem derive_of_ok (h : definition.prepare = .ok (sheet, router)) :
    definition.derive =
      ((definition.schema router.api sheet.classes).1.map fun schema => ⟨sheet.css, sheet.classes, router, schema⟩,
        (definition.schema router.api sheet.classes).2) := by
  rw [derive, h]

theorem exists_of_compile_eq_ok {compiled : Compiled} (h : definition.compile = .ok compiled) :
    ∃ sheet router schema, definition.prepare = .ok (sheet, router) ∧
      (definition.schema router.api sheet.classes).1 = .ok schema ∧
      compiled = ⟨sheet.css, sheet.classes, router, schema⟩ := by
  rw [compile] at h
  cases hprepare : definition.prepare with
  | error e =>
    rw [derive_of_error hprepare] at h
    cases h
  | ok prepared =>
    rw [derive_of_ok hprepare] at h
    obtain ⟨schema, hschema, rfl⟩ := exists_of_map_eq_ok h
    exact ⟨_, _, schema, rfl, hschema, rfl⟩

theorem cases_of_compile_eq_error (h : definition.compile = .error e) :
    definition.prepare = .error e ∨ ∃ sheet router, definition.prepare = .ok (sheet, router) ∧
      (definition.schema router.api sheet.classes).1 = .error e := by
  rw [compile] at h
  cases hprepare : definition.prepare with
  | error e =>
    rw [derive_of_error hprepare] at h
    cases h
    exact .inl rfl
  | ok prepared =>
    rw [derive_of_ok hprepare] at h
    exact .inr ⟨_, _, rfl, error_of_map_eq_error h⟩

end Definition

/-- What a definition renders for the attributes of one tag. -/
def Definition.renderTag (definition : Definition) (name : String) (attributes : RawAttributes) :
    Except Error (Markup × String) :=
  match definition.compile with
  | .error e => .error e
  | .ok compiled =>
    match definition.props compiled.schema attributes with
    | .error e => .error e
    | .ok props =>
      match (definition.rendering compiled.api compiled.classes).run props with
      | .error failure => .error (.ofFailure name failure)
      | .ok markup => .ok (markup, compiled.css)

section
variable {definition : Definition} {name : String} {attributes : RawAttributes}

/-- What renders has compiled, its attributes have been read, and its render function has given markup. -/
theorem Definition.exists_of_renderTag_eq_ok {markup : Markup} {css : String}
    (h : definition.renderTag name attributes = .ok (markup, css)) :
    ∃ compiled props, definition.compile = .ok compiled ∧
      definition.props compiled.schema attributes = .ok props ∧
      (definition.rendering compiled.api compiled.classes).run props = .ok markup ∧ css = compiled.css := by
  unfold renderTag at h
  split at h
  · cases h
  · rename_i compiled hcompile
    split at h
    · cases h
    · rename_i props hprops
      split at h
      · cases h
      · rename_i hrun
        cases h
        exact ⟨compiled, props, hcompile, hprops, hrun, rfl⟩

/-- What fails has not compiled, or its attributes do not fit, or its render function has failed. -/
theorem Definition.cases_of_renderTag_eq_error {e : Error}
    (h : definition.renderTag name attributes = .error e) :
    definition.compile = .error e ∨
      (∃ compiled, definition.compile = .ok compiled ∧
        definition.props compiled.schema attributes = .error e) ∨
      ∃ compiled props failure, definition.compile = .ok compiled ∧
        definition.props compiled.schema attributes = .ok props ∧
        (definition.rendering compiled.api compiled.classes).run props = .error failure ∧
        e = .ofFailure name failure := by
  unfold renderTag at h
  split at h
  · rename_i hcompile
    cases h
    exact .inl hcompile
  · rename_i compiled hcompile
    split at h
    · rename_i hprops
      cases h
      exact .inr (.inl ⟨compiled, hcompile, hprops⟩)
    · rename_i props hprops
      split at h
      · rename_i failure hrun
        cases h
        exact .inr (.inr ⟨compiled, props, failure, hcompile, hprops, hrun, rfl⟩)
      · cases h

end

namespace Session

variable {α β : Type}

theorem run_bind (m : Session α) (f : α → Session β) (registry : Registry) :
    (m >>= f).run registry = (f (m.run registry).1).run (m.run registry).2 := rfl

theorem run_pure (a : α) (registry : Registry) :
    (pure a : Session α).run registry = (a, registry) := rfl

theorem run_get (registry : Registry) :
    (get : Session Registry).run registry = (registry, registry) := rfl

theorem run_modify (f : Registry → Registry) (registry : Registry) :
    (modify f : Session Unit).run registry = ((), f registry) := rfl

theorem run_compile (name : String) (registry : Registry) :
    (compile name).run registry = registry.compile name := rfl

/-- Rendering hangs on the definition alone and leaves the components as they are. -/
theorem run_renderTag (name : String) (attributes : RawAttributes) (registry : Registry) :
    ((renderTag name attributes).run registry).1 =
        (match registry.definition? name with
        | none => .error (.unknownComponent name)
        | some definition => definition.renderTag name attributes) ∧
      registry.Same ((renderTag name attributes).run registry).2 := by
  have hsame := registry.same_compile name
  have hresult := registry.fst_compile name
  rw [renderTag, run_bind, run_compile]
  rcases hcompile : registry.compile name with ⟨result, compiled⟩
  rw [hcompile] at hsame hresult
  dsimp only at hsame hresult
  subst hresult
  cases hdefinition : registry.definition? name with
  | none => exact ⟨rfl, hsame⟩
  | some definition =>
    dsimp only [Definition.renderTag]
    cases definition.compile with
    | error e => exact ⟨rfl, hsame⟩
    | ok derived =>
      simp only [run_bind, run_get, ← hsame.definition? name, hdefinition]
      cases definition.props derived.schema attributes with
      | error e => exact ⟨rfl, hsame⟩
      | ok props =>
        have hcounted (calls : Nat) := hsame.trans (compiled.same_countRendering name calls)
        dsimp only [Definition.call]
        rw [run_bind, run_modify]
        dsimp only
        cases (definition.rendering derived.api derived.classes).run props with
        | error failure => exact ⟨rfl, hcounted _⟩
        | ok markup => exact ⟨rfl, hcounted _⟩

theorem names_renderTag (name : String) (attributes : RawAttributes) (registry : Registry) :
    ((renderTag name attributes).run registry).2.names = registry.names :=
  (run_renderTag name attributes registry).2.names.symm

theorem mem_names_of_renderTag {name : String} {attributes : RawAttributes} {registry : Registry}
    {rendered : Markup × String}
    (h : ((renderTag name attributes).run registry).1 = .ok rendered) : name ∈ registry.names := by
  rw [(run_renderTag name attributes registry).1] at h
  split at h
  · cases h
  · rename_i definition hdefinition
    exact Registry.mem_names_of_definition? hdefinition

end Session

end HtmlComponents.Component
