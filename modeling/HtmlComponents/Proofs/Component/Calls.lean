import HtmlComponents.Proofs.Component.Dispatch
import HtmlComponents.Proofs.Component.Inference
import HtmlComponents.Proofs.Component.Trace
import Mathlib.Algebra.GroupWithZero.Nat

/-!
# How often render functions are called

Requests touch the entries of a registry: they compile components, and they count calls of render functions.
Which touches a request comes to is told by the definitions of the components alone (`Session.does_perform`), so
the calls of a render function are counted off the uses of its component (`render_calls`).
-/

namespace HtmlComponents.Component

open Document (Piece)
open Route (Method)

/-- What may be done to the entry of a component. -/
inductive Touch where
  | compile (name : String)
  /-- Counts calls of the render function in rendering. -/
  | render (name : String) (calls : Nat)
deriving DecidableEq

/-- The calls in rendering a component that a touch counts. -/
def Touch.renderings (name : String) : Touch → Nat
  | .compile _ => 0
  | .render other calls => if other = name then calls else 0

/-- Nothing has been derived from the definition yet. -/
def Entry.isFresh (entry : Entry) : Bool := entry.compiled.isNone

def Entry.touch (name : String) (entry : Entry) : Touch → Entry
  | .compile other => if other = name then entry.compile.2 else entry
  | .render other calls => if other = name then entry.countRendering calls else entry

namespace Registry

def touch (registry : Registry) : Touch → Registry
  | .compile name => (registry.compile name).2
  | .render name calls => registry.countRendering name calls

def touchAll (registry : Registry) (touches : List Touch) : Registry := touches.foldl touch registry

theorem touchAll_append (registry : Registry) (touches others : List Touch) :
    registry.touchAll (touches ++ others) = (registry.touchAll touches).touchAll others := List.foldl_append

/-- Changes the entry of a component, and not its definition. -/
def update (registry : Registry) (name : String) (f : Entry → Entry)
    (hf : ∀ entry, (f entry).definition = entry.definition) : Registry :=
  match h : registry.entries.get? name with
  | none => registry
  | some entry => registry.setEntry (f entry) (by rw [hf]; exact isComponentName_of_get? h)

section
variable {registry : Registry} {name : String} {f : Entry → Entry}
  (hf : ∀ entry, (f entry).definition = entry.definition)

theorem update_of_none (h : registry.entries.get? name = none) : registry.update name f hf = registry := by
  unfold update
  split
  · rfl
  · rename_i hsome
    cases h.symm.trans hsome

theorem update_of_some {entry : Entry} (h : registry.entries.get? name = some entry) :
    registry.update name f hf = registry.setEntry (f entry) (by rw [hf]; exact isComponentName_of_get? h) := by
  unfold update
  split
  · rename_i hnone
    cases h.symm.trans hnone
  · rename_i hsome
    cases h.symm.trans hsome
    rfl

theorem get?_update (registry : Registry) (name other : String) :
    (registry.update other f hf).entries.get? name =
      (registry.entries.get? name).map fun entry => if other = name then f entry else entry := by
  cases h : registry.entries.get? other with
  | none =>
    rw [update_of_none hf h]
    by_cases hname : other = name
    · rw [← hname, h, Option.map_none]
    · simp only [if_neg hname, Option.map_id_fun', id]
  | some entry =>
    rw [update_of_some hf h, setEntry, OrderedMap.get?_insert, hf, (registry.named other entry h).1]
    by_cases hname : other = name
    · rw [← hname, if_pos rfl, h, Option.map_some, if_pos rfl]
    · simp only [if_neg hname, if_neg (Ne.symm hname), Option.map_id_fun', id]

end

theorem snd_compile (registry : Registry) (name : String) :
    (registry.compile name).2 = registry.update name (fun entry => entry.compile.2) Entry.definition_compile := by
  unfold compile
  split
  · rename_i h
    exact (update_of_none _ h).symm
  · rename_i h
    rw [update_of_some _ h]

theorem countRendering_eq (registry : Registry) (name : String) (calls : Nat) :
    registry.countRendering name calls =
      registry.update name (·.countRendering calls) (·.definition_countRendering calls) := rfl

theorem get?_touch (registry : Registry) (name : String) (touch : Touch) :
    (registry.touch touch).entries.get? name = (registry.entries.get? name).map (Entry.touch name · touch) := by
  cases touch with
  | compile other =>
    rw [Registry.touch, snd_compile, get?_update]
    rfl
  | render other calls =>
    rw [Registry.touch, countRendering_eq, get?_update]
    rfl

theorem get?_touchAll (registry : Registry) (name : String) (touches : List Touch) :
    (registry.touchAll touches).entries.get? name =
      (registry.entries.get? name).map (touches.foldl (Entry.touch name)) := by
  induction touches generalizing registry with
  | nil => exact Option.map_id'.symm
  | cons touch rest ih =>
    rw [touchAll, List.foldl_cons, ← touchAll, ih, get?_touch, Option.map_map]
    rfl

end Registry

/-! ### What is counted of touches -/

namespace Entry

variable {name : String} {entry : Entry}

theorem definition_touch (name : String) (entry : Entry) (touch : Touch) :
    (entry.touch name touch).definition = entry.definition := by
  cases touch <;> simp only [Entry.touch] <;> split <;> simp

theorem definition_foldl_touch (name : String) (entry : Entry) (touches : List Touch) :
    (touches.foldl (Entry.touch name) entry).definition = entry.definition := by
  induction touches generalizing entry with
  | nil => rfl
  | cons touch rest ih => rw [List.foldl_cons, ih, definition_touch]

theorem renderings_compile (entry : Entry) : entry.compile.2.renderings = entry.renderings := by
  unfold compile
  split
  · rfl
  · split <;> rfl

/-- Compiling makes the calls that deriving takes, unless what is derived is remembered. -/
theorem inferences_compile (entry : Entry) :
    entry.compile.2.inferences = entry.inferences + if entry.isFresh then entry.definition.derive.2 else 0 := by
  unfold compile
  split
  · rename_i h
    simp [isFresh, h]
  · rename_i h
    split <;> rename_i hderive <;> simp [isFresh, h, hderive]

theorem isFresh_compile {compiled : Compiled} (h : entry.definition.compile = .ok compiled) :
    entry.compile.2.isFresh = false := by
  unfold isFresh compile
  split
  · rename_i hknown
    simp [hknown]
  · dsimp only
    split
    · rfl
    · rename_i herror
      rw [Definition.compile, herror] at h
      cases h

theorem renderings_foldl_touch (name : String) (entry : Entry) (touches : List Touch) :
    (touches.foldl (Entry.touch name) entry).renderings =
      entry.renderings + (touches.map (Touch.renderings name)).sum := by
  induction touches generalizing entry with
  | nil => rfl
  | cons touch rest ih =>
    rw [List.foldl_cons, ih, List.map_cons, List.sum_cons, ← Nat.add_assoc]
    congr 1
    cases touch with
    | compile other =>
      simp only [Entry.touch, Touch.renderings]
      split <;> simp [renderings_compile]
    | render other calls =>
      simp only [Entry.touch, Touch.renderings]
      split <;> rfl

theorem inferences_foldl_touch_of_derive (h : entry.definition.derive.2 = 0) (name : String)
    (touches : List Touch) : (touches.foldl (Entry.touch name) entry).inferences = entry.inferences := by
  induction touches generalizing entry with
  | nil => rfl
  | cons touch rest ih =>
    rw [List.foldl_cons, ih (by rwa [definition_touch])]
    cases touch <;> simp only [Entry.touch] <;> split
    · simp [inferences_compile, h]
    · rfl
    · rfl
    · rfl

/-- What compiles is derived when it is first compiled, and then no more. -/
theorem inferences_foldl_touch {compiled : Compiled} (h : entry.definition.compile = .ok compiled) (name : String)
    (touches : List Touch) :
    (touches.foldl (Entry.touch name) entry).inferences = entry.inferences +
      if entry.isFresh ∧ .compile name ∈ touches then entry.definition.derive.2 else 0 := by
  induction touches generalizing entry with
  | nil => simp
  | cons touch rest ih =>
    rw [List.foldl_cons, ih (by rwa [definition_touch]), definition_touch]
    cases touch with
    | compile other =>
      simp only [Entry.touch]
      by_cases hname : other = name
      · -- whatever has been before, nothing is inferred after this
        simp [hname, inferences_compile, isFresh_compile h]
      · simp [hname, Ne.symm hname]
    | render other calls =>
      simp only [Entry.touch]
      split <;> simp [countRendering, isFresh]

variable {definition : Definition}

theorem renderings_ofDefinition (definition : Definition) (name : String) (touches : List Touch) :
    (touches.foldl (Entry.touch name) (.ofDefinition definition)).renderings =
      (touches.map (Touch.renderings name)).sum :=
  (renderings_foldl_touch name (.ofDefinition definition) touches).trans (Nat.zero_add _)

theorem inferences_ofDefinition {compiled : Compiled} (h : definition.compile = .ok compiled) (name : String)
    (touches : List Touch) :
    (touches.foldl (Entry.touch name) (.ofDefinition definition)).inferences =
      if .compile name ∈ touches then definition.derive.2 else 0 := by
  refine ((inferences_foldl_touch h name touches).trans (Nat.zero_add _)).trans (if_congr ?_ rfl rfl)
  exact and_iff_right rfl

end Entry

/-! ### The touches of activities -/

/-- The component compiles, and its properties are read from the attributes. -/
def Definition.parses (definition : Definition) (attributes : RawAttributes) : Bool :=
  match definition.compile with
  | .ok compiled => (definition.props compiled.schema attributes).isOk
  | .error _ => false

/-- The touches of rendering a component for given attributes. -/
def Library.touches (library : Library) (name : String) (attributes : RawAttributes) : List Touch :=
  .compile name ::
    match library name with
    | none => []
    | some definition =>
      bif definition.parses attributes then [.render name (if definition.render.isSome then 1 else 0)] else []

/-- The touches of a use. A guard comes before all of them. -/
def Use.touches (library : Library) (use : Use) : List Touch :=
  bif use.warning?.isSome then [] else library.touches use.name use.attributes

/-- The elements of a list up to the first one of a kind, with that one. -/
def throughFirst {α : Type} (p : α → Bool) : List α → List α
  | [] => []
  | a :: rest => a :: if p a then [] else throughFirst p rest

namespace Session

variable {α β : Type} {registry : Registry} {touches others : List Touch} {m : Session α}

/-- In every registry with the components of `registry`, an activity does these touches and nothing else. -/
def Does (m : Session α) (registry : Registry) (touches : List Touch) : Prop :=
  ∀ other : Registry, registry.Same other → (m.run other).2 = other.touchAll touches

theorem does_pure (a : α) (registry : Registry) : (pure a : Session α).Does registry [] := fun _ _ => rfl

theorem Does.bind {f : α → Session β} (hm : Stable m) (h : m.Does registry touches)
    (h' : (f (m.run registry).1).Does registry others) : (m >>= f).Does registry (touches ++ others) := by
  intro other hsame
  rw [run_bind, ← hm.result _ _ hsame, h' _ (hsame.trans (hm.keeps other)), h other hsame,
    Registry.touchAll_append]

theorem Does.bind_pure {f : α → Session β} (h : m.Does registry touches) (hf : ∀ a, ∃ b, f a = pure b) :
    (m >>= f).Does registry touches := by
  intro other hsame
  obtain ⟨b, hb⟩ := hf (m.run other).1
  rw [run_bind, hb]
  exact h other hsame

theorem does_compile (name : String) (registry : Registry) : (compile name).Does registry [.compile name] :=
  fun _ _ => rfl

theorem does_renderTag (name : String) (attributes : RawAttributes) (registry : Registry) :
    (renderTag name attributes).Does registry (Library.touches registry.definition? name attributes) := by
  intro other hsame
  have hcompile : (other.compile name).1 = _ := other.fst_compile name
  rw [renderTag, run_bind, run_compile, hcompile, Library.touches, hsame.definition? name]
  cases hdefinition : other.definition? name with
  | none => rfl
  | some definition =>
    dsimp only
    rw [Definition.parses]
    cases definition.compile with
    | error e => rfl
    | ok compiled =>
      dsimp only
      -- compiling has left the definition where it was
      rw [run_bind, run_get, Registry.definition?_compile, hdefinition]
      dsimp only
      cases definition.props compiled.schema attributes with
      | error e => rfl
      | ok props =>
        dsimp only
        dsimp only [Definition.call]
        rw [run_bind, run_modify]
        dsimp only
        cases (definition.rendering compiled.api compiled.classes).run props <;> rfl

/-- A list of uses is done when the touches of all of them are. -/
def DoesUses (m : Session α) (registry : Registry) (uses : List Use) : Prop :=
  m.Does registry (uses.flatMap (Use.touches registry.definition?))

variable {options : Options}

theorem does_expandPieces {use : StartTag → List Char → Session Outcome} {uses : StartTag → List Use}
    (hstable : ∀ tag source, Stable (use tag source))
    (huse : ∀ tag source, (use tag source).DoesUses registry (uses tag)) (ps : List Piece) :
    (expandPieces use ps).DoesUses registry (ps.flatMap (Library.usesOf uses)) := by
  induction ps with
  | nil => exact does_pure _ registry
  | cons piece rest ih =>
    cases piece with
    | literal s => exact Does.bind_pure ih fun _ => ⟨_, rfl⟩
    | element tag source =>
      rw [DoesUses, List.flatMap_cons, List.flatMap_append]
      exact Does.bind (hstable tag source) (huse tag source) (Does.bind_pure ih fun _ => ⟨_, rfl⟩)

theorem does_renderTag_bind {f : Except Error (Markup × String) → Session α} (name : String)
    (attributes : RawAttributes) {uses : Markup → List Use} (herror : ∀ e, (f (.error e)).DoesUses registry [])
    (hok : ∀ markup css, (f (.ok (markup, css))).DoesUses registry (uses markup)) :
    (renderTag name attributes >>= f).DoesUses registry
      (match Library.renderTag registry.definition? name attributes with
      | .error e => [⟨name, attributes, .dropped e⟩]
      | .ok (markup, css) => ⟨name, attributes, .rendered markup css⟩ :: uses markup) := by
  have hfirst := fst_renderTag name attributes registry
  have hbind : ∀ others, (f ((renderTag name attributes).run registry).1).Does registry others → _ := fun others =>
    Does.bind (stable_renderTag name attributes) (does_renderTag name attributes registry)
  rw [hfirst] at hbind
  cases hresult : Library.renderTag registry.definition? name attributes with
  | error e => exact hbind [] (hresult ▸ herror e)
  | ok rendered => exact hbind _ (hresult ▸ hok rendered.1 rendered.2)

theorem does_expandUse {scope : Scope} (name : String) (attributes : RawAttributes) (source : List Char)
    {inner : (name : String) → name ∈ scope.idle → List Char → Session Outcome}
    {uses : (name : String) → name ∈ scope.idle → List Char → List Use}
    (hinner : ∀ name h html, (inner name h html).DoesUses registry (uses name h html)) :
    (expandUse options scope name attributes source inner).DoesUses registry
      (Library.usesFrom registry.definition? options scope name attributes uses) := by
  unfold expandUse Library.usesFrom
  split
  · rename_i hidle
    split
    · exact does_pure _ registry
    · exact does_renderTag_bind name attributes (fun e => does_pure _ registry) fun markup css =>
        Does.bind_pure (hinner name hidle markup.chars) fun _ => ⟨_, rfl⟩
  · exact does_pure _ registry

/-- Expansion touches what the uses of components that it comes to touch. -/
theorem does_expand (options : Options) (scope : Scope) (registry : Registry) (html : List Char) :
    (expand options scope html).DoesUses registry
      (Library.uses registry.definition? options scope html) := by
  rw [expand_eq_expandPieces, Library.uses]
  -- the tags that are found are those of the registered components, whatever is remembered of them
  intro other hsame
  rw [run_bind, run_get]
  simp only [← hsame.contains, registry.contains_eq_isSome]
  refine does_expandPieces (stable_expandEntering options scope) (fun tag source => ?_) _ other hsame
  exact does_expandUse tag.localName tag.rawAttributes source fun name h html =>
    does_expand options (scope.enter name) registry html
termination_by scope.idle.length
decreasing_by exact Scope.length_idle_enter_lt h

theorem Does.get_bind {f : Registry → Session α}
    (h : ∀ other, registry.Same other → (f other).Does registry touches) : (get >>= f).Does registry touches :=
  fun other hsame => h other hsame other hsame

open Machine (Call)

theorem does_expandHtml (options : Options) (html : String) (registry : Registry) :
    (expandHtml options html).DoesUses registry ((Call.expandHtml html).uses options registry) := by
  refine Does.get_bind fun other hsame => Does.bind_pure ?_ fun _ => ⟨_, rfl⟩
  rw [← hsame.outside]
  exact does_expand options (Scope.outside registry) registry html.toList

theorem does_render (options : Options) (name : String) (attributes : RawAttributes) (registry : Registry) :
    (render options name attributes).DoesUses registry ((Call.render name attributes).uses options registry) := by
  refine Does.get_bind fun other hsame => ?_
  rw [← hsame.outside]
  exact does_renderTag_bind name attributes (fun e => does_pure _ registry) fun markup css =>
    Does.bind_pure (does_expand options _ registry markup.chars) fun _ => ⟨_, rfl⟩

theorem does_compileEach (registry : Registry) (names : List String) :
    (compileEach names).Does registry
      ((throughFirst (fun name => (registry.failure? name).isSome) names).map .compile) := by
  induction names with
  | nil => exact does_pure _ registry
  | cons name rest ih =>
    show Does _ registry ([.compile name] ++ List.map _ (if (registry.failure? name).isSome then [] else _))
    refine Does.bind (stable_compile name) (does_compile name registry) ?_
    rw [run_compile, Registry.failure?]
    cases (registry.compile name).1 with
    | error e => exact does_pure _ registry
    | ok compiled => exact Does.bind_pure ih fun others => by cases others <;> exact ⟨_, rfl⟩

theorem does_findRoute (method : Method) (target : String) (registry : Registry) (names : List String) :
    (findRoute method target names).Does registry
      ((throughFirst (fun name => (registry.route? method target name).isSome) names).map .compile) := by
  induction names with
  | nil => exact does_pure _ registry
  | cons name rest ih =>
    show Does _ registry
      ([.compile name] ++ List.map _ (if (registry.route? method target name).isSome then [] else _))
    refine Does.bind (stable_compile name) (does_compile name registry) ?_
    rw [run_compile, Registry.route?, Registry.routesOf]
    cases (registry.compile name).1 with
    | error e => exact ih
    | ok compiled =>
      dsimp only
      cases compiled.router.dispatch method target with
      | none => exact ih
      | some found => exact does_pure _ registry

end Session

open Machine (Call)

namespace Request

/-- The components that a request compiles to look for something in them. -/
def scans (registry : Registry) : Request → List String
  | .compile name | .schema name => [name]
  | .compileAll | .router => throughFirst (fun name => (registry.failure? name).isSome) registry.names
  | .dispatch method target _ =>
    throughFirst (fun name => (registry.route? method target name).isSome) registry.names
  | .register _ | .render .. | .expand .. => []

/-- The uses of components that a request comes to. -/
def uses (registry : Registry) : Request → List Use
  | .render options name attributes => (Call.render name attributes).uses (options.getD registry.options) registry
  | .expand options html => (Call.expandHtml html).uses options registry
  | .dispatch method target form =>
    match registry.names.findSome? (registry.route? method target) with
    | none => []
    | some (_, found) =>
      match found.route.handler
        ⟨method, String.ofList (requestPath target.toList), found.parameters, found.query, form⟩ with
      | .error _ => []
      | .ok markup => (Call.expandHtml markup.toHtml).uses registry.options registry
  | .register _ | .compile _ | .compileAll | .schema _ | .router => []

def touches (registry : Registry) (request : Request) : List Touch :=
  (request.scans registry).map .compile ++ (request.uses registry).flatMap (Use.touches registry.definition?)

end Request

namespace Session

theorem does_dispatch (method : Method) (target : String) (form : OrderedMap String) (registry : Registry) :
    (dispatch method target form).Does registry ((Request.dispatch method target form).touches registry) := by
  refine Does.get_bind fun other hsame => ?_
  rw [← hsame.names]
  refine Does.bind (stable_findRoute method target _) (does_findRoute method target registry _) ?_
  rw [fst_findRoute, Request.uses]
  cases registry.names.findSome? (registry.route? method target) with
  | none => exact does_pure _ registry
  | some found =>
    dsimp only
    cases found.2.route.handler _ with
    | error failure => exact does_pure _ registry
    | ok markup =>
      refine Does.get_bind fun other hsame => ?_
      rw [← hsame.options]
      exact Does.bind_pure (does_expandHtml registry.options markup.toHtml registry) fun _ => ⟨_, rfl⟩

theorem does_compileAll (registry : Registry) : compileAll.Does registry (Request.compileAll.touches registry) := by
  refine Does.get_bind fun other hsame => ?_
  rw [← hsame.names, Request.touches, Request.uses, List.flatMap_nil, List.append_nil]
  exact does_compileEach registry registry.names

theorem does_perform {request : Request} (h : ∀ definition, request ≠ .register definition)
    (registry : Registry) : (perform request).Does registry (request.touches registry) := by
  cases request with
  | register definition => exact absurd rfl (h definition)
  | compile name => exact Does.bind_pure (does_compile name registry) fun _ => ⟨_, rfl⟩
  | compileAll => exact Does.bind_pure (does_compileAll registry) fun _ => ⟨_, rfl⟩
  | schema name =>
    exact Does.bind_pure (Does.bind_pure (does_compile name registry) fun _ => ⟨_, rfl⟩) fun _ => ⟨_, rfl⟩
  | router =>
    exact Does.bind_pure (Does.bind_pure (does_compileAll registry) fun _ => ⟨_, rfl⟩) fun _ => ⟨_, rfl⟩
  | render options name attributes =>
    refine Does.get_bind fun other hsame => ?_
    rw [← hsame.options]
    exact Does.bind_pure (does_render _ name attributes registry) fun _ => ⟨_, rfl⟩
  | expand options html => exact Does.bind_pure (does_expandHtml options html registry) fun _ => ⟨_, rfl⟩
  | dispatch method target form =>
    exact Does.bind_pure (does_dispatch method target form registry) fun _ => ⟨_, rfl⟩

end Session

/-! ### Histories -/

def Request.Keeps (name : String) (request : Request) : Prop :=
  ∀ other, request.registered? = some other → other.name ≠ name

theorem keeps_of_registrations {name : String} {history : List Request}
    (h : ∀ other ∈ registrations history, other.name ≠ name) : ∀ request ∈ history, request.Keeps name :=
  fun request hmem other hother => h other (List.mem_filterMap.mpr ⟨request, hmem, hother⟩)

namespace Registry

/-- What `f` tells of requests one after another, each made of the registry that the one before has left. -/
def gather {α : Type} (f : Registry → Request → List α) (registry : Registry) : List Request → List α
  | [] => []
  | request :: rest => f registry request ++ ((Session.perform request).run registry).2.gather f rest

variable {registry : Registry} {name : String} {request : Request} {history : List Request}

theorem get?_perform (h : request.Keeps name) (registry : Registry) :
    ((Session.perform request).run registry).2.entries.get? name =
      (registry.entries.get? name).map ((request.touches registry).foldl (Entry.touch name)) := by
  by_cases hregister : ∃ definition, request = .register definition
  · -- another component is registered, which touches nothing
    obtain ⟨definition, rfl⟩ := hregister
    refine Eq.trans ?_ Option.map_id'.symm
    cases hvalid : isComponentName definition.name with
    | true =>
      have hname := h definition (if_pos hvalid)
      rw [Session.run_register_valid hvalid]
      exact (OrderedMap.get?_insert ..).trans (if_neg (Ne.symm hname))
    | false => rw [Session.run_register_invalid hvalid]
  · rw [Session.does_perform (fun definition h => hregister ⟨definition, h⟩) registry registry (.refl registry),
      get?_touchAll]

theorem definition?_perform (h : request.Keeps name) (registry : Registry) :
    ((Session.perform request).run registry).2.definition? name = registry.definition? name := by
  rw [definition?, get?_perform h, Option.map_map, definition?]
  congr 1
  funext entry
  exact Entry.definition_foldl_touch name entry _

/-- An entry is what the touches of requests have made of it, while its component is not replaced. -/
theorem get?_serve (h : ∀ request ∈ history, request.Keeps name) (registry : Registry) :
    (registry.serve history).2.entries.get? name =
      (registry.entries.get? name).map ((registry.gather Request.touches history).foldl (Entry.touch name)) := by
  induction history generalizing registry with
  | nil => exact Option.map_id'.symm
  | cons request rest ih =>
    obtain ⟨hrequest, hrest⟩ := List.forall_mem_cons.mp h
    rw [serve_cons, ih hrest, get?_perform hrequest, Option.map_map, gather]
    congr 1
    funext entry
    exact List.foldl_append.symm

end Registry

namespace Use

/-- The use gets to the render function of a component: no guard has stopped it, and its attributes have been
parsed. -/
def calls (definition : Definition) (use : Use) : Bool :=
  use.name == definition.name && use.warning?.isNone && definition.parses use.attributes

variable {library : Library} {definition : Definition}

theorem renderings_touches (h : library definition.name = some definition) (use : Use) :
    ((use.touches library).map (Touch.renderings definition.name)).sum =
      if definition.render.isSome ∧ use.calls definition then 1 else 0 := by
  rw [touches, calls]
  cases use.warning? with
  | some warning => simp
  | none =>
    by_cases hname : use.name = definition.name
    · cases hparses : definition.parses use.attributes <;>
        simp [Library.touches, Touch.renderings, hname, h, hparses]
    · cases hfound : library use.name with
      | none => simp [Library.touches, Touch.renderings, hname, hfound]
      | some found =>
        cases hparses : found.parses use.attributes <;>
          simp [Library.touches, Touch.renderings, hname, hfound, hparses]

theorem renderings_flatMap_touches (h : library definition.name = some definition) (uses : List Use) :
    ((uses.flatMap (touches library)).map (Touch.renderings definition.name)).sum =
      if definition.render.isSome then uses.countP (calls definition) else 0 := by
  induction uses with
  | nil => exact (ite_self 0).symm
  | cons use rest ih =>
    rw [List.flatMap_cons, List.map_append, List.sum_append, ih, renderings_touches h, List.countP_cons]
    by_cases hrender : definition.render.isSome <;> simp [hrender, Nat.add_comm]

theorem compile_mem_touches {name : String} (uses : List Use) :
    .compile name ∈ uses.flatMap (touches library) ↔
      name ∈ (uses.filter fun use => use.warning?.isNone).map Use.name := by
  simp only [List.mem_flatMap, List.mem_map, List.mem_filter, and_assoc]
  refine exists_congr fun use => and_congr_right fun _ => ?_
  rw [touches]
  cases use.warning? with
  | some warning => simp
  | none =>
    simp only [Option.isSome_none, cond_false, Library.touches, List.mem_cons, Touch.compile.injEq,
      Option.isNone_none, true_and, eq_comm (a := use.name)]
    refine or_iff_left ?_
    cases library use.name with
    | none => exact List.not_mem_nil
    | some found =>
      dsimp only
      cases found.parses use.attributes <;> simp

end Use

namespace Registry

variable {registry : Registry} {definition : Definition} {history : List Request}

theorem renderings_gather (h : registry.definition? definition.name = some definition)
    (hkeeps : ∀ request ∈ history, request.Keeps definition.name) :
    ((registry.gather Request.touches history).map (Touch.renderings definition.name)).sum =
      if definition.render.isSome then (registry.gather Request.uses history).countP (Use.calls definition)
      else 0 := by
  induction history generalizing registry with
  | nil => exact (ite_self 0).symm
  | cons request rest ih =>
    obtain ⟨hrequest, hrest⟩ := List.forall_mem_cons.mp hkeeps
    have hscans : (((request.scans registry).map Touch.compile).map (Touch.renderings definition.name)).sum = 0 := by
      simp [Function.comp_def, Touch.renderings]
    have hlater := ih ((definition?_perform hrequest registry).trans h) hrest
    rw [gather, gather, List.map_append, List.sum_append, List.countP_append, hlater, Request.touches,
      List.map_append, List.sum_append, hscans, Nat.zero_add, Use.renderings_flatMap_touches h]
    split <;> rfl

theorem compile_mem_gather (name : String) (registry : Registry) (history : List Request) :
    .compile name ∈ registry.gather Request.touches history ↔
      name ∈ registry.gather Request.scans history ∨
        name ∈ ((registry.gather Request.uses history).filter fun use => use.warning?.isNone).map Use.name := by
  induction history generalizing registry with
  | nil => simp [gather]
  | cons request rest ih =>
    have hscans : Touch.compile name ∈ (request.scans registry).map Touch.compile ↔
        name ∈ request.scans registry := by simp
    simp only [gather, Request.touches, List.mem_append, hscans, Use.compile_mem_touches, ih, List.filter_append,
      List.map_append]
    tauto

end Registry

theorem Definition.calls_of_compile {definition : Definition} {compiled : Compiled}
    (h : definition.compile = .ok compiled) :
    definition.derive.2 = match definition.properties with
      | .inferred => if definition.render.isSome then 1 else 0
      | _ => 0 := by
  obtain ⟨sheet, router, -, hprepare, -⟩ := exists_of_compile_eq_ok h
  rw [derive_of_ok hprepare, schema]
  cases definition.properties with
  | inferred =>
    dsimp only [inferSchema, call]
    rcases (definition.rendering router.api sheet.classes).record Property.Schema.empty with ⟨result, schema⟩
    cases result <;> rfl
  | declared schema => rfl
  | transformed transform => rfl

/-- The calls of the render function of a component, from its registration until it is replaced, whatever is
asked of the registry in the meantime. One that compiles is called to infer its properties once if they are
inferred and it is compiled at all, and not if they are declared or transformed; the schema is the record of that
call. Besides it is called once for each use of the component that no guard has stopped and whose attributes have
been parsed, by a call or by a tag in any HTML. If the styles or the routes do not compile, it is never called. -/
theorem render_calls (registry : Registry) {definition : Definition}
    (hvalid : isComponentName definition.name = true) {history : List Request}
    (hkept : ∀ other ∈ registrations history, other.name ≠ definition.name) :
    let start := ((Session.perform (.register definition)).run registry).2
    let uses := start.gather Request.uses history
    let entered := (uses.filter fun use => use.warning?.isNone).map Use.name
    ∃ entry, (registry.serve (.register definition :: history)).2.entries.get? definition.name = some entry ∧
      entry.definition = definition ∧
      (∀ compiled, definition.compile = .ok compiled →
        (entry.inferences = match definition.properties with
          | .inferred =>
            if definition.render.isSome ∧ (definition.name ∈ start.gather Request.scans history ∨
              definition.name ∈ entered) then 1 else 0
          | _ => 0) ∧
        (definition.properties = .inferred → ∃ markup,
          (definition.rendering compiled.api compiled.classes).record Property.Schema.empty =
            (.ok markup, compiled.schema))) ∧
      entry.renderings = (if definition.render.isSome then uses.countP (Use.calls definition) else 0) ∧
      ∀ e, definition.prepare = .error e → entry.calls = 0 := by
  intro start uses entered
  have hput : start = registry.put definition hvalid := congrArg Prod.snd (Session.run_register_valid hvalid)
  have hentry : start.entries.get? definition.name = some (.ofDefinition definition) := by
    rw [hput]
    exact (OrderedMap.get?_insert ..).trans (if_pos rfl)
  have hdefinition : start.definition? definition.name = some definition := by
    rw [Registry.definition?, hentry]
    rfl
  have hkeeps := keeps_of_registrations hkept
  have hserve := Registry.get?_serve hkeeps start
  rw [hentry] at hserve
  refine ⟨_, hserve, Entry.definition_foldl_touch .., fun compiled hcompile => ⟨?_, fun hinferred => ?_⟩, ?_,
    fun e hprepare => ?_⟩
  · rw [Entry.inferences_ofDefinition hcompile, Definition.calls_of_compile hcompile]
    simp only [Registry.compile_mem_gather]
    cases definition.properties with
    | inferred =>
      cases definition.render.isSome with
      | true =>
        simp only [if_true, true_and]
        rfl
      | false => simp
    | declared schema => exact ite_self 0
    | transformed transform => exact ite_self 0
  · exact Definition.record_of_compile hinferred hcompile
  · rw [Entry.renderings_ofDefinition, Registry.renderings_gather hdefinition hkeeps]
  · have hparses : ∀ attributes, definition.parses attributes = false := fun attributes => by
      rw [Definition.parses, Definition.compile, Definition.derive_of_error hprepare]
    have huses : uses.countP (Use.calls definition) = 0 :=
      List.countP_eq_zero.mpr fun use _ => by simp [Use.calls, hparses]
    have hderive : definition.derive.2 = 0 := congrArg Prod.snd (Definition.derive_of_error hprepare)
    rw [Entry.calls, Entry.inferences_foldl_touch_of_derive hderive, Entry.renderings_ofDefinition,
      Registry.renderings_gather hdefinition hkeeps, huses, ite_self]
    rfl

/-- A component is searched for a route, compiled again, and used in two others and in a text, and one of the
others is replaced by a word. -/
def visiting : List Request :=
  [.dispatch .get "/nowhere" OrderedMap.empty, .register sleeve, .register shelf, .compileAll,
    .render none "shelf" OrderedMap.empty, .register (word "sleeve" "none"),
    .expand .standard "<p><badge></badge></p><sleeve></sleeve>", .schema "badge"]

theorem render_calls_visiting :
    ∃ entry, ((Registry.empty .standard).serve (.register badge :: visiting)).2.entries.get? "badge" = some entry ∧
      entry.inferences = 1 ∧ entry.renderings = 3 := by
  have hvalid : isComponentName badge.name = true := by decide +kernel
  have hkept : ∀ other ∈ registrations visiting, other.name ≠ badge.name := by decide +kernel
  obtain ⟨entry, hentry, -, hinferences, hrenderings, -⟩ := render_calls (.empty .standard) hvalid hkept
  cases hcompile : badge.compile with
  | error e =>
    have hok : badge.compile.isOk = true := by decide +kernel
    rw [hcompile] at hok
    cases hok
  | ok compiled =>
    exact ⟨entry, hentry, (hinferences compiled hcompile).1.trans (by decide +kernel),
      hrenderings.trans (by decide +kernel)⟩

end HtmlComponents.Component
