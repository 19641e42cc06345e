import HtmlComponents.Component.Request
import HtmlComponents.Proofs.Component.Piecewise
import HtmlComponents.Proofs.Component.Registry

/-!
# What is remembered does not show

Expansion has the same outcome in registries with the same components, whatever is remembered of them, and
leaves a registry the same (`stable_expand`). So does every request that registers nothing
(`stable_perform`).
-/

namespace HtmlComponents.Component

open Document (Piece)

theorem Registry.Same.outside {a b : Registry} (h : a.Same b) : Scope.outside a = Scope.outside b := by
  rw [Scope.outside, Scope.outside, h.names]

namespace Session

variable {α β : Type}

/-- An activity whose result hangs on the components of a registry alone, and which leaves them as they
are. -/
structure Stable (m : Session α) : Prop where
  result : ∀ a b : Registry, a.Same b → (m.run a).1 = (m.run b).1
  keeps : ∀ a : Registry, a.Same (m.run a).2

namespace Stable

theorem pure (a : α) : Stable (pure a : Session α) := ⟨fun _ _ _ => rfl, Registry.Same.refl⟩

theorem bind {m : Session α} {f : α → Session β} (hm : Stable m) (hf : ∀ a, Stable (f a)) :
    Stable (m >>= f) := by
  refine ⟨fun a b h => ?_, fun a => ?_⟩
  · have hab : (m.run a).2.Same (m.run b).2 := ((hm.keeps a).symm.trans h).trans (hm.keeps b)
    rw [run_bind, run_bind, hm.result a b h]
    exact (hf (m.run b).1).result _ _ hab
  · rw [run_bind]
    exact (hm.keeps a).trans ((hf (m.run a).1).keeps _)

theorem get_bind {f : Registry → Session α} (hf : ∀ a, Stable (f a))
    (hsame : ∀ a b : Registry, a.Same b → f a = f b) : Stable (get >>= f) := by
  refine ⟨fun a b h => ?_, fun a => (hf a).keeps a⟩
  rw [run_bind, run_bind, run_get, run_get, hsame a b h]
  exact (hf b).result a b h

theorem map {m : Session α} (hm : Stable m) (f : α → β) : Stable (f <$> m) :=
  hm.bind fun a => .pure (f a)

end Stable

theorem stable_compile (name : String) : Stable (compile name) := by
  refine ⟨fun a b h => ?_, fun a => a.same_compile name⟩
  rw [run_compile, run_compile, Registry.fst_compile, Registry.fst_compile, h.definition? name]

theorem stable_renderTag (name : String) (attributes : RawAttributes) :
    Stable (renderTag name attributes) := by
  refine ⟨fun a b h => ?_, fun a => (run_renderTag name attributes a).2⟩
  rw [(run_renderTag name attributes a).1, (run_renderTag name attributes b).1, h.definition? name]

theorem stable_expandPieces {use : StartTag → List Char → Session Outcome}
    (huse : ∀ tag source, Stable (use tag source)) (ps : List Piece) : Stable (expandPieces use ps) := by
  induction ps with
  | nil => exact .pure _
  | cons piece rest ih =>
    cases piece with
    | literal s => exact ih.bind fun _ => .pure _
    | element tag source => exact (huse tag source).bind fun _ => ih.bind fun _ => .pure _

theorem stable_expandUse (options : Options) (scope : Scope) (name : String)
    (attributes : RawAttributes) (source : List Char)
    {inner : (name : String) → name ∈ scope.idle → List Char → Session Outcome}
    (hinner : ∀ name h html, Stable (inner name h html)) :
    Stable (expandUse options scope name attributes source inner) := by
  unfold expandUse
  split
  · rename_i hidle
    split
    · exact .pure _
    · refine (stable_renderTag name attributes).bind fun rendered => ?_
      cases rendered with
      | error e => exact .pure _
      | ok rendered => exact (hinner name hidle rendered.1.chars).bind fun _ => .pure _
  · exact .pure _

/-- Expansion does not hang on what was compiled before. -/
theorem stable_expand (options : Options) (scope : Scope) (html : List Char) :
    Stable (expand options scope html) := by
  rw [expand_eq_expandPieces]
  refine .get_bind (fun registry => stable_expandPieces (fun tag source => ?_) _) fun a b h => ?_
  · exact stable_expandUse options scope tag.localName tag.rawAttributes source
      fun name h html => stable_expand options (scope.enter name) html
  · rw [h.contains]
termination_by scope.idle.length
decreasing_by exact Scope.length_idle_enter_lt h

theorem stable_expandEntering (options : Options) (scope : Scope) (tag : StartTag)
    (source : List Char) : Stable (expandEntering options scope tag source) :=
  stable_expandUse options scope tag.localName tag.rawAttributes source
    fun name _ html => stable_expand options (scope.enter name) html

/-! ### Requests -/

theorem stable_compileEach (names : List String) : Stable (compileEach names) := by
  induction names with
  | nil => exact .pure _
  | cons name rest ih =>
    refine (stable_compile name).bind fun result => ?_
    cases result with
    | error e => exact .pure _
    | ok compiled =>
      refine ih.bind fun others => ?_
      cases others <;> exact .pure _

theorem stable_compileAll : Stable compileAll :=
  .get_bind (fun registry => stable_compileEach registry.names) fun a b h => by rw [h.names]

theorem stable_router : Stable router := stable_compileAll.bind fun _ => .pure _

theorem stable_render (options : Options) (name : String) (attributes : RawAttributes) :
    Stable (render options name attributes) := by
  refine .get_bind (fun registry => (stable_renderTag name attributes).bind fun rendered => ?_)
    fun a b h => by rw [h.outside]
  cases rendered with
  | error e => exact .pure _
  | ok rendered => exact (stable_expand options _ rendered.1.chars).bind fun _ => .pure _

theorem stable_expandHtml (options : Options) (html : String) : Stable (expandHtml options html) :=
  .get_bind (fun registry => (stable_expand options (Scope.outside registry) html.toList).bind
    fun _ => .pure _) fun a b h => by rw [h.outside]

theorem stable_findRoute (method : Route.Method) (target : String) (names : List String) :
    Stable (findRoute method target names) := by
  induction names with
  | nil => exact .pure _
  | cons name rest ih =>
    refine (stable_compile name).bind fun result => ?_
    cases result with
    | error e => exact ih
    | ok compiled =>
      dsimp only
      split
      · exact .pure _
      · exact ih

theorem stable_dispatch (method : Route.Method) (target : String) (form : OrderedMap String) :
    Stable (dispatch method target form) := by
  refine .get_bind (fun registry => (stable_findRoute method target registry.names).bind fun found => ?_)
    fun a b h => by rw [h.names]
  cases found with
  | none => exact .pure _
  | some found =>
    dsimp only
    split
    · exact .pure _
    · rename_i markup _
      refine .get_bind (fun registry => (stable_expandHtml registry.options markup.toHtml).bind
        fun _ => .pure _) fun a b h => by rw [h.options]

/-- A request that registers nothing is answered by the components alone and leaves them as they are. -/
theorem stable_perform {request : Request} (h : ∀ definition, request ≠ .register definition) :
    Stable (perform request) := by
  cases request with
  | register definition => exact absurd rfl (h definition)
  | compile name => exact (stable_compile name).map _
  | compileAll => exact stable_compileAll.bind fun _ => .pure _
  | schema name => exact ((stable_compile name).bind fun _ => .pure _).map _
  | router => exact stable_router.map _
  | render options name attributes =>
    exact .get_bind (fun registry => (stable_render _ name attributes).map _) fun a b h => by
      rw [h.options]
  | expand options html => exact (stable_expandHtml options html).map _
  | dispatch method target form => exact (stable_dispatch method target form).map _

end Session

end HtmlComponents.Component
