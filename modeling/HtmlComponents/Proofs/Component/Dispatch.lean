import HtmlComponents.Proofs.Component.Memory
import HtmlComponents.Proofs.Route.Client
import HtmlComponents.Proofs.Text.Pieces

/-!
# Dispatch and the merged router

A registry looks for the route of a request in one component after another. The route it picks is the one
that a router with the routes of all components picks, components that do not compile left out
(`dispatch_eq_merged`).
-/

namespace HtmlComponents

namespace Route.Router

variable {α : Type}

theorem find?_append (method : Method) (path : String) (routes others : List (Entry α)) :
    find? method path (routes ++ others) =
      (find? method path routes).or (find? method path others) := by
  fun_induction find? method path routes with
  | case1 => rfl
  | case2 route rest hmethod bindings hfound =>
    rw [List.cons_append, find?, if_pos hmethod, hfound]
    rfl
  | case3 route rest hmethod hnone ih => rw [List.cons_append, find?, if_pos hmethod, hnone, ← ih]
  | case4 route rest hmethod ih => rw [List.cons_append, find?, if_neg hmethod, ← ih]

theorem dispatch_append (router other : Router α) (method : Method) (target : String) :
    (router.append other).dispatch method target =
      (router.dispatch method target).or (other.dispatch method target) := by
  rw [dispatch, append, find?_append]
  cases hfound : find? method (String.ofList (pathOf target.toList)) router.routes with
  | none => simp [dispatch, hfound]
  | some found => simp [dispatch, hfound]

end Route.Router

namespace Component

open Route (First Method Router)

theorem requestPath_eq_pathOf (target : List Char) : requestPath target = Router.pathOf target :=
  (Text.before_before '?' '#' target).symm

namespace Registry

/-- The routes of a component; one that does not compile has none. -/
def routesOf (registry : Registry) (name : String) : List (Route.Entry Handler) :=
  match (registry.compile name).1 with
  | .ok compiled => compiled.router.routes
  | .error _ => []

/-- What keeps a component from compiling. -/
def failure? (registry : Registry) (name : String) : Option Error :=
  match (registry.compile name).1 with
  | .ok _ => none
  | .error e => some e

/-- The routes of all components, in the order of registration. -/
def merged (registry : Registry) : Router Handler := ⟨registry.names.flatMap registry.routesOf⟩

/-- The place `i` of the merged router is among the routes of `owner`. -/
def Owns (registry : Registry) (owner : String) (i : Nat) : Prop :=
  ∃ earlier later, registry.names = earlier ++ owner :: later ∧
    (earlier.flatMap registry.routesOf).length ≤ i ∧
    i < (earlier.flatMap registry.routesOf).length + (registry.routesOf owner).length

/-- The route of a component for a request, with the name of the component. -/
def route? (registry : Registry) (method : Method) (target name : String) :
    Option (String × Route.Match Handler) :=
  ((Router.mk (registry.routesOf name)).dispatch method target).map fun found => (name, found)

variable {registry : Registry} {method : Method} {target : String}

theorem dispatch_flatMap (registry : Registry) (method : Method) (target : String)
    (names : List String) :
    (Router.mk (names.flatMap registry.routesOf)).dispatch method target =
      (names.findSome? (registry.route? method target)).map Prod.snd := by
  induction names with
  | nil => rfl
  | cons name rest ih =>
    have happend := Router.dispatch_append ⟨registry.routesOf name⟩
      ⟨rest.flatMap registry.routesOf⟩ method target
    rw [ih] at happend
    rw [List.flatMap_cons, List.findSome?_cons, route?]
    refine happend.trans ?_
    cases (Router.mk (registry.routesOf name)).dispatch method target <;> rfl

/-- The route that is found is the first of the merged router that takes the request, and it stands among
those of the component in which it is found. -/
theorem owns_of_findSome? {owner : String} {found : Route.Match Handler}
    (h : registry.names.findSome? (registry.route? method target) = some (owner, found)) :
    ∃ i, First (Router.Takes method (String.ofList (Router.pathOf target.toList)))
        registry.merged.routes i found.route ∧ registry.Owns owner i ∧
      found.route.pattern.match? (String.ofList (Router.pathOf target.toList)) =
        some found.parameters := by
  obtain ⟨earlier, name, later, hnames, hroute, hearlier⟩ := List.findSome?_eq_some_iff.mp h
  obtain ⟨other, hdispatch, heq⟩ := Option.map_eq_some_iff.mp hroute
  cases heq
  obtain ⟨⟨route, bindings⟩, hfind, rfl⟩ := Option.map_eq_some_iff.mp hdispatch
  obtain ⟨⟨j, hfirst⟩, hmatch⟩ := Router.first_of_find? hfind
  -- no component before the owner has a route for the request
  have hnone : ∀ other ∈ earlier.flatMap registry.routesOf,
      ¬Router.Takes method (String.ofList (Router.pathOf target.toList)) other := by
    intro other hother
    obtain ⟨name, hname, hmem⟩ := List.mem_flatMap.mp hother
    have hpassed := Option.map_eq_none_iff.mp (Option.map_eq_none_iff.mp (hearlier name hname))
    exact Router.not_takes_of_find? hpassed other hmem
  refine ⟨(earlier.flatMap registry.routesOf).length + j, ?_, ⟨earlier, later, hnames, ?_, ?_⟩, hmatch⟩
  · rw [merged, hnames, List.flatMap_append, List.flatMap_cons]
    exact (hfirst.append_right _).append_left hnone
  · exact Nat.le_add_right _ _
  · exact Nat.add_lt_add_left hfirst.lt_length _

end Registry

namespace Session

theorem fst_findRoute (method : Method) (target : String) (registry : Registry) (names : List String) :
    ((findRoute method target names).run registry).1 =
      names.findSome? (registry.route? method target) := by
  induction names with
  | nil => rfl
  | cons name rest ih =>
    -- what compiling the first component has remembered does not show in the others
    have hsame := registry.same_compile name
    have hrest : ((findRoute method target rest).run (registry.compile name).2).1 =
        rest.findSome? (registry.route? method target) :=
      ((stable_findRoute method target rest).result _ _ hsame.symm).trans ih
    rw [findRoute, run_bind, run_compile, List.findSome?_cons, Registry.route?, Registry.routesOf]
    cases (registry.compile name).1 with
    | error e => exact hrest
    | ok compiled =>
      dsimp only
      cases compiled.router.dispatch method target with
      | none => exact hrest
      | some found => rfl

theorem fst_compileEach (registry : Registry) (names : List String) :
    match names.findSome? registry.failure? with
    | some e => ((compileEach names).run registry).1 = .error e
    | none => ∃ all, ((compileEach names).run registry).1 = .ok all ∧
        (all.flatMap fun compiled => compiled.router.routes) = names.flatMap registry.routesOf := by
  induction names with
  | nil => exact ⟨[], rfl, rfl⟩
  | cons name rest ih =>
    have hrest := (stable_compileEach rest).result _ _ (registry.same_compile name)
    rw [compileEach, run_bind, run_compile, List.findSome?_cons, List.flatMap_cons, Registry.failure?,
      Registry.routesOf]
    cases (registry.compile name).1 with
    | error e => rfl
    | ok compiled =>
      dsimp only
      rw [run_bind, ← hrest]
      cases hfailure : rest.findSome? registry.failure? with
      | some e =>
        rw [hfailure] at ih
        dsimp only at ih ⊢
        rw [ih]
        rfl
      | none =>
        rw [hfailure] at ih
        obtain ⟨others, hothers, hroutes⟩ := ih
        refine ⟨compiled :: others, ?_, ?_⟩
        · rw [hothers]
          rfl
        · rw [List.flatMap_cons, hroutes]

theorem fst_router (registry : Registry) :
    (router.run registry).1 =
      match registry.names.findSome? registry.failure? with
      | some e => .error e
      | none => .ok registry.merged := by
  have hall := fst_compileEach registry registry.names
  show Except.map _ ((compileEach registry.names).run registry).1 = _
  cases hfailure : registry.names.findSome? registry.failure? with
  | some e =>
    rw [hfailure] at hall
    dsimp only at hall
    rw [hall]
    rfl
  | none =>
    rw [hfailure] at hall
    obtain ⟨all, hall, hroutes⟩ := hall
    rw [hall, Registry.merged, ← hroutes]
    rfl

theorem fst_dispatch (registry : Registry) (method : Method) (target : String)
    (form : OrderedMap String) :
    ((dispatch method target form).run registry).1 =
      match registry.names.findSome? (registry.route? method target) with
      | none => .ok none
      | some (owner, found) =>
        match found.route.handler
          ⟨method, String.ofList (requestPath target.toList), found.parameters, found.query, form⟩ with
        | .error failure => .error (.ofFailure owner failure)
        | .ok markup =>
          .ok (some ((expandHtml registry.options markup.toHtml).run registry).1) := by
  have hsame := (stable_findRoute method target registry.names).keeps registry
  have hfound := fst_findRoute method target registry registry.names
  rw [dispatch, run_bind, run_get, run_bind, hfound]
  cases registry.names.findSome? (registry.route? method target) with
  | none => rfl
  | some found =>
    obtain ⟨owner, found⟩ := found
    dsimp only
    cases found.route.handler _ with
    | error failure => rfl
    | ok markup =>
      have houtput := (stable_expandHtml registry.options markup.toHtml).result _ _ hsame
      dsimp only
      rw [run_bind, run_get, run_bind, ← hsame.options, houtput]
      rfl

end Session

/-- Dispatch and the merged router agree. A request has no answer exactly when no route of the merged router
takes it; otherwise the handler of the route that router picks answers, with the parameters and the query it
finds and the path up to the first `?` or `#`, which its pattern takes. An error is that of the component to
which the route belongs. The registry has the merged router as its own, or the error of the first component
that does not compile. -/
theorem dispatch_eq_merged (registry : Registry) (method : Method) (target : String)
    (form : OrderedMap String) :
    let path := String.ofList (target.toList.takeWhile fun c => c != '?' && c != '#')
    let result := ((Session.dispatch method target form).run registry).1
    (result = .ok none ↔ registry.merged.dispatch method target = none) ∧
    (∀ found, registry.merged.dispatch method target = some found →
      ∃ i owner, First (Router.Takes method path) registry.merged.routes i found.route ∧
        registry.Owns owner i ∧ found.route.pattern.match? path = some found.parameters ∧
        result = match found.route.handler ⟨method, path, found.parameters, found.query, form⟩ with
          | .error failure => .error (.ofFailure owner failure)
          | .ok markup =>
            .ok (some ((Session.expandHtml registry.options markup.toHtml).run registry).1)) ∧
    (Session.router.run registry).1 =
      match registry.names.findSome? registry.failure? with
      | some e => .error e
      | none => .ok registry.merged := by
  have hresult := Session.fst_dispatch registry method target form
  have hmerged : registry.merged.dispatch method target =
      (registry.names.findSome? (registry.route? method target)).map Prod.snd :=
    registry.dispatch_flatMap method target registry.names
  refine ⟨?_, fun found hfound => ?_, Session.fst_router registry⟩
  · rw [hresult, hmerged]
    cases registry.names.findSome? (registry.route? method target) with
    | none => exact ⟨fun _ => rfl, fun _ => rfl⟩
    | some found =>
      refine ⟨fun h => ?_, fun h => nomatch h⟩
      dsimp only at h
      split at h <;> cases h
  · rw [hmerged] at hfound
    obtain ⟨⟨owner, other⟩, hroute, rfl⟩ := Option.map_eq_some_iff.mp hfound
    obtain ⟨i, hfirst, howns, hmatch⟩ := Registry.owns_of_findSome? hroute
    rw [← requestPath_eq_pathOf] at hfirst hmatch
    refine ⟨i, owner, hfirst, howns, hmatch, ?_⟩
    rw [hresult, hroute]
    rfl

/-- A component with one action, whose answer tells the path. -/
def page (name pattern : String) : Definition where
  name := name
  styles := OrderedMap.empty
  routes := OrderedMap.ofList
    [("open", .ofMethod .get pattern fun context => .ok (.text (name ++ " " ++ context.path)))]
  render := none
  properties := .inferred

/-- A component that does not compile, and two whose routes overlap. -/
def pages : Registry :=
  ((Registry.empty .standard).serve
    [.register (page "broken" "items"), .register (page "show" "/items/:id"),
      .register (page "new" "/items/new")]).2

theorem dispatch_eq_merged_pages :
    (∃ found, pages.merged.dispatch .get "/items/new?x=1#top" = some found ∧
      found.parameters = [("id", "new")]) ∧
    ((Session.dispatch .get "/items/new?x=1#top" OrderedMap.empty).run pages).1 =
      .ok (some ⟨"show /items/new", "", [], []⟩) ∧
    (Session.router.run pages).1 = .error (.route "broken" (.invalidPattern "items" "must start with '/'")) := by
  have hpicked : (pages.merged.dispatch .get "/items/new?x=1#top").map (fun found =>
      (found.parameters, (found.route.handler ⟨.get, "/items/new", found.parameters, found.query,
        OrderedMap.empty⟩).toOption.map Markup.toHtml)) =
      some ([("id", "new")], some "show /items/new") := by decide +kernel
  have houtput : ((Session.expandHtml pages.options "show /items/new").run pages).1 =
      ⟨"show /items/new", "", [], []⟩ := by decide +kernel
  have hbroken : pages.names.findSome? pages.failure? =
      some (.route "broken" (.invalidPattern "items" "must start with '/'")) := by decide +kernel
  obtain ⟨-, hanswer, hrouter⟩ :=
    dispatch_eq_merged pages .get "/items/new?x=1#top" OrderedMap.empty
  obtain ⟨found, hfound, hpicked⟩ := Option.map_eq_some_iff.mp hpicked
  obtain ⟨hparameters, hhandler⟩ := Prod.mk.inj hpicked
  obtain ⟨i, owner, -, -, -, hresult⟩ := hanswer found hfound
  refine ⟨⟨found, hfound, hparameters⟩, hresult.trans ?_, hrouter.trans (by rw [hbroken])⟩
  have hpath : String.ofList ("/items/new?x=1#top".toList.takeWhile fun c => c != '?' && c != '#') =
      "/items/new" := by decide +kernel
  rw [hpath]
  split
  · rename_i failure herror
    rw [herror] at hhandler
    cases hhandler
  · rename_i markup hmarkup
    rw [hmarkup] at hhandler
    rw [Option.some.inj hhandler, houtput]

end Component

end HtmlComponents
