import HtmlComponents.Proofs.OrderedMap
import HtmlComponents.Proofs.Route.Pattern
import HtmlComponents.Route.Client

/-!
# Paths of a client at the server

A path that the endpoints of a router write for an action is dispatched again: to the first route of
the action, with the arguments as parameters, unless an earlier route takes the path
(`dispatch_of_path`). The rest is when there is no path (`path_eq_error_iff`).
-/

namespace HtmlComponents.Route

variable {α : Type}

/-- `b` stands at `i`, has the property `p`, and nothing before it does. -/
structure First {β : Type} (p : β → Prop) (l : List β) (i : Nat) (b : β) : Prop where
  getElem? : l[i]? = some b
  holds : p b
  before : ∀ earlier ∈ l.take i, ¬p earlier

namespace First

variable {β : Type} {p : β → Prop} {l : List β} {i j : Nat} {a b c : β}

theorem head (h : p b) : First p (b :: l) 0 b :=
  ⟨rfl, h, fun _ hmem => absurd hmem List.not_mem_nil⟩

theorem cons (ha : ¬p a) (h : First p l i b) : First p (a :: l) (i + 1) b := by
  refine ⟨h.getElem?, h.holds, fun earlier hmem => ?_⟩
  rcases List.mem_cons.mp hmem with rfl | hmem
  · exact ha
  · exact h.before earlier hmem

theorem lt_length (h : First p l i b) : i < l.length := (List.getElem?_eq_some_iff.mp h.getElem?).1

theorem append_right (h : First p l i b) (l' : List β) : First p (l ++ l') i b := by
  refine ⟨(List.getElem?_append_left h.lt_length).trans h.getElem?, h.holds, fun earlier hmem => ?_⟩
  rw [List.take_append_of_le_length (Nat.le_of_lt h.lt_length)] at hmem
  exact h.before earlier hmem

theorem append_left (hl : ∀ a ∈ l, ¬p a) {l' : List β} (h : First p l' i b) :
    First p (l ++ l') (l.length + i) b := by
  induction l with
  | nil => rwa [List.nil_append, List.length_nil, Nat.zero_add]
  | cons a l ih =>
    obtain ⟨ha, hrest⟩ := List.forall_mem_cons.mp hl
    rw [List.cons_append, List.length_cons, Nat.add_right_comm]
    exact (ih hrest).cons ha

theorem mem (h : First p l i b) : b ∈ l := List.mem_of_getElem? h.getElem?

theorem le (h : First p l i b) (hj : l[j]? = some c) (hc : p c) : i ≤ j := by
  refine Nat.le_of_not_lt fun hlt => h.before c ?_ hc
  exact List.mem_of_getElem? ((List.getElem?_take_of_lt hlt).trans hj)

theorem unique (h : First p l i b) (h' : First p l j c) : i = j ∧ b = c := by
  have hij : i = j := Nat.le_antisymm (h.le h'.getElem? h'.holds) (h'.le h.getElem? h.holds)
  subst hij
  exact ⟨rfl, Option.some.inj (h.getElem?.symm.trans h'.getElem?)⟩

theorem exists_of_mem (hb : b ∈ l) (h : p b) : ∃ i c, First p l i c := by
  induction l with
  | nil => cases hb
  | cons a l ih =>
    by_cases ha : p a
    · exact ⟨0, a, head ha⟩
    · rcases List.mem_cons.mp hb with rfl | hb
      · exact absurd h ha
      · obtain ⟨i, c, hc⟩ := ih hb
        exact ⟨i + 1, c, hc.cons ha⟩

end First

/-! ### The routes of a router -/

namespace Router

/-- Routers as a server builds them: of tables, one after another. -/
inductive Built : Router α → Prop
  | compile {table : Table α} {router : Router α} (h : Router.compile table = .ok router) :
      Built router
  | append {router other : Router α} (h : Built router) (h' : Built other) :
      Built (router.append other)

theorem plain_of_compileEntries {entries : List (String × Spec α)} {routes : List (Entry α)}
    (h : compileEntries entries = .ok routes) :
    ∀ route ∈ routes, Pattern.Plain route.pattern.segments := by
  induction entries generalizing routes with
  | nil =>
    cases h
    exact fun _ hmem => absurd hmem List.not_mem_nil
  | cons entry rest ih =>
    obtain ⟨action, spec⟩ := entry
    rw [compileEntries] at h
    obtain ⟨first, hfirst, h⟩ := exists_of_bind_eq_ok h
    obtain ⟨others, hothers, h⟩ := exists_of_bind_eq_ok h
    cases h
    obtain ⟨pattern, hpattern, rfl⟩ := exists_of_map_eq_ok hfirst
    intro route hroute
    rcases List.mem_cons.mp hroute with rfl | hroute
    · exact Pattern.plain_of_parse hpattern
    · exact ih hothers route hroute

theorem Built.plain {router : Router α} (h : router.Built) :
    ∀ route ∈ router.routes, Pattern.Plain route.pattern.segments := by
  induction h with
  | compile h =>
    obtain ⟨routes, hroutes, rfl⟩ := exists_of_map_eq_ok h
    exact plain_of_compileEntries hroutes
  | append _ _ ih ih' =>
    intro route hroute
    rcases List.mem_append.mp hroute with hroute | hroute
    · exact ih route hroute
    · exact ih' route hroute

/-- The first route of an action. -/
def FirstOf (router : Router α) (action : String) : Nat → Entry α → Prop :=
  Route.First (fun route => route.action = action) router.routes

/-- The route takes a request. -/
def Takes (method : Method) (path : String) (route : Entry α) : Prop :=
  route.method = method ∧ ∃ bindings, route.pattern.match? path = some bindings

section
variable {method : Method} {path : String} {routes : List (Entry α)} {route : Entry α}

theorem first_of_find? {bindings : Bindings} (h : find? method path routes = some (route, bindings)) :
    (∃ i, Route.First (Takes method path) routes i route) ∧
      route.pattern.match? path = some bindings := by
  fun_induction find? method path routes with
  | case1 => cases h
  | case2 head rest hmethod found hfound =>
    cases h
    exact ⟨⟨0, .head ⟨hmethod, bindings, hfound⟩⟩, hfound⟩
  | case3 head rest hmethod hnone ih =>
    obtain ⟨⟨i, hi⟩, hmatch⟩ := ih h
    refine ⟨⟨i + 1, hi.cons ?_⟩, hmatch⟩
    rintro ⟨_, found, hfound⟩
    cases hnone.symm.trans hfound
  | case4 head rest hmethod ih =>
    obtain ⟨⟨i, hi⟩, hmatch⟩ := ih h
    exact ⟨⟨i + 1, hi.cons fun htakes => hmethod htakes.1⟩, hmatch⟩

theorem not_takes_of_find? (h : find? method path routes = none) :
    ∀ route ∈ routes, ¬Takes method path route := by
  fun_induction find? method path routes with
  | case1 => exact fun _ hmem => absurd hmem List.not_mem_nil
  | case2 head rest hmethod found hfound => cases h
  | case3 head rest hmethod hnone ih =>
    refine List.forall_mem_cons.mpr ⟨?_, ih h⟩
    rintro ⟨_, found, hfound⟩
    cases hnone.symm.trans hfound
  | case4 head rest hmethod ih =>
    exact List.forall_mem_cons.mpr ⟨fun htakes => hmethod htakes.1, ih h⟩

theorem exists_find? (hroute : route ∈ routes) (h : Takes method path route) :
    ∃ i found bindings, find? method path routes = some (found, bindings) ∧
      Route.First (Takes method path) routes i found ∧
      found.pattern.match? path = some bindings := by
  cases hfound : find? method path routes with
  | none => exact absurd h (not_takes_of_find? hfound route hroute)
  | some pair =>
    obtain ⟨⟨i, hfirst⟩, hmatch⟩ := first_of_find? hfound
    exact ⟨i, pair.1, pair.2, rfl, hfirst, hmatch⟩

end

section
variable {router : Router α} {action : String}

theorem lookup_map (routes : List (Entry α)) (action : String) :
    (routes.map fun route => (route.action, Endpoint.ofEntry route)).lookup action =
      (routes.find? fun route => route.action == action).map Endpoint.ofEntry := by
  induction routes with
  | nil => rfl
  | cons route rest ih =>
    rw [List.map_cons, List.lookup_cons, List.find?_cons, ih]
    by_cases h : route.action = action
    · simp [h]
    · simp [beq_false_of_ne h, beq_false_of_ne (Ne.symm h)]

theorem get?_api (router : Router α) (action : String) :
    router.api.endpoints.get? action =
      (router.routes.find? fun route => route.action == action).map Endpoint.ofEntry := by
  rw [api, OrderedMap.get?_ofListFirst, lookup_map]

theorem FirstOf.endpoint {i : Nat} {route : Entry α} (h : router.FirstOf action i route) :
    router.api.endpoints.get? action = some (Endpoint.ofEntry route) := by
  have hfound : router.routes.find? (fun route => route.action == action) = some route := by
    obtain ⟨hlt, hget⟩ := List.getElem?_eq_some_iff.mp h.getElem?
    refine List.find?_eq_some_iff_getElem.mpr ⟨beq_iff_eq.mpr h.holds, i, hlt, hget, ?_⟩
    intro j hj
    have hmem : router.routes[j] ∈ router.routes.take i :=
      List.mem_of_getElem? ((List.getElem?_take_of_lt hj).trans (List.getElem?_eq_getElem _))
    simpa using h.before _ hmem
  rw [get?_api, hfound, Option.map_some]

theorem endpoint_unknown (h : ∀ route ∈ router.routes, route.action ≠ action) :
    router.api.endpoints.get? action = none := by
  have hnone : router.routes.find? (fun route => route.action == action) = none :=
    List.find?_eq_none.mpr fun route hroute => by simpa using h route hroute
  rw [get?_api, hnone, Option.map_none]

theorem first_or_unknown (router : Router α) (action : String) :
    (∃ i route, router.FirstOf action i route) ∨ ∀ route ∈ router.routes, route.action ≠ action := by
  by_cases h : ∃ route ∈ router.routes, route.action = action
  · obtain ⟨route, hroute, haction⟩ := h
    exact .inl (Route.First.exists_of_mem (p := fun route : Entry α => route.action = action) hroute haction)
  · exact .inr fun route hroute haction => h ⟨route, hroute, haction⟩

end

end Router

/-! ### The paths of an endpoint -/

/-- Arguments that fill the parameters of a pattern: enough, and none of those used is empty. -/
def Pattern.Filled (pattern : Pattern) (arguments : List String) : Prop :=
  pattern.parameterCount ≤ arguments.length ∧ "" ∉ arguments.take pattern.parameterCount

theorem Endpoint.emptyParameter?_eq_none_iff {parameters arguments : List String} :
    emptyParameter? parameters arguments = none ↔ "" ∉ arguments.take parameters.length := by
  fun_induction emptyParameter? parameters arguments with
  | case1 parameter parameters argument arguments hempty =>
    have hargument : argument = "" := String.isEmpty_iff.mp hempty
    simp [hargument]
  | case2 parameter parameters argument arguments hsome ih =>
    have hargument : "" ≠ argument := fun h => hsome (String.isEmpty_iff.mpr h.symm)
    rw [ih, List.length_cons, List.take_succ_cons, List.mem_cons, not_or]
    exact ⟨fun h => ⟨hargument, h⟩, And.right⟩
  | case3 parameters arguments hne =>
    have htake : arguments.take parameters.length = [] := by
      cases parameters with
      | nil => rfl
      | cons parameter parameters =>
        cases arguments with
        | nil => rfl
        | cons argument arguments => exact (hne _ _ _ _ rfl rfl).elim
    simp [htake]

section
variable {action : String} {arguments : List String}

theorem Endpoint.path_filled (endpoint : Endpoint) (h : endpoint.pattern.Filled arguments) :
    endpoint.path action arguments = .ok (endpoint.pattern.resolve arguments) := by
  rw [Endpoint.path]
  simp only [if_neg (Nat.not_lt.mpr h.1)]
  rw [emptyParameter?_eq_none_iff.mpr h.2]

theorem Endpoint.path_unfilled (endpoint : Endpoint) (action : String)
    (h : ¬endpoint.pattern.Filled arguments) :
    ∃ error, endpoint.path action arguments = .error error := by
  rw [Endpoint.path]
  by_cases hlength : arguments.length < endpoint.pattern.parameterCount
  · exact ⟨_, if_pos hlength⟩
  · simp only [if_neg hlength]
    cases hempty : emptyParameter? endpoint.pattern.parameters arguments with
    | some parameter => exact ⟨_, rfl⟩
    | none => exact absurd ⟨Nat.not_lt.mp hlength, emptyParameter?_eq_none_iff.mp hempty⟩ h

theorem Api.path_eq {api : Api} {endpoint : Endpoint} (h : api.endpoints.get? action = some endpoint) :
    api.path action arguments = endpoint.path action arguments := by
  rw [Api.path, Api.endpoint, h]
  rfl

theorem Api.path_unknown {api : Api} (h : api.endpoints.get? action = none) :
    api.path action arguments = .error (.unknownAction action) := by
  rw [Api.path, Api.endpoint, h]
  rfl

theorem Api.call_eq_error_iff {api : Api} :
    (∃ error, api.call action arguments = .error error) ↔
      ∃ error, api.path action arguments = .error error := by
  unfold Api.call Api.path
  cases api.endpoint action with
  | error error => exact ⟨fun _ => ⟨error, rfl⟩, fun _ => ⟨error, rfl⟩⟩
  | ok endpoint =>
    cases hpath : endpoint.path action arguments with
    | error error => exact ⟨fun _ => ⟨error, hpath⟩, fun _ => ⟨error, by simp [hpath, bind, Except.bind]⟩⟩
    | ok path => simp [hpath, bind, Except.bind, pure, Except.pure]

end

/-! ### Paths dispatched again -/

namespace Router

variable {router : Router α} {action path : String} {arguments : List String} {i : Nat}
  {route : Entry α}

/-- What keeps a path from being written: no route of the action, too few arguments, or an empty one
among those that the first route of the action takes. -/
def Refused (router : Router α) (action : String) (arguments : List String) : Prop :=
  (∀ route ∈ router.routes, route.action ≠ action) ∨
    ∃ i route, router.FirstOf action i route ∧
      (arguments.length < route.pattern.parameterCount ∨
        "" ∈ arguments.take route.pattern.parameterCount)

theorem FirstOf.refused_iff (h : router.FirstOf action i route) :
    router.Refused action arguments ↔ ¬route.pattern.Filled arguments := by
  rw [Pattern.Filled, Classical.not_and_iff_not_or_not, Nat.not_le, Classical.not_not]
  constructor
  · rintro (hunknown | ⟨j, other, hother, hrefused⟩)
    · exact absurd h.holds (hunknown route h.mem)
    · obtain ⟨_, rfl⟩ := h.unique hother
      exact hrefused
  · exact fun hrefused => .inr ⟨i, route, h, hrefused⟩

theorem FirstOf.path_eq (h : router.FirstOf action i route) :
    router.api.path action arguments = (Endpoint.ofEntry route).path action arguments :=
  Api.path_eq h.endpoint

theorem path_eq_error_iff :
    (∃ error, router.api.path action arguments = .error error) ↔
      router.Refused action arguments := by
  rcases router.first_or_unknown action with ⟨i, route, hfirst⟩ | hunknown
  · rw [hfirst.refused_iff, hfirst.path_eq]
    constructor
    · rintro ⟨error, herror⟩ hfilled
      rw [Endpoint.path_filled (.ofEntry route) hfilled] at herror
      cases herror
    · exact Endpoint.path_unfilled (.ofEntry route) action
  · exact ⟨fun _ => .inl hunknown, fun _ => ⟨_, Api.path_unknown (endpoint_unknown hunknown)⟩⟩

theorem FirstOf.path_eq_ok_iff (h : router.FirstOf action i route) :
    router.api.path action arguments = .ok path ↔
      route.pattern.Filled arguments ∧ path = route.pattern.resolve arguments := by
  rw [h.path_eq]
  by_cases hfilled : route.pattern.Filled arguments
  · rw [Endpoint.path_filled (.ofEntry route) hfilled, Except.ok.injEq]
    exact ⟨fun hpath => ⟨hfilled, hpath.symm⟩, fun hpath => hpath.2.symm⟩
  · have hunfilled := Endpoint.path_unfilled (.ofEntry route) action hfilled
    obtain ⟨error, herror⟩ := hunfilled
    rw [herror]
    exact ⟨fun hpath => (nomatch hpath), fun hpath => absurd hpath.1 hfilled⟩

theorem dispatch_plain (router : Router α) (method : Method) (hquery : '?' ∉ path.toList)
    (hfragment : '#' ∉ path.toList) :
    router.dispatch method path =
      (find? method path router.routes).map fun found => ⟨found.1, found.2, OrderedMap.empty⟩ := by
  have hpath : pathOf path.toList = path.toList := by
    rw [pathOf, Text.before_of_notMem hquery, Text.before_of_notMem hfragment]
  have hnothing : queryOf path.toList = [] := by
    rw [queryOf, Text.after_of_notMem hquery]
    rfl
  rw [dispatch, hpath, hnothing, String.ofList_toList]
  rfl

/-- A path that a client writes finds its way back to the action, or to an earlier route that takes
it; there is none exactly when the action or the arguments are refused. -/
theorem dispatch_of_path (hbuilt : router.Built) (action : String) (arguments : List String) :
    (∀ path, router.api.path action arguments = .ok path →
      ∃ i route j found, router.FirstOf action i route ∧
        router.api.method? action = some route.method ∧
        router.dispatch route.method path = some found ∧
        Route.First (Takes route.method path) router.routes j found.route ∧ j ≤ i ∧
        ((∀ earlier ∈ router.routes.take i,
            earlier.method = route.method → earlier.pattern.match? path = none) →
          j = i ∧ found = ⟨route, route.pattern.parameters.zip
            (arguments.take route.pattern.parameterCount), OrderedMap.empty⟩)) ∧
      ((∃ error, router.api.path action arguments = .error error) ↔
        router.Refused action arguments) ∧
      ((∃ error, router.api.call action arguments = .error error) ↔
        router.Refused action arguments) := by
  refine ⟨fun path hpath => ?_, path_eq_error_iff, Api.call_eq_error_iff.trans path_eq_error_iff⟩
  rcases router.first_or_unknown action with ⟨i, route, hfirst⟩ | hunknown
  · obtain ⟨⟨hlength, hnonempty⟩, rfl⟩ := hfirst.path_eq_ok_iff.mp hpath
    have hplain := hbuilt.plain route hfirst.mem
    have hnonempty : ∀ argument ∈ arguments.take route.pattern.parameterCount, argument ≠ "" := by
      rintro argument hargument rfl
      exact hnonempty hargument
    have hmatch := Pattern.match?_resolve hplain hlength hnonempty
    obtain ⟨hquery, hfragment⟩ := Pattern.notMem_resolve hplain hlength hnonempty
    have htakes : Takes route.method (route.pattern.resolve arguments) route := ⟨rfl, _, hmatch⟩
    obtain ⟨j, found, bindings, hfind, htaken, hbindings⟩ := exists_find? hfirst.mem htakes
    refine ⟨i, route, j, ⟨found, bindings, OrderedMap.empty⟩, hfirst, ?_, ?_, htaken,
      htaken.le hfirst.getElem? htakes, fun hfree => ?_⟩
    · rw [Api.method?, hfirst.endpoint]
      rfl
    · rw [dispatch_plain router _ hquery hfragment, hfind]
      rfl
    · -- Nothing before the route takes the path, so the route that is found is this one.
      have hi : Route.First (Takes route.method (route.pattern.resolve arguments)) router.routes i
          route := by
        refine ⟨hfirst.getElem?, htakes, ?_⟩
        rintro earlier hearlier ⟨hmethod, other, hother⟩
        cases (hfree earlier hearlier hmethod).symm.trans hother
      obtain ⟨hij, rfl⟩ := htaken.unique hi
      cases hbindings.symm.trans hmatch
      exact ⟨hij, rfl⟩
  · rw [Api.path_unknown (endpoint_unknown hunknown)] at hpath
    cases hpath

/-- Two tables, one after the other. -/
def items : Router Unit :=
  append ⟨[⟨"list", .get, ⟨"/items", [.literal "items"]⟩, (), none, none⟩]⟩
    ⟨[⟨"show", .get, ⟨"/items/:id", [.literal "items", .parameter "id"]⟩, (), none, none⟩]⟩

theorem built_items : items.Built := by
  have hlist : Router.compile (OrderedMap.ofList [("list", .ofMethod .get "/items" ())]) =
      .ok ⟨[⟨"list", .get, ⟨"/items", [.literal "items"]⟩, (), none, none⟩]⟩ := rfl
  have hshow : Router.compile (OrderedMap.ofList [("show", .ofMethod .get "/items/:id" ())]) =
      .ok ⟨[⟨"show", .get, ⟨"/items/:id", [.literal "items", .parameter "id"]⟩, (), none, none⟩]⟩ :=
    rfl
  exact .append (.compile hlist) (.compile hshow)

theorem dispatch_of_path_items :
    items.Built ∧ items.api.path "show" ["a/b?c #é%"] = .ok "/items/a%2Fb%3Fc%20%23%C3%A9%25" ∧
      ∃ found, items.dispatch .get "/items/a%2Fb%3Fc%20%23%C3%A9%25" = some found ∧
        found.route.action = "show" ∧ found.parameters = [("id", "a/b?c #é%")] := by
  have hpath : items.api.path "show" ["a/b?c #é%"] = .ok "/items/a%2Fb%3Fc%20%23%C3%A9%25" := rfl
  obtain ⟨i, route, j, found, hfirst, -, hdispatch, -, -, hfound⟩ :=
    (dispatch_of_path built_items "show" ["a/b?c #é%"]).1 _ hpath
  have hshow : items.FirstOf "show" 1
      ⟨"show", .get, ⟨"/items/:id", [.literal "items", .parameter "id"]⟩, (), none, none⟩ :=
    ⟨rfl, rfl, by simp [items, append]⟩
  obtain ⟨rfl, rfl⟩ := hfirst.unique hshow
  obtain ⟨rfl, rfl⟩ := hfound (by simp [items, append]; rfl)
  exact ⟨built_items, hpath, _, hdispatch, rfl, rfl⟩

end Router

end HtmlComponents.Route
