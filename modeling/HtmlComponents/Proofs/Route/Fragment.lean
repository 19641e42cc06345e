import HtmlComponents.Proofs.OrderedMap
import HtmlComponents.Proofs.Text.Pieces
import HtmlComponents.Route.Router

/-!
# Fragments of request targets

A fragment behind a target changes neither the route nor the parameters that a router finds. The query is
what follows the first question mark of the target, and if the target has none, that of the fragment:
`dispatch_fragment_iff` says when the whole answer stays the same.
-/

namespace HtmlComponents.Route

theorem parseQuery_eq_empty_iff (query : String) :
    parseQuery query = OrderedMap.empty ↔ ∀ c ∈ query.toList, c = '&' := by
  rw [← Text.pieces_empty_iff, parseQuery, OrderedMap.ofListFirst_eq_empty_iff, List.map_eq_nil_iff,
    List.filter_eq_nil_iff]
  simp

namespace Router

variable {α : Type} {target : List Char}

theorem pathOf_fragment (h : '#' ∉ target) (fragment : List Char) :
    pathOf (target ++ '#' :: fragment) = pathOf target := by
  by_cases hquery : '?' ∈ target
  · rw [pathOf, Text.before_append_of_mem hquery, pathOf]
  · have hhash : Text.before '?' ('#' :: fragment) = '#' :: Text.before '?' fragment := rfl
    rw [pathOf, Text.before_append_of_notMem hquery, hhash, Text.before_append_of_notMem h, pathOf,
      Text.before_of_notMem hquery, Text.before_of_notMem h]
    exact List.append_nil target

theorem queryOf_of_notMem (h : '?' ∉ target) : queryOf target = [] := by
  rw [queryOf, Text.after_of_notMem h]
  rfl

/-- A question mark in the fragment starts the query if there is none before it. -/
theorem queryOf_fragment (h : '#' ∉ target) (fragment : List Char) :
    queryOf (target ++ '#' :: fragment) =
      if '?' ∈ target then queryOf target else queryOf fragment := by
  split
  · rename_i hquery
    have hafter : '#' ∉ Text.after '?' target := Text.notMem_after h
    rw [queryOf, Text.after_append_of_mem hquery, Text.before_append_of_notMem hafter, queryOf,
      Text.before_of_notMem hafter]
    exact List.append_nil _
  · rename_i hquery
    rw [queryOf, Text.after_append_of_notMem hquery]
    rfl

theorem dispatch_fragment (router : Router α) (method : Method) {target : String}
    (h : '#' ∉ target.toList) (fragment : String) :
    router.dispatch method (target ++ "#" ++ fragment) =
      (router.dispatch method target).map fun found =>
        if '?' ∈ target.toList then found
        else { found with query := parseQuery (String.ofList (queryOf fragment.toList)) } := by
  have hchars : (target ++ "#" ++ fragment).toList = target.toList ++ '#' :: fragment.toList := by
    simp
  rw [dispatch, dispatch, hchars, pathOf_fragment h, queryOf_fragment h, Option.map_map]
  congr 1
  funext found
  by_cases hquery : '?' ∈ target.toList <;> simp [hquery]

/-- What a fragment does to the answer to a request: the route and the parameters stay, and the query
stays unless the target has none and the fragment has one. -/
theorem dispatch_fragment_iff (router : Router α) (method : Method) (target fragment : String)
    (h : '#' ∉ target.toList) :
    ((router.dispatch method (target ++ "#" ++ fragment)).map fun found =>
        (found.route, found.parameters)) =
      ((router.dispatch method target).map fun found => (found.route, found.parameters)) ∧
    (router.dispatch method (target ++ "#" ++ fragment) = router.dispatch method target ↔
      router.dispatch method target = none ∨ '?' ∈ target.toList ∨
        ∀ c ∈ queryOf fragment.toList, c = '&') := by
  rw [dispatch_fragment router method h]
  cases hfound : router.dispatch method target with
  | none => simp
  | some found =>
    by_cases hquery : '?' ∈ target.toList
    · simp [hquery]
    · -- a target without a question mark has no query of its own
      obtain ⟨⟨route, bindings⟩, -, hread⟩ := Option.map_eq_some_iff.mp hfound
      rw [queryOf_of_notMem hquery] at hread
      subst hread
      have hempty := parseQuery_eq_empty_iff (String.ofList (queryOf fragment.toList))
      rw [String.toList_ofList] at hempty
      have hnone : parseQuery (String.ofList []) = OrderedMap.empty := rfl
      simp [hquery, hnone, hempty]

/-- A router with one route and a query that is empty but for its separators. -/
def page : Router Unit := ⟨[⟨"show", .get, ⟨"/:id", [.parameter "id"]⟩, (), none, none⟩]⟩

theorem dispatch_fragment_page :
    '#' ∉ "/a?x=1".toList ∧
      page.dispatch .get ("/a?x=1" ++ "#" ++ "b?x=2&y=3#c") = page.dispatch .get "/a?x=1" :=
  ⟨by decide, (dispatch_fragment_iff page .get _ _ (by decide)).2.mpr (.inr (.inl (by decide)))⟩

/-- A question mark in a fragment is taken for the start of the query. -/
theorem fragment_read_as_query :
    '#' ∉ "/a".toList ∧ (page.dispatch .get "/a").isSome = true ∧
      (page.dispatch .get ("/a" ++ "#" ++ "b?x=1")).map (fun found => found.query.toList) =
        some [("x", "1")] ∧
      (page.dispatch .get "/a").map (fun found => found.query.toList) = some [] := by
  refine ⟨by decide, rfl, by decide +kernel, by decide +kernel⟩

end Router

end HtmlComponents.Route
