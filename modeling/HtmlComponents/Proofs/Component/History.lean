import HtmlComponents.Proofs.Component.Meaning

/-!
# Histories of a registry

After any requests, a registry holds the definitions that were registered last, and answers as a fresh
registry of these does (`serve_coherent`): neither what was compiled before nor what has failed before shows
in an answer. The order of registration shows in no rendering.
-/

namespace HtmlComponents.Component

/-- The definition that a request registers. One under an invalid name is not registered. -/
def Request.registered? : Request → Option Definition
  | .register definition => if isComponentName definition.name then some definition else none
  | _ => none

/-- The definitions that requests register, one after another. -/
def registrations (history : List Request) : List Definition :=
  history.filterMap Request.registered?

theorem registrations_cons (request : Request) (rest : List Request) :
    registrations (request :: rest) =
      match request.registered? with
      | none => registrations rest
      | some definition => definition :: registrations rest := by
  rw [registrations, List.filterMap_cons]
  cases request.registered? <;> rfl

theorem registrations_register {definitions : List Definition}
    (h : ∀ definition ∈ definitions, isComponentName definition.name = true) :
    registrations (definitions.map .register) = definitions := by
  rw [registrations, List.filterMap_map]
  refine (List.filterMap_congr fun definition hmem => ?_).trans List.filterMap_some
  exact if_pos (h definition hmem)

namespace Registry

/-- A registry with a new definition, in the place of one of the same name if there is one. -/
def put (registry : Registry) (definition : Definition)
    (h : isComponentName definition.name = true) : Registry :=
  registry.setEntry (.ofDefinition definition) h

variable {definition : Definition}

theorem names_put (registry : Registry) (h : isComponentName definition.name = true) :
    (registry.put definition h).names =
      if definition.name ∈ registry.names then registry.names
      else registry.names ++ [definition.name] := OrderedMap.keys_insert ..

theorem definition?_put (registry : Registry) (h : isComponentName definition.name = true)
    (name : String) :
    (registry.put definition h).definition? name =
      if name = definition.name then some definition else registry.definition? name :=
  registry.definition?_setEntry (.ofDefinition definition) h name

end Registry

namespace Session

variable {registry : Registry} {definition : Definition}

theorem run_register (registry : Registry) (definition : Definition) :
    (perform (.register definition)).run registry =
      match registry.register definition with
      | .ok changed => (.registered (.ok ()), changed)
      | .error e => (.registered (.error e), registry) := by
  show (Response.registered (register definition registry).1, (register definition registry).2) = _
  rw [register]
  cases registry.register definition <;> rfl

theorem run_register_valid (h : isComponentName definition.name = true) :
    (perform (.register definition)).run registry =
      (.registered (.ok ()), registry.put definition h) := by
  have hregister : registry.register definition = .ok (registry.put definition h) := dif_pos h
  rw [run_register, hregister]

theorem run_register_invalid (h : isComponentName definition.name = false) :
    (perform (.register definition)).run registry =
      (.registered (.error ⟨definition.name⟩), registry) := by
  have hregister : registry.register definition = .error ⟨definition.name⟩ := dif_neg (by simp [h])
  rw [run_register, hregister]

theorem fst_perform_render (chosen : Option Options) (name : String) (attributes : RawAttributes)
    (registry : Registry) :
    ((perform (.render chosen name attributes)).run registry).1 =
      .rendered ((render (chosen.getD registry.options) name attributes).run registry).1 := rfl

/-- A request leaves a registry the same, or puts a definition in it with nothing remembered. -/
theorem perform_cases (registry : Registry) (request : Request) :
    (request.registered? = none ∧ registry.Same ((perform request).run registry).2) ∨
      ∃ (definition : Definition) (h : isComponentName definition.name = true),
        request.registered? = some definition ∧
          ((perform request).run registry).2 = registry.put definition h := by
  by_cases hregister : ∃ definition, request = .register definition
  · obtain ⟨definition, rfl⟩ := hregister
    cases h : isComponentName definition.name with
    | true => exact .inr ⟨definition, h, if_pos h, congrArg Prod.snd (run_register_valid h)⟩
    | false =>
      rw [run_register_invalid h]
      exact .inl ⟨if_neg (by simp [h]), .refl registry⟩
  · have hstable := stable_perform fun definition h => hregister ⟨definition, h⟩
    refine .inl ⟨?_, hstable.keeps registry⟩
    cases request with
    | register definition => exact absurd ⟨definition, rfl⟩ hregister
    | _ => rfl

theorem fst_perform {a b : Registry} (h : a.Same b) (request : Request) :
    ((perform request).run a).1 = ((perform request).run b).1 := by
  by_cases hregister : ∃ definition, request = .register definition
  · obtain ⟨definition, rfl⟩ := hregister
    cases hname : isComponentName definition.name with
    | true => rw [run_register_valid hname, run_register_valid hname]
    | false => rw [run_register_invalid hname, run_register_invalid hname]
  · exact (stable_perform fun definition h => hregister ⟨definition, h⟩).result a b h

end Session

namespace Registry

variable {registry : Registry} {name : String}

theorem serve_cons (registry : Registry) (request : Request) (rest : List Request) :
    (registry.serve (request :: rest)).2 =
      (((Session.perform request).run registry).2.serve rest).2 := rfl

theorem options_serve (registry : Registry) (history : List Request) :
    (registry.serve history).2.options = registry.options := by
  induction history generalizing registry with
  | nil => rfl
  | cons request rest ih =>
    rw [serve_cons, ih]
    rcases Session.perform_cases registry request with ⟨-, hsame⟩ | ⟨definition, hvalid, -, hset⟩
    · exact hsame.options.symm
    · rw [hset]
      rfl

theorem names_serve (registry : Registry) (history : List Request) :
    (registry.serve history).2.names =
      (registry.names ++ (registrations history).map Definition.name).eraseDups := by
  induction history generalizing registry with
  | nil =>
    rw [registrations, List.filterMap_nil, List.map_nil, List.append_nil]
    exact (eraseDups_of_nodup registry.entries.nodup_keys).symm
  | cons request rest ih =>
    rw [serve_cons, ih, registrations_cons]
    rcases Session.perform_cases registry request with ⟨hnone, hsame⟩ | ⟨definition, hvalid, hsome, hset⟩
    · rw [hnone, hsame.names]
    · rw [hsome, hset, names_put, List.map_cons]
      split
      · -- a name that is there keeps its place
        rename_i hmem
        exact (eraseDups_append_cons hmem _).symm
      · rw [List.append_assoc]
        rfl

theorem definition?_serve (registry : Registry) (history : List Request) (name : String) :
    (registry.serve history).2.definition? name =
      ((registrations history).reverse.find? fun definition => definition.name == name).or
        (registry.definition? name) := by
  induction history generalizing registry with
  | nil => rfl
  | cons request rest ih =>
    rw [serve_cons, ih, registrations_cons]
    rcases Session.perform_cases registry request with ⟨hnone, hsame⟩ | ⟨definition, hvalid, hsome, hset⟩
    · rw [hnone, hsame.definition? name]
    · rw [hsome, hset, definition?_put, List.reverse_cons, List.find?_append, Option.or_assoc]
      congr 1
      by_cases hname : definition.name = name
      · simp [hname]
      · simp [hname, Ne.symm hname]

/-- The definitions of a registry, in the order of its names. -/
def definitions (registry : Registry) : List Definition :=
  registry.names.filterMap registry.definition?

theorem name_of_definition? {definition : Definition}
    (h : registry.definition? name = some definition) :
    definition.name = name ∧ isComponentName name = true := by
  obtain ⟨entry, hentry, rfl⟩ := Option.map_eq_some_iff.mp h
  exact registry.named name entry hentry

theorem exists_definition? (h : name ∈ registry.names) :
    ∃ definition, registry.definition? name = some definition := by
  refine Option.isSome_iff_exists.mp ?_
  rw [← contains_eq_isSome]
  exact contains_iff_mem_names.mpr h

theorem mem_definitions_iff {definition : Definition} :
    definition ∈ registry.definitions ↔ registry.definition? definition.name = some definition := by
  rw [definitions, List.mem_filterMap]
  constructor
  · rintro ⟨name, -, h⟩
    rwa [(name_of_definition? h).1]
  · exact fun h => ⟨_, mem_names_of_definition? h, h⟩

theorem map_name_definitions (registry : Registry) :
    registry.definitions.map Definition.name = registry.names := by
  rw [definitions, List.map_filterMap]
  refine (List.filterMap_congr fun name hname => ?_).trans List.filterMap_some
  obtain ⟨definition, h⟩ := exists_definition? hname
  rw [h]
  exact congrArg some (name_of_definition? h).1

theorem find?_definitions (registry : Registry) (name : String) :
    (registry.definitions.reverse.find? fun definition => definition.name == name) =
      registry.definition? name := by
  cases hfound : registry.definitions.reverse.find? fun definition => definition.name == name with
  | none =>
    cases h : registry.definition? name with
    | none => rfl
    | some definition =>
      obtain ⟨rfl, -⟩ := name_of_definition? h
      have hmem := List.mem_reverse.mpr (mem_definitions_iff.mpr h)
      exact absurd (beq_self_eq_true _) (List.find?_eq_none.mp hfound definition hmem)
  | some definition =>
    have hmem := mem_definitions_iff.mp (List.mem_reverse.mp (List.mem_of_find?_eq_some hfound))
    have hname : definition.name = name := by simpa using List.find?_some hfound
    rw [← hname, hmem]

/-- A registry in which the definitions of another were registered in the order of their names, and nothing
else was done. -/
def rebuilt (registry : Registry) : Registry :=
  ((empty registry.options).serve (registry.definitions.map .register)).2

theorem same_rebuilt (registry : Registry) : registry.Same registry.rebuilt := by
  have hregistrations : registrations (registry.definitions.map .register) = registry.definitions :=
    registrations_register fun definition h => (name_of_definition? (mem_definitions_iff.mp h)).2
  refine ⟨?_, fun name => ?_, ?_⟩
  · rw [rebuilt, names_serve, hregistrations, map_name_definitions]
    exact (eraseDups_of_nodup registry.entries.nodup_keys).symm
  · rw [rebuilt, definition?_serve, hregistrations, find?_definitions]
    exact Option.or_none.symm
  · rw [rebuilt, options_serve]
    rfl

theorem perm_names {a b : Registry} (h : ∀ name, a.definition? name = b.definition? name) :
    a.names.Perm b.names := by
  refine (List.perm_ext_iff_of_nodup a.entries.nodup_keys b.entries.nodup_keys).mpr fun name => ?_
  have hcontains : a.contains name = b.contains name := by
    rw [contains_eq_isSome, contains_eq_isSome, h]
  exact contains_iff_mem_names.symm.trans (hcontains ▸ contains_iff_mem_names)

end Registry

namespace Session

variable {a b : Registry}

/-- Rendering hangs on what is registered under every name and not on the order of the names. -/
theorem fst_render_congr (h : a.definition? = b.definition?) (options : Options) (name : String)
    (attributes : RawAttributes) :
    ((render options name attributes).run a).1 = ((render options name attributes).run b).1 := by
  have hactive : ((Scope.outside a).enter name).active = ((Scope.outside b).enter name).active := rfl
  have hidle : ((Scope.outside a).enter name).idle.Perm ((Scope.outside b).enter name).idle :=
    (Registry.perm_names (congrFun h)).erase name
  rw [fst_render, fst_render, h]
  congr 1
  funext ⟨markup, css⟩
  exact congrArg (fun inner => Output.ofOutcome (.styled name css inner))
    (Library.outcome_perm hactive hidle markup.chars)

theorem fst_expandHtml_congr (h : a.definition? = b.definition?) (options : Options) (html : String) :
    ((expandHtml options html).run a).1 = ((expandHtml options html).run b).1 := by
  have hactive : (Scope.outside a).active = (Scope.outside b).active := rfl
  have hidle : (Scope.outside a).idle.Perm (Scope.outside b).idle := Registry.perm_names (congrFun h)
  rw [fst_expandHtml, fst_expandHtml, h]
  exact congrArg Output.ofOutcome (Library.outcome_perm hactive hidle html.toList)

end Session

/-- After any requests, the names of a registry are those under which something was registered, in the order
of their first registration, and under each name stands what was registered there last; a registration
under an invalid name has changed nothing. Every request is then answered as by a registry in which nothing
was done but to register the definitions that are there now, and a rendering also as by a registry that
came to the same definitions by any other requests. -/
theorem serve_coherent (options : Options) (history : List Request) :
    let registry := ((Registry.empty options).serve history).2
    registry.names = ((registrations history).map Definition.name).eraseDups ∧ registry.names.Nodup ∧
    (∀ name, registry.definition? name =
      (registrations history).reverse.find? fun definition => definition.name == name) ∧
    (∀ name definition, registry.definition? name = some definition → definition.name = name) ∧
    (∀ definition, isComponentName definition.name = false →
      (Session.perform (.register definition)).run registry =
        (.registered (.error ⟨definition.name⟩), registry)) ∧
    (∀ request, ((Session.perform request).run registry).1 =
      ((Session.perform request).run registry.rebuilt).1) ∧
    ∀ other, let reordered := ((Registry.empty options).serve other).2
      (∀ name, reordered.definition? name = registry.definition? name) →
        (∀ chosen name attributes,
          ((Session.perform (.render chosen name attributes)).run reordered).1 =
            ((Session.perform (.render chosen name attributes)).run registry).1) ∧
        ∀ chosen html, ((Session.perform (.expand chosen html)).run reordered).1 =
          ((Session.perform (.expand chosen html)).run registry).1 := by
  intro registry
  refine ⟨?_, registry.entries.nodup_keys, fun name => ?_, fun name definition h => ?_,
    fun definition h => Session.run_register_invalid h,
    fun request => Session.fst_perform registry.same_rebuilt request, ?_⟩
  · exact Registry.names_serve (Registry.empty options) history
  · exact (Registry.definition?_serve (Registry.empty options) history name).trans Option.or_none
  · exact (Registry.name_of_definition? h).1
  · intro other reordered h
    have hdefinitions : reordered.definition? = registry.definition? := funext h
    have hoptions : reordered.options = registry.options :=
      ((Registry.empty options).options_serve other).trans
        ((Registry.empty options).options_serve history).symm
    refine ⟨fun chosen name attributes => ?_, fun chosen html => ?_⟩
    · rw [Session.fst_perform_render, Session.fst_perform_render, hoptions,
        Session.fst_render_congr hdefinitions]
    · exact congrArg Response.expanded (Session.fst_expandHtml_congr hdefinitions chosen html)

/-- A component that renders a word. -/
def word (name text : String) : Definition where
  name := name
  styles := OrderedMap.empty
  routes := OrderedMap.empty
  render := some fun _ _ => .done (.ok (.text text))
  properties := .inferred

/-- A component is replaced after it was compiled and rendered. -/
def replacing : List Request :=
  [.register (word "first" "old"), .compile "first", .render none "first" OrderedMap.empty,
    .register (word "Not a name" "none"), .register (word "second" "other"),
    .register (word "first" "new")]

/-- The same definitions in another order. -/
def reordering : List Request := [word "second" "other", word "first" "new"].map .register

theorem registrations_replacing : registrations replacing =
    [word "first" "old", word "second" "other", word "first" "new"] := by
  have hfirst : isComponentName "first" = true := by decide +kernel
  have hsecond : isComponentName "second" = true := by decide +kernel
  have hinvalid : isComponentName "Not a name" = false := by decide +kernel
  simp only [replacing, registrations_cons, Request.registered?, word, hfirst, hsecond, hinvalid,
    if_true, Bool.false_eq_true, if_false]
  rfl

theorem serve_coherent_replacing :
    let registry := ((Registry.empty .standard).serve replacing).2
    let reordered := ((Registry.empty .standard).serve reordering).2
    registry.names = ["first", "second"] ∧ reordered.names = ["second", "first"] ∧
      (∀ name, reordered.definition? name = registry.definition? name) ∧
      ((Session.perform (.render none "first" OrderedMap.empty)).run reordered).1 =
        ((Session.perform (.render none "first" OrderedMap.empty)).run registry).1 := by
  intro registry reordered
  obtain ⟨hnames, -, hdefinition, -, -, -, hreordered⟩ := serve_coherent .standard replacing
  obtain ⟨hnames', -, hdefinition', -⟩ := serve_coherent .standard reordering
  have hregistrations : registrations reordering = [word "second" "other", word "first" "new"] := by
    refine registrations_register fun definition h => ?_
    rcases List.mem_pair.mp h with rfl | rfl <;> decide +kernel
  rw [registrations_replacing] at hnames hdefinition
  rw [hregistrations] at hnames' hdefinition'
  have hsame : ∀ name, reordered.definition? name = registry.definition? name := by
    intro name
    rw [hdefinition', hdefinition]
    by_cases hfirst : name = "first"
    · simp [hfirst, word]
    · simp [word, List.find?_cons, beq_false_of_ne (Ne.symm hfirst)]
  exact ⟨hnames.trans (by decide +kernel), hnames'.trans (by decide +kernel), hsame,
    (hreordered reordering hsame).1 none "first" OrderedMap.empty⟩

end HtmlComponents.Component
