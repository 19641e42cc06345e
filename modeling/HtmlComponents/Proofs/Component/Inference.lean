import HtmlComponents.Proofs.Component.Reading
import HtmlComponents.Proofs.Component.Registry
import HtmlComponents.Component.Expansion

/-!
# Inference and rendering without attributes

The schema of a component is inferred by a run of its render function in which every question is answered
with its default. A tag without attributes has these answers too, so the render function asks the same
questions again and gives the same markup (`inference_predicts_rendering`).
-/

namespace HtmlComponents

namespace Component

open Property (Schema Value)

/-- A typed question for a property, with its default and the answer. -/
structure Question where
  name : String
  default : Value
  answer : Value

/-- Questions for one property all have one default. -/
def Question.Uniform (questions : List Question) : Prop :=
  ∀ q ∈ questions, ∀ r ∈ questions, q.name = r.name → q.default = r.default

namespace Reading

variable {α : Type} {reading : Reading α}

/-- The typed questions of a run with answers from given properties. -/
def asked (props : Props) : Reading α → List Question
  | done _ => []
  | read name default next =>
    ⟨name, default, props.read name default⟩ :: (next (props.read name default)).asked props
  | find name next => (next (props.values.get? name)).asked props
  | isRecording next => (next false).asked props

/-- The typed questions of a run with defaults as answers. -/
def recorded : Reading α → List Question
  | done _ => []
  | read name default next => ⟨name, default, default⟩ :: (next default).recorded
  | find _ next => (next none).recorded
  | isRecording next => (next true).recorded

/-- Computations that ask typed questions only. -/
inductive Typed : Reading α → Prop
  | done (result : α) : Typed (.done result)
  | read {name : String} {default : Value} {next : Value → Reading α}
      (h : ∀ value, Typed (next value)) : Typed (.read name default next)

/-- Where the answers are the defaults, a run asks what was recorded and ends in the same way. -/
theorem Typed.asked_eq_recorded {props : Props} (h : reading.Typed) (schema : Schema)
    (hanswers : ∀ q ∈ reading.recorded, props.read q.name q.default = q.default) :
    reading.asked props = reading.recorded ∧ reading.run props = (reading.record schema).1 := by
  induction h generalizing schema with
  | done result => exact ⟨rfl, rfl⟩
  | @read name default next _ ih =>
    obtain ⟨hfirst, hrest⟩ := List.forall_mem_cons.mp hanswers
    obtain ⟨hasked, hrun⟩ := ih default (schema.insert name default) hrest
    rw [asked, recorded, run, record, hfirst]
    exact ⟨congrArg (_ :: ·) hasked, hrun⟩

theorem snd_record (reading : Reading α) (schema : Schema) :
    (reading.record schema).2.defaults =
      reading.recorded.foldl (fun defaults q => defaults.insertNew q.name q.default)
        schema.defaults := by
  induction reading generalizing schema with
  | done result => rfl
  | read name default next ih => exact ih default (schema.insert name default)
  | find name next ih => exact ih none schema
  | isRecording next ih => exact ih true schema

theorem get?_record (huniform : Question.Uniform reading.recorded) :
    ∀ q ∈ reading.recorded,
      (reading.record Schema.empty).2.defaults.get? q.name = some q.default := by
  intro q hq
  have hdefaults : (reading.record Schema.empty).2.defaults =
      OrderedMap.ofListFirst (reading.recorded.map fun q => (q.name, q.default)) := by
    rw [snd_record, OrderedMap.ofListFirst, List.foldl_map]
    rfl
  rw [hdefaults, OrderedMap.get?_ofListFirst]
  cases hfound : (reading.recorded.map fun q => (q.name, q.default)).lookup q.name with
  | none =>
    have habsent := OrderedMap.lookup_eq_none_iff.mp hfound
    rw [List.map_map] at habsent
    exact absurd (List.mem_map_of_mem hq) habsent
  | some default =>
    obtain ⟨before, behind, hsplit, -⟩ := List.lookup_eq_some_iff.mp hfound
    have hmem : (q.name, default) ∈ reading.recorded.map fun q => (q.name, q.default) := by
      rw [hsplit]
      exact List.mem_append_right _ List.mem_cons_self
    obtain ⟨r, hr, heq⟩ := List.mem_map.mp hmem
    obtain ⟨hname, rfl⟩ := Prod.mk.inj heq
    rw [huniform r hr q hq hname]

end Reading

namespace Definition

variable {definition : Definition} {compiled : Compiled}

theorem read_recorded {α : Type} {reading : Reading α} {schema : Schema}
    (huniform : Question.Uniform reading.recorded) (hschema : (reading.record Schema.empty).2 = schema) :
    ∀ q ∈ reading.recorded,
      (Props.withAttributes schema.defaults OrderedMap.empty).read q.name q.default = q.default := by
  intro q hq
  have hget : (Props.withAttributes schema.defaults OrderedMap.empty).values.get? q.name =
      some q.default := hschema ▸ Reading.get?_record huniform q hq
  rw [Props.read, hget]
  exact if_pos rfl

theorem compile_inferred (hinferred : definition.properties = .inferred) {sheet : Style.Sheet}
    {router : Route.Router Handler} (hprepare : definition.prepare = .ok (sheet, router)) :
    definition.compile =
      match (definition.rendering router.api sheet.classes).record Schema.empty with
      | (.ok _, schema) => .ok ⟨sheet.css, sheet.classes, router, schema⟩
      | (.error failure, _) => .error (.ofInference definition.name failure) := by
  rw [compile, derive_of_ok hprepare, schema, hinferred]
  dsimp only [inferSchema, call]
  rcases (definition.rendering router.api sheet.classes).record Schema.empty with ⟨result, schema⟩
  cases result <;> rfl

theorem record_of_compile (hinferred : definition.properties = .inferred)
    (h : definition.compile = .ok compiled) :
    ∃ markup, (definition.rendering compiled.api compiled.classes).record Schema.empty =
      (.ok markup, compiled.schema) := by
  obtain ⟨sheet, router, -, hprepare, -⟩ := exists_of_compile_eq_ok h
  rw [compile_inferred hinferred hprepare] at h
  split at h
  · rename_i markup schema hrecord
    cases h
    exact ⟨markup, hrecord⟩
  · cases h

end Definition

/-- Rendering a component succeeds if its tag renders; what fails inside is collected. -/
theorem Session.exists_output {registry : Registry} {name : String} {attributes : RawAttributes}
    {rendered : Markup × String} (options : Options)
    (h : ((renderTag name attributes).run registry).1 = .ok rendered) :
    ∃ output, ((render options name attributes).run registry).1 = .ok output := by
  rw [render, run_bind, run_get, run_bind, h]
  exact ⟨_, rfl⟩

/-- Inference predicts rendering without attributes: a component that compiles asks the same questions
again, gets the same answers and renders the same markup. A run with defaults that fails keeps the component
from compiling, and the error names the component. -/
theorem inference_predicts_rendering (definition : Definition)
    (hinferred : definition.properties = .inferred) :
    (∀ compiled, definition.compile = .ok compiled →
      let rendering := definition.rendering compiled.api compiled.classes
      rendering.Typed → Question.Uniform rendering.recorded →
        ∃ props markup, definition.props compiled.schema OrderedMap.empty = .ok props ∧
          rendering.record Schema.empty = (.ok markup, compiled.schema) ∧
          rendering.asked props = rendering.recorded ∧ rendering.run props = .ok markup ∧
          ∀ options registry, registry.definition? definition.name = some definition →
            ((Session.renderTag definition.name OrderedMap.empty).run registry).1 =
                .ok (markup, compiled.css) ∧
              ∃ output, ((Session.render options definition.name OrderedMap.empty).run registry).1 =
                .ok output) ∧
    ∀ sheet router failure, definition.prepare = .ok (sheet, router) →
      ((definition.rendering router.api sheet.classes).record Schema.empty).1 = .error failure →
        definition.compile = .error (match failure with
          | .failed reason => .schemaInference definition.name reason
          | .route cause => .route definition.name cause
          | .style cause => .style definition.name cause) := by
  constructor
  · intro compiled hcompile rendering htyped huniform
    obtain ⟨markup, hrecord⟩ := Definition.record_of_compile hinferred hcompile
    have hprops : definition.props compiled.schema OrderedMap.empty =
        .ok (Props.withAttributes compiled.schema.defaults OrderedMap.empty) := by
      rw [Definition.props, hinferred]
      simp only [Schema.parse_empty]
    obtain ⟨hasked, hrun⟩ := htyped.asked_eq_recorded Schema.empty
      (Definition.read_recorded huniform (congrArg Prod.snd hrecord))
    rw [hrecord] at hrun
    refine ⟨_, markup, hprops, hrecord, hasked, hrun, fun options registry hregistered => ?_⟩
    have hrendered : ((Session.renderTag definition.name OrderedMap.empty).run registry).1 =
        .ok (markup, compiled.css) := by
      rw [(Session.run_renderTag _ _ registry).1, hregistered]
      simp only [Definition.renderTag, hcompile, hprops]
      rw [hrun]
    exact ⟨hrendered, Session.exists_output options hrendered⟩
  · intro sheet router failure hprepare hfailure
    rw [Definition.compile_inferred hinferred hprepare]
    split
    · rename_i markup schema hrecord
      rw [hrecord] at hfailure
      cases hfailure
    · rename_i other schema hrecord
      rw [hrecord] at hfailure
      cases hfailure
      cases failure <;> rfl

/-- A component that asks for its title only if it is open, and for its state twice. -/
def panel : Definition where
  name := "panel"
  styles := OrderedMap.empty
  routes := OrderedMap.empty
  render := some fun _ _ => .read "open" (.boolean true) fun
    | .boolean true => .read "mainTitle" (.string "none") fun
      | .string title => .read "open" (.boolean true) fun _ => .done (.ok (.text title))
      | _ => .done (.error (.failed "no title"))
    | _ => .done (.error (.failed "closed"))
  properties := .inferred

theorem inference_predicts_rendering_panel :
    panel.properties = .inferred ∧ ∃ compiled, panel.compile = .ok compiled ∧
      (panel.rendering compiled.api compiled.classes).Typed ∧
      Question.Uniform (panel.rendering compiled.api compiled.classes).recorded ∧
      ∃ props, panel.props compiled.schema OrderedMap.empty = .ok props ∧
        (panel.rendering compiled.api compiled.classes).asked props =
          [⟨"open", .boolean true, .boolean true⟩, ⟨"mainTitle", .string "none", .string "none"⟩,
            ⟨"open", .boolean true, .boolean true⟩] ∧
        (panel.rendering compiled.api compiled.classes).run props = .ok (.text "none") := by
  obtain ⟨compiled, hcompile⟩ : ∃ compiled, panel.compile = .ok compiled := ⟨_, rfl⟩
  have htyped : (panel.rendering compiled.api compiled.classes).Typed := by
    refine .read fun value => ?_
    split
    · refine .read fun value => ?_
      split
      · exact .read fun _ => .done _
      · exact .done _
    · exact .done _
  have huniform : Question.Uniform (panel.rendering compiled.api compiled.classes).recorded := by
    intro q hq r hr hname
    simp only [panel, Definition.rendering, Reading.recorded, List.mem_cons, List.not_mem_nil,
      or_false] at hq hr
    rcases hq with rfl | rfl | rfl <;> rcases hr with rfl | rfl | rfl <;> simp_all
  obtain ⟨props, markup, hprops, hrecord, hasked, hrun, -⟩ :=
    (inference_predicts_rendering panel rfl).1 compiled hcompile htyped huniform
  refine ⟨rfl, compiled, hcompile, htyped, huniform, props, hprops, hasked, hrun.trans ?_⟩
  exact (congrArg Prod.fst hrecord).symm

end Component

end HtmlComponents
