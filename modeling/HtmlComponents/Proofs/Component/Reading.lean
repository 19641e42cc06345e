import HtmlComponents.Component.Reading
import HtmlComponents.Proofs.Property.Schema

/-!
# Reads with and without a schema

A render function may ask for a property that its schema holds, or for one that inference never saw. The
first is answered from the last text that the attributes write for it and the second from the first one.
`read_withAttributes_iff`: the two agree exactly when these texts give the same value.
-/

namespace HtmlComponents.Component.Props

open Property (Schema Value Values writtenTexts)

variable {schema : Schema} {attributes : RawAttributes} {values : Values} {name : String}
  {default : Value}

theorem get?_raw (values : Values) (attributes : RawAttributes) (name : String) :
    (withAttributes values attributes).raw.get? name = (writtenTexts attributes name).head? := by
  rw [withAttributes, OrderedMap.get?_ofListFirst, OrderedMap.lookup_eq_head?,
    Property.filter_renamed]

/-- A property of the schema is read from the last text written for it. -/
theorem read_of_parse (hname : schema.defaults.get? name = some default)
    (hparse : schema.parse attributes = .ok values) :
    (withAttributes values attributes).read name default =
      readRaw name default (writtenTexts attributes name).getLast? := by
  obtain ⟨value, hvalue, htext⟩ := Schema.get?_parse hname hparse
  have hget : (withAttributes values attributes).values.get? name = some value := hvalue
  have hraw : readRaw name default (writtenTexts attributes name).getLast? = value := by
    rw [readRaw, htext]
  rw [read, hget, hraw]
  exact if_pos (Property.kind_parse htext)

/-- A property without a typed value is read from the first text written for it. -/
theorem read_of_unrecorded (attributes : RawAttributes) (name : String) (default : Value) :
    (withAttributes OrderedMap.empty attributes).read name default =
      readRaw name default (writtenTexts attributes name).head? := by
  have hget : (withAttributes OrderedMap.empty attributes).values.get? name = none := rfl
  rw [read, hget, get?_raw]

/-- A read hangs on whether inference has reached it only where attributes of one property have
different texts: it is the same exactly when the last and the first of them give the same value. -/
theorem read_withAttributes_iff (hname : schema.defaults.get? name = some default)
    (hparse : schema.parse attributes = .ok values) :
    ((withAttributes values attributes).read name default =
        (withAttributes OrderedMap.empty attributes).read name default ↔
      readRaw name default (writtenTexts attributes name).getLast? =
        readRaw name default (writtenTexts attributes name).head?) ∧
    ((writtenTexts attributes name).length ≤ 1 →
      (withAttributes values attributes).read name default =
        (withAttributes OrderedMap.empty attributes).read name default) := by
  rw [read_of_parse hname hparse, read_of_unrecorded]
  refine ⟨Iff.rfl, fun hlength => ?_⟩
  match writtenTexts attributes name, hlength with
  | [], _ => rfl
  | [_], _ => rfl

/-- A schema of one property. -/
def maxCount : Schema := Schema.empty.insert "maxCount" (.string "none")

theorem read_one_spelling :
    maxCount.defaults.get? "maxCount" = some (.string "none") ∧
      maxCount.parse (OrderedMap.ofList [("max-count", "1")]) =
        .ok (OrderedMap.ofList [("maxCount", .string "1")]) ∧
      (withAttributes (OrderedMap.ofList [("maxCount", .string "1")])
          (OrderedMap.ofList [("max-count", "1")])).read "maxCount" (.string "none") =
        (withAttributes OrderedMap.empty (OrderedMap.ofList [("max-count", "1")])).read "maxCount"
          (.string "none") := by
  have hname : maxCount.defaults.get? "maxCount" = some (.string "none") := rfl
  have hparse : maxCount.parse (OrderedMap.ofList [("max-count", "1")]) =
      .ok (OrderedMap.ofList [("maxCount", .string "1")]) := rfl
  exact ⟨hname, hparse, (read_withAttributes_iff hname hparse).2 (by decide +kernel)⟩

/-- Of two spellings of one attribute the schema has the second one read, and a read that inference never
saw takes the first. -/
theorem read_two_spellings :
    let attributes := OrderedMap.ofList [("max-count", "1"), ("maxCount", "2")]
    ∃ values, maxCount.parse attributes = .ok values ∧
      (withAttributes values attributes).read "maxCount" (.string "none") = .string "2" ∧
      (withAttributes OrderedMap.empty attributes).read "maxCount" (.string "none") = .string "1" :=
  ⟨OrderedMap.ofList [("maxCount", .string "2")], rfl, rfl, rfl⟩

end HtmlComponents.Component.Props
