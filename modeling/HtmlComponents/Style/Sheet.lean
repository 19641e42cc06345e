import HtmlComponents.OrderedMap
import HtmlComponents.Style.Error
import HtmlComponents.Style.Rule

/-!
# Stylesheets

A style table becomes a stylesheet, with one rule for each entry, and a map from keys to classes.
-/

namespace HtmlComponents

namespace Style

/-- Style texts by key, as a component is written with them. -/
abbrev Table := OrderedMap String

/-- Classes by style key. -/
abbrev ClassMap := OrderedMap String

/-- The class of a key. -/
def classOf (classes : ClassMap) (key : String) : Except Error String :=
  match classes.get? key with
  | some name => .ok name
  | none => .error (.unknownKey key)

structure Sheet where
  css : String
  classes : ClassMap

/-- The rules of the entries of a table, up to the first error. `generated` holds the classes that
keys generated so far, each with its key. -/
def rules (generated : List (String × String)) :
    List (String × String) → Except Error (List (String × Rule))
  | [] => .ok []
  | (key, text) :: rest =>
    if !isBalanced text.toList then .error (.unbalancedBlock key)
    else
      let rule := Rule.ofEntry key (Text.trimChars text.toList)
      if rule.isGenerated then
        match generated.lookup rule.className with
        | some first => .error (.classCollision rule.className first key)
        | none => (rules ((rule.className, key) :: generated) rest).map ((key, rule) :: ·)
      else (rules generated rest).map ((key, rule) :: ·)

/-- The stylesheet of a table. -/
def compile (table : Table) : Except Error Sheet :=
  (rules [] table.entries).map fun rules =>
    { css := "\n".intercalate (rules.map fun entry => entry.2.css)
      classes := OrderedMap.ofList (rules.map fun entry => (entry.1, entry.2.className)) }

end Style

end HtmlComponents
