import HtmlComponents.OrderedMap
import HtmlComponents.Text.Percent
import HtmlComponents.Text.Pieces

/-!
# Query strings

Pairs of names and values, as in `a=1&b=two+words`.
-/

namespace HtmlComponents.Route

/-- A plus sign stands for a space; then escapes are decoded. -/
def decodeField (text : List Char) : String :=
  Text.Percent.decode (String.ofList (text.map fun c => if c = '+' then ' ' else c))

/-- A part of a query: a name, and a value after an equals sign. -/
def decodePair (part : List Char) : String × String :=
  (decodeField (Text.before '=' part), decodeField (Text.after '=' part))

/-- The decoded pairs of a query. Empty parts are skipped, and of several values for a name the
first counts. -/
def parseQuery (query : String) : OrderedMap String :=
  OrderedMap.ofListFirst
    (((Text.pieces '&' query.toList).filter fun part => !part.isEmpty).map decodePair)

end HtmlComponents.Route
