import HtmlComponents.Text.Case
import HtmlComponents.Text.Cluster

/-!
# Words of an identifier

An identifier is read as words: hyphens, underscores and spaces separate them, and a word also
starts at a change of case or between letters and digits. The words are written again in kebab case
or in camel case.
-/

namespace HtmlComponents.Text.Words

def isSeparator (cluster : Cluster) : Bool :=
  cluster == ['-'] || cluster == ['_'] || cluster == [' ']

/-- A cluster with case that is its own upper case form. -/
def isUpper (cluster : Cluster) : Bool :=
  Case.upper cluster != Case.lower cluster && cluster == Case.upper cluster

/-- A cluster with case that is its own lower case form. -/
def isLower (cluster : Cluster) : Bool :=
  Case.upper cluster != Case.lower cluster && cluster == Case.lower cluster

def isNumeral (cluster : Cluster) : Bool := cluster.all Char.isDigit

/-- Whether a word starts between two clusters that stand side by side. -/
def changes (left right : Cluster) : Bool :=
  (isLower left && isUpper right) || (isUpper left && isNumeral right) ||
    (isNumeral left && isUpper right) || (isNumeral left && isLower right) ||
    (isLower left && isNumeral right)

/-- Whether a word starts at a cluster: after a change, or at the last capital of several when a
small letter follows it. -/
def starts (before : Option Cluster) (here : Cluster) (after : Option Cluster) : Bool :=
  match before with
  | none => false
  | some left =>
    changes left here ||
      match after with
      | some right => isUpper left && isUpper here && isLower right
      | none => false

/-- The words from here on, given the cluster before and the word so far. -/
def splitFrom (before : Option Cluster) (word : List Char) : List Cluster → List (List Char)
  | [] => [word]
  | here :: rest =>
    if isSeparator here then word :: splitFrom (some here) [] rest
    else if starts before here rest.head? then word :: splitFrom (some here) here rest
    else splitFrom (some here) (word ++ here) rest

/-- The words of an identifier; none is empty. -/
def split (text : List Char) : List (List Char) :=
  (splitFrom none [] (Cluster.split text)).filter fun word => !word.isEmpty

/-- A word with its first character in upper case and the rest in lower case. -/
def capitalized (word : List Char) : List Char :=
  match word with
  | [] => []
  | first :: rest => Case.upperChar first ++ Case.lower rest

/-- Lower case words with hyphens between them. -/
def kebab (text : String) : String :=
  String.ofList (['-'].intercalate ((split text.toList).map Case.lower))

/-- A lower case word and capitalized words after it, without separators. -/
def camel (text : String) : String :=
  match split text.toList with
  | [] => ""
  | first :: rest => String.ofList (Case.lower first ++ rest.flatMap capitalized)

end HtmlComponents.Text.Words
