/-!
# Names of tags

Tag names are compared without regard to the case of ASCII letters. Some names decide how an element
is read and written.
-/

namespace HtmlComponents

/-- Whether two names are equal up to the case of ASCII letters. -/
def sameName (a b : String) : Bool := a.toLower == b.toLower

/-- Void elements have neither content nor an end tag. -/
def voidElements : List String :=
  ["area", "base", "br", "col", "embed", "hr", "img", "input", "link", "meta", "source", "track",
    "wbr"]

def isVoid (tag : String) : Bool := voidElements.any (sameName · tag)

/-- Elements whose content is text up to their end tag. -/
def rawTextElements : List String := ["script", "style", "textarea", "title"]

def isRawText (tag : String) : Bool := rawTextElements.any (sameName · tag)

theorem sameName_refl (a : String) : sameName a a = true := by simp [sameName]

end HtmlComponents
