import DocPortal.Json.Basic

/-!
# Head tags and links

The parts of a page that are copied from the settings: tags of the document head and links of the
navigation bar.
-/

namespace DocPortal

/-- A tag of the document head. Attributes keep their order, and a name may stand more than once. -/
structure HeadTag where
  tag : String
  attrs : List (String × String)
  deriving DecidableEq, Repr

namespace HeadTag

/-- A link tag. -/
def link (attrs : List (String × String)) : HeadTag := ⟨"link", attrs⟩

/-- A meta tag with a name and a content. -/
def named (name content : String) : HeadTag := ⟨"meta", [("name", name), ("content", content)]⟩

/-- The value of the first attribute with a name. -/
def attr? (t : HeadTag) (name : String) : Option String := t.attrs.lookup name

/-- A tag is written as its name and its attributes. -/
def toJson (t : HeadTag) : Json :=
  .array [.text t.tag, .object (t.attrs.map fun a => (a.1, .text a.2))]

end HeadTag

/-- An entry of the navigation bar. -/
structure NavLink where
  text : String
  link : String
  deriving DecidableEq, Repr

/-- A link is written as an object. -/
def NavLink.toJson (l : NavLink) : Json := .object [("text", .text l.text), ("link", .text l.link)]

end DocPortal
