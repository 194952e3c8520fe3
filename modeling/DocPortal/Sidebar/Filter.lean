import DocPortal.Text.Order
import DocPortal.Text.Quoted

/-!
# Extension filters

A filter is a non-empty set of extensions, each a dot and one further segment. It is kept in ascending
order without repetitions, so that filters with the same extensions are equal.
-/

namespace DocPortal

/-- Why extensions make no filter. -/
inductive FilterError where
  /-- There are none. -/
  | empty
  /-- One is no dot followed by a single segment. -/
  | malformed (extension : String)
  deriving DecidableEq, Repr

namespace FilterError

/-- The message of a filter error. -/
def message : FilterError → String
  | empty => "Extension filter cannot be empty"
  | malformed e => "Extension " ++ Text.quoted e ++
    " must be a single segment after one leading '.' (like \".md\"), without further dots or path"
      ++ " separators"

end FilterError

/-- A set of extensions in ascending order. -/
structure ExtensionFilter where
  extensions : List String
  deriving DecidableEq, Repr

namespace ExtensionFilter

/-- Whether a text is a dot followed by a non-empty segment without dots and path separators. -/
def isExtension (e : String) : Bool :=
  match e.toList with
  | '.' :: rest => rest ≠ [] && rest.all fun c => c ≠ '.' && c ≠ '/' && c ≠ '\\'
  | _ => false

/-- Inserts a text into an ascending list, which stays as it is if it has the text. -/
def insertSorted (e : String) : List String → List String
  | [] => [e]
  | x :: xs =>
    if Text.precedes e x then e :: x :: xs else if e = x then x :: xs else x :: insertSorted e xs

@[simp] theorem mem_insertSorted (e x : String) (l : List String) :
    x ∈ insertSorted e l ↔ x = e ∨ x ∈ l := by
  induction l with
  | nil => simp [insertSorted]
  | cons y ys ih => grind [insertSorted]

/-- The filter with the given extensions; the first malformed one is reported before an empty list. -/
def ofList (extensions : List String) : Except FilterError ExtensionFilter :=
  match extensions.find? (! isExtension ·) with
  | some e => .error (.malformed e)
  | none =>
    if extensions = [] then .error .empty
    else .ok ⟨extensions.foldl (fun sorted e => insertSorted e sorted) []⟩

/-- The filter for markdown pages. -/
def markdown : ExtensionFilter := ⟨[".md"]⟩

/-- Whether an extension, dot included, is in the filter. -/
def accepts (f : ExtensionFilter) (extension : String) : Bool := extension ∈ f.extensions

@[simp] theorem accepts_iff (f : ExtensionFilter) (e : String) :
    f.accepts e = true ↔ e ∈ f.extensions := by simp [accepts]

end ExtensionFilter
end DocPortal
