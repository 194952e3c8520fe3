import DocPortal.Json.Basic

/-!
# Data that is written as JSON

What is to be written is handed over as data. Data has more forms than JSON: the keys of a map may be any data,
and a map may begin with the entries of other data. Writing it fails at the first key that is no text, and where
entries are asked of data that has none.
-/

namespace DocPortal

/-- What is handed over to be written. -/
inductive Data where
  | text (s : String)
  | boolean (b : Bool)
  | sequence (items : List Data)
  | map (entries : List (Data × Data))
  /-- A map that begins with the entries of other data. -/
  | flattened (front : Data) (entries : List (Data × Data))
  deriving Repr

/-- Why data cannot be written as JSON. -/
inductive DataError where
  | keyNotText
  /-- What has no entries cannot be flattened. -/
  | noEntries
  deriving DecidableEq, Repr

namespace Data

/-- The entries of a record, whose keys are texts. -/
def fields (l : List (String × Data)) : List (Data × Data) := l.map fun f => (.text f.1, f.2)

/-- A record. -/
def record (l : List (String × Data)) : Data := .map (fields l)

/-- The text that a key is written as. -/
def keyText : Data → Except DataError String
  | text s => .ok s
  | _ => .error .keyNotText

/-- The members that a value has as an object. -/
def members : Json → Except DataError (List (String × Json))
  | .object members => .ok members
  | _ => .error .noEntries

mutual

/-- The JSON that data is written as. -/
def toJson : Data → Except DataError Json
  | .text s => .ok (.text s)
  | .boolean b => .ok (.boolean b)
  | .sequence items => do
    let items ← toJsonItems items
    return .array items
  | .map entries => do
    let entries ← toJsonMembers entries
    return .object entries
  | .flattened front entries => do
    let front ← toJson front
    let front ← members front
    let entries ← toJsonMembers entries
    return .object (front ++ entries)

/-- The JSON that items are written as. -/
def toJsonItems : List Data → Except DataError (List Json)
  | [] => .ok []
  | item :: rest => do
    let item ← toJson item
    let rest ← toJsonItems rest
    return item :: rest

/-- The members that entries are written as. -/
def toJsonMembers : List (Data × Data) → Except DataError (List (String × Json))
  | [] => .ok []
  | (key, value) :: rest => do
    let key ← keyText key
    let value ← toJson value
    let rest ← toJsonMembers rest
    return (key, value) :: rest

end

@[simp] theorem toJson_text (s : String) : (text s).toJson = .ok (.text s) := rfl

@[simp] theorem toJson_boolean (b : Bool) : (boolean b).toJson = .ok (.boolean b) := rfl

theorem toJson_sequence (items : List Data) :
    (sequence items).toJson = (toJsonItems items).map .array := by
  show (do let items ← toJsonItems items; return Json.array items) = (toJsonItems items).map .array
  cases toJsonItems items <;> rfl

theorem toJson_map (entries : List (Data × Data)) :
    (map entries).toJson = (toJsonMembers entries).map .object := by
  show (do let entries ← toJsonMembers entries; return Json.object entries) =
    (toJsonMembers entries).map .object
  cases toJsonMembers entries <;> rfl

@[simp] theorem toJsonItems_nil : toJsonItems [] = .ok [] := rfl

theorem toJsonItems_cons_ok {item : Data} {rest : List Data} {j : Json} {js : List Json}
    (hitem : item.toJson = .ok j) (hrest : toJsonItems rest = .ok js) :
    toJsonItems (item :: rest) = .ok (j :: js) := by
  show (do let item ← item.toJson; let rest ← toJsonItems rest; return item :: rest) = .ok (j :: js)
  rw [hitem, hrest]
  rfl

@[simp] theorem toJsonMembers_nil : toJsonMembers [] = .ok [] := rfl

theorem toJsonMembers_cons_ok {key : String} {value : Data} {rest : List (Data × Data)} {j : Json}
    {members : List (String × Json)} (hvalue : value.toJson = .ok j)
    (hrest : toJsonMembers rest = .ok members) :
    toJsonMembers ((.text key, value) :: rest) = .ok ((key, j) :: members) := by
  show (do let value ← value.toJson; let rest ← toJsonMembers rest; return (key, value) :: rest) =
    .ok ((key, j) :: members)
  rw [hvalue, hrest]
  rfl

theorem toJson_flattened_ok {front : Data} {entries : List (Data × Data)}
    {first members : List (String × Json)} (hfront : front.toJson = .ok (.object first))
    (hentries : toJsonMembers entries = .ok members) :
    (flattened front entries).toJson = .ok (.object (first ++ members)) := by
  show (do
      let front ← front.toJson
      let front ← Data.members front
      let entries ← toJsonMembers entries
      return Json.object (front ++ entries)) = .ok (.object (first ++ members))
  rw [hfront, hentries]
  rfl

end Data
end DocPortal
