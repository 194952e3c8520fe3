import DocPortal.Proofs.Keys

/-!
# Schemas of documents

What a reader makes of a document can be said without the reader: which values fit, and what is read from those
that do. A form says so for the values of one shape, and forms are put together as readers are, so that it is
enough to know for each part of a reader which form it keeps to. Keys that no form knows are ignored; only a
numeral that cannot be read is an error also under such a key.

A record may be written in other ways than as a table, and a choice in other ways than as a text. What is said
here is about values in which that is not the case.

## Main definitions

* `Toml.Form` — how the values of one shape have to look.
* `Toml.Form.Accepts` — a value fits, and what is ignored in it can be read.
* `Toml.ShapeReader.GoesBy`, `Toml.RecordReader.GoesBy` — a reader accepts the values of a form, and what it
  reads from them.
-/

namespace DocPortal
namespace Toml

/-! ## Forms -/

/-- How values of a certain shape have to look. -/
structure Form where
  /-- Whether a value has the right type, with all that counts in it. -/
  fits : Value → Bool
  /-- Whether no record in a value is written otherwise than as a table, and no choice otherwise than as a text. -/
  usual : Value → Bool
  /-- The values in a value that stand under keys that do not count. -/
  ignored : Value → List Value
  /-- A value without the keys that do not count. -/
  prune : Value → Value
  fits_prune : ∀ v, fits (prune v) = fits v
  ignored_prune : ∀ v, ignored (prune v) = []

namespace Form

/-- A key of a record, and how its value has to look. -/
structure Key where
  name : String
  required : Bool
  form : Form

/-- A value has the right type, and there is no numeral that cannot be read in what is ignored. -/
def Accepts (form : Form) (v : Value) : Prop :=
  form.fits v = true ∧ ∀ u ∈ form.ignored v, ¬ Value.unreadable.Within u

instance (form : Form) (v : Value) : Decidable (form.Accepts v) :=
  inferInstanceAs (Decidable (_ ∧ _))

/-- The key with a name. -/
def find? (keys : List Key) (name : String) : Option Key := keys.find? (·.name = name)

theorem find?_of_mem {keys : List Key} {key : Key} (hdistinct : (keys.map (·.name)).Nodup) (h : key ∈ keys) :
    find? keys key.name = some key := by
  rw [find?]
  induction keys with
  | nil => cases h
  | cons first keys ih =>
    obtain ⟨hfirst, hkeys⟩ := List.nodup_cons.1 hdistinct
    obtain rfl | h := List.mem_cons.1 h
    · simp
    · have hne : first.name ≠ key.name := fun heq => hfirst (List.mem_map.2 ⟨key, h, heq.symm⟩)
      rw [List.find?_cons_of_neg (by simpa using hne)]
      exact ih hkeys h

theorem mem_of_find? {keys : List Key} {name : String} {key : Key} (h : find? keys name = some key) :
    key ∈ keys ∧ key.name = name :=
  ⟨List.mem_of_find?_eq_some h, by simpa using List.find?_some h⟩

/-! ### Tables -/

section

variable (keys : List Key) (t : Table)

/-- Each key that is there has a value that fits, and each that is required is there. -/
def fitsTable : Bool := keys.all fun key => match t.lookup key.name with
  | some v => key.form.fits v
  | none => !key.required

def usualTable : Bool := keys.all fun key => (t.lookup key.name).all key.form.usual

/-- The values under other keys, and what is ignored under these. -/
def ignoredInTable : List Value := t.flatMap fun e => match find? keys e.1 with
  | some key => key.form.ignored e.2
  | none => [e.2]

/-- A table with these keys only. -/
def pruneTable : Table := t.filterMap fun e => (find? keys e.1).map fun key => (e.1, key.form.prune e.2)

variable {keys t}

theorem lookup_pruneTable (name : String) :
    (pruneTable keys t).lookup name = (t.lookup name).bind fun v => (find? keys name).map fun key =>
      key.form.prune v := by
  induction t with
  | nil => rfl
  | cons e t ih =>
    obtain ⟨other, v⟩ := e
    have hcons : pruneTable keys ((other, v) :: t) =
        (match find? keys other with
          | some key => [(other, key.form.prune v)]
          | none => []) ++ pruneTable keys t := by
      rw [pruneTable, List.filterMap_cons]
      cases find? keys other <;> rfl
    rw [hcons]
    by_cases hname : name = other
    · subst hname
      rw [List.lookup_cons_self]
      cases hfind : find? keys name with
      | none =>
        rw [hfind] at ih
        rw [List.nil_append, ih]
        cases t.lookup name <;> rfl
      | some key => exact List.lookup_cons_self
    · have hbeq : (name == other) = false := by simpa using hname
      rw [List.lookup_cons, hbeq]
      cases hfind : find? keys other with
      | none => exact ih
      | some key =>
        rw [List.singleton_append, List.lookup_cons, hbeq]
        exact ih

/-- What is left under a key of a record. -/
theorem lookup_pruneTable_of_mem (hdistinct : (keys.map (·.name)).Nodup) {key : Key} (h : key ∈ keys) :
    (pruneTable keys t).lookup key.name = (t.lookup key.name).map key.form.prune := by
  rw [lookup_pruneTable, find?_of_mem hdistinct h]
  cases t.lookup key.name <;> rfl

theorem fitsTable_pruneTable (hdistinct : (keys.map (·.name)).Nodup) :
    fitsTable keys (pruneTable keys t) = fitsTable keys t := by
  rw [fitsTable, fitsTable, Bool.eq_iff_iff, List.all_eq_true, List.all_eq_true]
  refine forall₂_congr fun key hkey => ?_
  rw [lookup_pruneTable_of_mem hdistinct hkey]
  cases t.lookup key.name with
  | none => rfl
  | some v => simp only [Option.map_some, key.form.fits_prune]

theorem ignoredInTable_pruneTable : ignoredInTable keys (pruneTable keys t) = [] := by
  rw [ignoredInTable, List.flatMap_eq_nil_iff]
  intro e he
  obtain ⟨⟨name, v⟩, -, hpruned⟩ := List.mem_filterMap.1 he
  obtain ⟨key, hkey, rfl⟩ := Option.map_eq_some_iff.1 hpruned
  rw [hkey]
  exact key.form.ignored_prune v

end

/-- A key has a value that is accepted, or it is missing and not required. -/
def Key.Holds (key : Key) (t : Table) : Prop :=
  match t.lookup key.name with
  | some v => key.form.Accepts v
  | none => key.required = false

/-- Whether a table is accepted can be told key by key. -/
theorem accepts_table_iff {keys : List Key} {t : Table} (hdistinct : (keys.map (·.name)).Nodup)
    (ht : (t.map (·.1)).Nodup) :
    (fitsTable keys t = true ∧ ∀ u ∈ ignoredInTable keys t, ¬ Value.unreadable.Within u) ↔
      (∀ key ∈ keys, key.Holds t) ∧
        ∀ e ∈ t, find? keys e.1 = none → ¬ Value.unreadable.Within e.2 := by
  have hlookup (e : String × Value) (he : e ∈ t) : t.lookup e.1 = some e.2 := Result.lookup_of_mem ht he
  simp only [fitsTable, List.all_eq_true, ignoredInTable, List.mem_flatMap]
  constructor
  · rintro ⟨hfits, hignored⟩
    refine ⟨fun key hkey => ?_, fun e he hnone => hignored e.2 ⟨e, he, by rw [hnone]; simp⟩⟩
    have hfit := hfits key hkey
    rw [Key.Holds]
    cases hv : t.lookup key.name with
    | none => simpa [hv] using hfit
    | some v =>
      rw [hv] at hfit
      refine ⟨hfit, fun u hu => hignored u ⟨(key.name, v), Result.mem_of_lookup_eq_some hv, ?_⟩⟩
      rw [find?_of_mem hdistinct hkey]
      exact hu
  · rintro ⟨hkeys, hothers⟩
    refine ⟨fun key hkey => ?_, ?_⟩
    · have hholds := hkeys key hkey
      rw [Key.Holds] at hholds
      cases hv : t.lookup key.name with
      | none => simpa [hv] using hholds
      | some v =>
        rw [hv] at hholds
        exact hholds.1
    · rintro u ⟨e, he, hu⟩
      cases hfind : find? keys e.1 with
      | none =>
        rw [hfind] at hu
        obtain rfl := List.mem_singleton.1 hu
        exact hothers e he hfind
      | some key =>
        obtain ⟨hkey, hname⟩ := mem_of_find? hfind
        have hholds := hkeys key hkey
        rw [Key.Holds, hname, hlookup e he] at hholds
        rw [hfind] at hu
        exact hholds.2 u hu

/-! ### Shapes -/

/-- The form of values in which nothing is ignored. -/
def leaf (fits usual : Value → Bool) : Form where
  fits := fits
  usual := usual
  ignored _ := []
  prune v := v
  fits_prune _ := rfl
  ignored_prune _ := rfl

/-- Texts. -/
def text : Form := leaf (· matches .text _) fun _ => true

/-- Booleans. -/
def flag : Form := leaf (· matches .boolean _) fun _ => true

/-- Tables of texts. A date-time stands for the table that can stand for it. -/
def attributes : Form :=
  leaf (fun v => (ShapeReader.entries? v).any (·.all fun e => text.fits e.2)) fun _ => true

/-- One of several names, written as a text. -/
def choice (names : List String) : Form :=
  leaf (fun | .text s => names.contains s | _ => false) fun | .table _ => false | _ => true

/-- Arrays of values. -/
def list (item : Form) : Form where
  fits
    | .array items => items.all item.fits
    | _ => false
  usual
    | .array items => items.all item.usual
    | _ => true
  ignored
    | .array items => items.flatMap item.ignored
    | _ => []
  prune
    | .array items => .array (items.map item.prune)
    | v => v
  fits_prune v := by
    cases v <;> simp [item.fits_prune, Function.comp_def]
  ignored_prune v := by
    cases v <;> simp [item.ignored_prune]

/-- Tables with certain keys. -/
def record (keys : List Key) (distinct : (keys.map (·.name)).Nodup) : Form where
  fits
    | .table t => fitsTable keys t
    | _ => false
  usual
    | .table t => usualTable keys t
    | .array _ | .dateTime _ => false
    | _ => true
  ignored
    | .table t => ignoredInTable keys t
    | _ => []
  prune
    | .table t => .table (pruneTable keys t)
    | v => v
  fits_prune v := by
    cases v <;> simp [fitsTable_pruneTable distinct]
  ignored_prune v := by
    cases v <;> simp [ignoredInTable_pruneTable]

end Form

/-! ## What is read -/

namespace Value

/-- The text that a value is, if it is one. -/
def words : Value → String
  | .text s => s
  | _ => ""

/-- Whether a value is the boolean that stands for yes. -/
def isYes : Value → Bool
  | .boolean b => b
  | _ => false

/-- The items of an array. -/
def items : Value → List Value
  | .array items => items
  | _ => []

/-- The entries of a table. -/
def entries : Value → Table
  | .table entries => entries
  | _ => []

/-- The texts of a table of texts with their keys, in order. -/
def attributes (v : Value) : List (String × String) :=
  ((ShapeReader.entries? v).getD []).map fun e => (e.1, e.2.words)

end Value

/-- What is read from the value under a key, or what stands in for it if the key is missing. -/
def Table.given {α : Type} (t : Table) (key : String) (of : Value → α) (default : α) : α :=
  (t.lookup key).elim default of

namespace ShapeReader

variable {α : Type} {read : ShapeReader α} {form : Form} {of : Value → α} {v : Value} {a : α}

/-- A reader accepts the values of a form, reads from them what is said, and takes no account of what is ignored
in them. -/
structure GoesBy (read : ShapeReader α) (form : Form) (of : Value → α) : Prop where
  ok_iff : ∀ {v : Value} {a : α}, v.DistinctKeys → form.usual v = true →
    (read v = .ok a ↔ form.Accepts v ∧ a = of v)
  of_prune : ∀ v, of (form.prune v) = of v

/-- A value with nothing in it that is ignored is accepted if it fits. -/
theorem accepts_leaf_iff {fits usual : Value → Bool} : (Form.leaf fits usual).Accepts v ↔ fits v = true := by
  simp [Form.Accepts, Form.leaf]

theorem goesBy_text : text.GoesBy Form.text Value.words where
  ok_iff {v a} _ _ := by
    rw [Form.text, accepts_leaf_iff]
    cases v <;> simp [text, Value.words, eq_comm]
  of_prune _ := rfl

theorem goesBy_flag : flag.GoesBy Form.flag Value.isYes where
  ok_iff {v a} _ _ := by
    rw [Form.flag, accepts_leaf_iff]
    cases v <;> simp [flag, Value.isYes, eq_comm]
  of_prune _ := rfl

theorem goesBy_map {β : Type} (f : α → β) (h : read.GoesBy form of) :
    GoesBy (fun v => (read v).map f) form (f ∘ of) where
  ok_iff {v b} hv husual := by
    rw [Result.map_ok_iff]
    constructor
    · rintro ⟨a, ha, rfl⟩
      obtain ⟨haccepts, rfl⟩ := (h.ok_iff hv husual).1 ha
      exact ⟨haccepts, rfl⟩
    · rintro ⟨haccepts, rfl⟩
      exact ⟨of v, (h.ok_iff hv husual).2 ⟨haccepts, rfl⟩, rfl⟩
  of_prune v := congrArg f (h.of_prune v)

/-- Values that are read from others one by one, each under a condition. -/
theorem forall₂_iff_forall_and_eq_map {β : Type} {R : α → β → Prop} {P : α → Prop} {f : α → β} {as : List α}
    {bs : List β} (h : ∀ a ∈ as, ∀ b, R a b ↔ P a ∧ b = f a) :
    List.Forall₂ R as bs ↔ (∀ a ∈ as, P a) ∧ bs = as.map f := by
  induction as generalizing bs with
  | nil => simp
  | cons a as ih =>
    obtain ⟨ha, has⟩ := List.forall_mem_cons.1 h
    rw [List.forall₂_cons_left_iff, List.forall_mem_cons, List.map_cons]
    constructor
    · rintro ⟨b, bs, hb, hbs, rfl⟩
      obtain ⟨hP, rfl⟩ := (ha b).1 hb
      obtain ⟨hrest, rfl⟩ := (ih has).1 hbs
      exact ⟨⟨hP, hrest⟩, rfl⟩
    · rintro ⟨⟨hP, hrest⟩, rfl⟩
      exact ⟨_, _, (ha _).2 ⟨hP, rfl⟩, (ih has).2 ⟨hrest, rfl⟩, rfl⟩

theorem accepts_list_iff {items : List Value} :
    (Form.list form).Accepts (.array items) ↔ ∀ item ∈ items, form.Accepts item := by
  simp only [Form.Accepts, Form.list, List.all_eq_true, List.mem_flatMap]
  constructor
  · rintro ⟨hfits, hignored⟩ item hitem
    exact ⟨hfits item hitem, fun u hu => hignored u ⟨item, hitem, hu⟩⟩
  · intro h
    exact ⟨fun item hitem => (h item hitem).1, fun u ⟨item, hitem, hu⟩ => (h item hitem).2 u hu⟩

/-- An array is read item by item. -/
theorem goesBy_list (h : read.GoesBy form of) : (list read).GoesBy (.list form) fun v => v.items.map of where
  ok_iff {v as} hv husual := by
    cases v with
    | array items =>
      rw [list, Result.mapM_ok_iff, accepts_list_iff]
      exact forall₂_iff_forall_and_eq_map fun item hitem a =>
        h.ok_iff (Value.distinctKeys_array_iff.1 hv item hitem) (List.all_eq_true.1 husual item hitem)
    | _ => simp [list, Form.Accepts, Form.list]
  of_prune v := by
    cases v with
    | array items => simp [Form.list, Value.items, h.of_prune]
    | _ => rfl

/-- A table of texts is read entry by entry. -/
theorem goesBy_attributes : attributes.GoesBy Form.attributes Value.attributes where
  ok_iff {v attrs} _ _ := by
    rw [Form.attributes, accepts_leaf_iff, attributes, Value.attributes]
    cases hentries : entries? v with
    | none => simp
    | some entries =>
      dsimp only
      rw [Result.mapM_ok_iff, Option.any_some, List.all_eq_true, Option.getD_some]
      refine forall₂_iff_forall_and_eq_map fun e _ attr => ?_
      rw [Result.map_ok_iff]
      cases e.2 <;> simp [text, Form.text, Form.leaf, Value.words, eq_comm]
  of_prune _ := rfl

/-- One of several names stands for what goes with it. -/
theorem goesBy_choice {choices : List (String × α)}
    (h : ∀ s a, choices.lookup s = some a → of (.text s) = a) :
    (choice choices).GoesBy (.choice (choices.map (·.1))) of where
  ok_iff {v a} _ husual := by
    rw [Form.choice, accepts_leaf_iff]
    cases v with
    | text s =>
      rw [choice, choiceNamed]
      cases hlookup : choices.lookup s with
      | none =>
        have hname : s ∉ choices.map (·.1) := by
          rw [List.lookup_eq_none_iff] at hlookup
          rintro hmem
          obtain ⟨e, he, rfl⟩ := List.mem_map.1 hmem
          simpa using hlookup e he
        simp [hname]
      | some b =>
        have hname : s ∈ choices.map (·.1) := List.mem_map_of_mem (Result.mem_of_lookup_eq_some hlookup)
        simp [hname, h s b hlookup, eq_comm]
    | table entries => cases husual
    | _ => simp [choice]
  of_prune _ := rfl

end ShapeReader

namespace RecordReader

open Form

variable {α β : Type} {r : RecordReader α} {keys : List Key} {of : Table → α} {t : Table} {a : α}

/-- A check passes the values that are accepted under a key. -/
def IsCheckOf (check : Value → Except ShapeError Unit) (key : Key) : Prop :=
  ∀ v : Value, v.DistinctKeys → key.form.usual v = true → (check v = .ok () ↔ key.form.Accepts v)

/-- A reader of records accepts the tables that have certain keys, reads from them what is said, and takes no
account of anything else in them. -/
structure GoesBy (r : RecordReader α) (keys : List Key) (of : Table → α) : Prop where
  checks : List.Forall₂ (fun field key => field.1 = key.name ∧ IsCheckOf field.2 key) r.fields keys
  build_ok_iff : ∀ {t : Table} {a : α}, (∀ e ∈ t, e.2.DistinctKeys) → usualTable keys t = true →
    (r.build (List.lookup · t) .missingKey = .ok a ↔ (∀ key ∈ keys, key.Holds t) ∧ a = of t)
  of_eq : ∀ {t t' : Table}, (∀ key ∈ keys, t'.lookup key.name = (t.lookup key.name).map key.form.prune) →
    of t' = of t

theorem GoesBy.map (f : α → β) (h : r.GoesBy keys of) : (f <$> r).GoesBy keys fun t => f (of t) where
  checks := h.checks
  build_ok_iff {t b} ht husual := by
    rw [build_map_ok_iff]
    constructor
    · rintro ⟨a, ha, rfl⟩
      obtain ⟨hkeys, rfl⟩ := (h.build_ok_iff ht husual).1 ha
      exact ⟨hkeys, rfl⟩
    · rintro ⟨hkeys, rfl⟩
      exact ⟨of t, (h.build_ok_iff ht husual).2 ⟨hkeys, rfl⟩, rfl⟩
  of_eq heq := congrArg f (h.of_eq heq)

/-- Fields are read one after the other. -/
theorem GoesBy.seq {g : RecordReader (α → β)} {keys' : List Key} {of' : Table → α → β} (hg : g.GoesBy keys' of')
    (h : r.GoesBy keys of) : (g <*> r).GoesBy (keys' ++ keys) fun t => of' t (of t) where
  checks := List.rel_append hg.checks h.checks
  build_ok_iff {t b} ht husual := by
    rw [usualTable, List.all_append, Bool.and_eq_true] at husual
    rw [build_seq_ok_iff, List.forall_mem_append]
    constructor
    · rintro ⟨f, hf, a, ha, rfl⟩
      obtain ⟨hkeys', rfl⟩ := (hg.build_ok_iff ht husual.1).1 hf
      obtain ⟨hkeys, rfl⟩ := (h.build_ok_iff ht husual.2).1 ha
      exact ⟨⟨hkeys', hkeys⟩, rfl⟩
    · rintro ⟨⟨hkeys', hkeys⟩, rfl⟩
      have hf := (hg.build_ok_iff ht husual.1).2 ⟨hkeys', rfl⟩
      have ha := (h.build_ok_iff ht husual.2).2 ⟨hkeys, rfl⟩
      exact ⟨_, hf, _, ha, rfl⟩
  of_eq heq := by
    obtain ⟨hkeys', hkeys⟩ := List.forall_mem_append.1 heq
    rw [hg.of_eq hkeys', h.of_eq hkeys]

section

variable {read : ShapeReader α} {form : Form} {view : Value → α} {default : α} {name : String}

theorem given_eq {t' : Table} (h : read.GoesBy form view)
    (heq : t'.lookup name = (t.lookup name).map form.prune) :
    t'.given name view default = t.given name view default := by
  rw [Table.given, Table.given, heq]
  cases t.lookup name with
  | none => rfl
  | some v => exact h.of_prune v

/-- The check of a field is that its value can be read. -/
theorem isCheckOf {required : Bool} (h : read.GoesBy form view) :
    IsCheckOf (fun v => (read v).map fun _ => ()) ⟨name, required, form⟩ := by
  intro v hv husual
  rw [Result.map_ok_iff]
  constructor
  · rintro ⟨_, ha, -⟩
    exact ((h.ok_iff hv husual).1 ha).1
  · exact fun haccepts => ⟨_, (h.ok_iff hv husual).2 ⟨haccepts, rfl⟩, rfl⟩

/-- The value under a key is one that its reader goes by. -/
theorem read_lookup_ok_iff (h : read.GoesBy form view) (ht : ∀ e ∈ t, e.2.DistinctKeys)
    (husual : (t.lookup name).all form.usual = true) {v : Value} (hv : t.lookup name = some v) :
    read v = .ok a ↔ form.Accepts v ∧ a = view v := by
  rw [hv, Option.all_some] at husual
  exact h.ok_iff (ht _ (Result.mem_of_lookup_eq_some hv)) husual

/-- A field goes by its key: what is missing is an error if it is required, and otherwise the default. -/
theorem goesBy_field {field : RecordReader α} {required : Bool} (h : read.GoesBy form view)
    (hfields : field.fields = [(name, fun v => (read v).map fun _ => ())])
    (hbuild : ∀ {get : String → Option Value} {missing : String → ShapeError} {a : α},
      field.build get missing = .ok a ↔
        (get name = none ∧ required = false ∧ a = default) ∨ ∃ v, get name = some v ∧ read v = .ok a) :
    field.GoesBy [⟨name, required, form⟩] (·.given name view default) where
  checks := by
    rw [hfields]
    exact .cons ⟨rfl, isCheckOf h⟩ .nil
  build_ok_iff {t a} ht husual := by
    rw [usualTable, List.all_cons, List.all_nil, Bool.and_true] at husual
    rw [hbuild, List.forall_mem_singleton, Key.Holds, Table.given]
    dsimp only
    cases hv : t.lookup name with
    | none => simp
    | some v => simpa using read_lookup_ok_iff h ht husual hv
  of_eq heq := given_eq h (heq _ List.mem_cons_self)

theorem goesBy_required (h : read.GoesBy form view) :
    (required name read).GoesBy [⟨name, true, form⟩] (·.given name view default) :=
  goesBy_field h rfl (by simp [build_required_ok_iff])

theorem goesBy_optional (h : read.GoesBy form view) :
    (optional name read default).GoesBy [⟨name, false, form⟩] (·.given name view default) :=
  goesBy_field h rfl (by simp [build_optional_ok_iff])

end

/-- The check under a name is that of the key with that name. -/
theorem GoesBy.lookup_cases (h : r.GoesBy keys of) (name : String) :
    (r.fields.lookup name = none ∧ find? keys name = none) ∨
      ∃ check key, r.fields.lookup name = some check ∧ find? keys name = some key ∧ IsCheckOf check key := by
  have hchecks := h.checks
  rw [find?]
  -- The induction is on the fields and the keys together, which the rest of what is known about `r` would tie down.
  clear h
  generalize r.fields = fields at hchecks
  induction hchecks with
  | nil => exact .inl ⟨rfl, rfl⟩
  | @cons field key fields keys hfirst _ ih =>
    obtain ⟨hname, hcheck⟩ := hfirst
    by_cases hkey : key.name = name
    · refine .inr ⟨field.2, key, ?_, by simp [hkey], hcheck⟩
      rw [← hkey, ← hname]
      exact List.lookup_cons_self
    · have hbeq : (name == field.1) = false := by
        rw [hname]
        exact beq_eq_false_iff_ne.2 (Ne.symm hkey)
      rw [List.lookup_cons, hbeq, List.find?_cons_of_neg (by simpa using hkey)]
      exact ih

/-- A record is read from a table just if the table is accepted. -/
theorem GoesBy.readTable_ok_iff (h : r.GoesBy keys of) (hdistinct : (keys.map (·.name)).Nodup)
    (ht : (Value.table t).DistinctKeys) (husual : usualTable keys t = true) :
    r.readTable t = .ok a ↔ (Form.record keys hdistinct).Accepts (.table t) ∧ a = of t := by
  obtain ⟨hkeys, hvalues⟩ := Value.distinctKeys_table_iff.1 ht
  have haccepts : (Form.record keys hdistinct).Accepts (.table t) ↔
      (∀ key ∈ keys, key.Holds t) ∧ ∀ e ∈ t, find? keys e.1 = none → ¬ Value.unreadable.Within e.2 :=
    accepts_table_iff hdistinct hkeys
  have hbuild := h.build_ok_iff (a := a) hvalues husual
  rw [haccepts]
  constructor
  · -- The record that is built tells that the keys hold; for the other keys the entries are gone through.
    intro hread
    obtain ⟨⟨⟩, hchecks, -⟩ := Result.bind_ok_iff.1 hread
    obtain ⟨hholds, ha⟩ := hbuild.1 (build_of_readTable hread)
    refine ⟨⟨hholds, fun e he hnone => ?_⟩, ha⟩
    have hcheck := Result.forM_ok_iff.1 hchecks e he
    obtain ⟨hlookup, -⟩ | ⟨_, _, -, hsome, -⟩ := h.lookup_cases e.1
    · dsimp only at hcheck
      rw [hlookup] at hcheck
      exact ShapeReader.skip_ok_iff.1 hcheck
    · rw [hnone] at hsome
      cases hsome
  · rintro ⟨⟨hholds, hothers⟩, ha⟩
    refine readTable_ok (fun e he check hcheck => ?_) (fun e he hnone => ?_) (hbuild.2 ⟨hholds, ha⟩)
    · obtain ⟨hnone, -⟩ | ⟨check', key, hsome, hfind, hiff⟩ := h.lookup_cases e.1
      · rw [hnone] at hcheck
        cases hcheck
      · rw [hcheck] at hsome
        cases hsome
        obtain ⟨hkey, hname⟩ := mem_of_find? hfind
        -- The value that is checked is the one that the key has: no other entry has the same key.
        have hvalue := Result.lookup_of_mem hkeys he
        have hkeyUsual := List.all_eq_true.1 husual key hkey
        have hkeyHolds := hholds key hkey
        rw [hname, hvalue] at hkeyUsual
        rw [Key.Holds, hname, hvalue] at hkeyHolds
        exact (hiff e.2 (hvalues e he) hkeyUsual).2 hkeyHolds
    · obtain ⟨-, hfind⟩ | ⟨_, _, hsome, -⟩ := h.lookup_cases e.1
      · exact hothers e he hfind
      · rw [hnone] at hsome
        cases hsome

/-- A record is read from a value that is a table. -/
theorem GoesBy.read (h : r.GoesBy keys of) (hdistinct : (keys.map (·.name)).Nodup) (name : String) :
    (r.read name).GoesBy (.record keys hdistinct) fun v => of v.entries where
  ok_iff {v a} hv husual := by
    cases v with
    | table t => exact h.readTable_ok_iff hdistinct hv husual
    | array items => cases husual
    | dateTime d => cases husual
    | _ => simp [RecordReader.read, ShapeReader.entries?, Form.Accepts, Form.record]
  of_prune v := by
    cases v with
    | table t => exact h.of_eq fun key hkey => lookup_pruneTable_of_mem hdistinct hkey
    | _ => rfl

end RecordReader

end Toml
end DocPortal
