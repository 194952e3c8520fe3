import DocPortal.Proofs.Records
import DocPortal.Toml.Document
import Mathlib.Data.List.Nodup

/-!
# Keys of a document

A document in which a key is given twice is refused, so that every table of a document that is read has each of
its keys once, at any depth: a statement adds keys that are not there yet, and leaves those that are there where
they stand. The entries of a table between braces are those that were written, in order, if their keys are of one
part each.

## Main definitions

* `Toml.Value.DistinctKeys` — no table in a value has a key twice.
* `Toml.Entries.DistinctKeys` — the same for a table under construction.
-/

namespace DocPortal
namespace Toml

/-! ## Values -/

namespace Value

/-- No table in a value has a key twice. -/
def DistinctKeys (v : Value) : Prop :=
  ∀ entries : Table, Within (.table entries) v → (entries.map (·.1)).Nodup

theorem distinctKeys_array_iff {items : List Value} :
    (array items).DistinctKeys ↔ ∀ v ∈ items, v.DistinctKeys := by
  constructor
  · intro h v hv entries hwithin
    exact h entries (.item hv hwithin)
  · intro h entries hwithin
    cases hwithin with
    | item hv hwithin => exact h _ hv entries hwithin

theorem distinctKeys_table_iff {entries : Table} :
    (table entries).DistinctKeys ↔ (entries.map (·.1)).Nodup ∧ ∀ e ∈ entries, e.2.DistinctKeys := by
  constructor
  · intro h
    exact ⟨h entries .self, fun e he inner hwithin => h inner (.entry he hwithin)⟩
  · rintro ⟨hkeys, hvalues⟩ inner hwithin
    cases hwithin with
    | self => exact hkeys
    | entry he hwithin => exact hvalues _ he inner hwithin

/-- A value that is neither an array nor a table has no tables in it. -/
def IsScalar : Value → Prop
  | array _ | table _ => False
  | _ => True

theorem IsScalar.distinctKeys {v : Value} (h : v.IsScalar) : v.DistinctKeys := by
  intro entries hwithin
  cases hwithin <;> exact h.elim

end Value

/-! ## Tables under construction -/

theorem closeEntries_eq_map (entries : Entries) : closeEntries entries = entries.map fun e => (e.1, e.2.value) := by
  induction entries with
  | nil => rfl
  | cons e rest ih => rw [closeEntries, ih, List.map_cons]

namespace Entries

variable {key : String} {entries entries' : Entries}

/-- A table under construction comes to a value in which no table has a key twice. -/
def DistinctKeys (entries : Entries) : Prop := (Value.table (closeEntries entries)).DistinctKeys

theorem distinctKeys_iff :
    DistinctKeys entries ↔ (entries.map (·.1)).Nodup ∧ ∀ e ∈ entries, e.2.value.DistinctKeys := by
  rw [DistinctKeys, Value.distinctKeys_table_iff, closeEntries_eq_map, List.map_map, List.forall_mem_map]
  rfl

theorem distinctKeys_nil : DistinctKeys [] := by
  simp [distinctKeys_iff]

theorem distinctKeys_concat {draft : Draft} (h : DistinctKeys entries) (hkey : key ∉ entries.map (·.1))
    (hdraft : draft.value.DistinctKeys) : DistinctKeys (entries ++ [(key, draft)]) := by
  obtain ⟨hkeys, hvalues⟩ := distinctKeys_iff.1 h
  refine distinctKeys_iff.2 ⟨?_, ?_⟩
  · rw [List.map_append, List.map_singleton, ← List.concat_eq_append]
    exact (List.nodup_concat _ _).2 ⟨hkey, hkeys⟩
  · rw [List.forall_mem_append, List.forall_mem_singleton]
    exact ⟨hvalues, hdraft⟩

/-- What stands under a key is altered in its place, and a new key comes last. -/
theorem alter_ok {f : Option Draft → Except SyntaxError Draft} (h : alter key f entries = .ok entries') :
    (key ∉ entries.map (·.1) ∧ ∃ draft, f none = .ok draft ∧ entries' = entries ++ [(key, draft)]) ∨
      ∃ before old new after, entries = before ++ (key, old) :: after ∧ f (some old) = .ok new ∧
        entries' = before ++ (key, new) :: after := by
  induction entries generalizing entries' with
  | nil =>
    obtain ⟨draft, hdraft, rfl⟩ := Result.map_ok_iff.1 h
    exact .inl ⟨List.not_mem_nil, draft, hdraft, rfl⟩
  | cons e rest ih =>
    obtain ⟨k, draft⟩ := e
    rw [alter] at h
    split at h
    · rename_i hk
      subst hk
      obtain ⟨new, hnew, rfl⟩ := Result.map_ok_iff.1 h
      exact .inr ⟨[], draft, new, rest, rfl, hnew, rfl⟩
    · rename_i hk
      obtain ⟨rest', hrest, rfl⟩ := Result.map_ok_iff.1 h
      obtain ⟨hkey, new, hnew, rfl⟩ | ⟨before, old, new, after, rfl, hnew, rfl⟩ := ih hrest
      · refine .inl ⟨?_, new, hnew, rfl⟩
        rw [List.map_cons, List.mem_cons, not_or]
        exact ⟨Ne.symm hk, hkey⟩
      · exact .inr ⟨(k, draft) :: before, old, new, after, rfl, hnew, rfl⟩

/-- A key is added once, and comes last. -/
theorem add_ok_iff {draft : Draft} : add key draft entries = .ok entries' ↔
    key ∉ entries.map (·.1) ∧ entries' = entries ++ [(key, draft)] := by
  constructor
  · intro h
    obtain ⟨hkey, new, hnew, rfl⟩ | ⟨_, _, _, _, -, hnew, -⟩ := alter_ok h
    · cases hnew
      exact ⟨hkey, rfl⟩
    · cases hnew
  · rintro ⟨hkey, rfl⟩
    induction entries with
    | nil => rfl
    | cons e rest ih =>
      obtain ⟨hne, hrest⟩ := not_or.1 (mt List.mem_cons.2 hkey)
      rw [add, alter, if_neg (Ne.symm hne)]
      exact Result.map_ok_iff.2 ⟨_, ih hrest, rfl⟩

theorem DistinctKeys.alter {f : Option Draft → Except SyntaxError Draft} (h : DistinctKeys entries)
    (hf : ∀ old? new, (∀ old ∈ old?, old.value.DistinctKeys) → f old? = .ok new → new.value.DistinctKeys)
    (hok : alter key f entries = .ok entries') : DistinctKeys entries' := by
  obtain ⟨hkey, draft, hdraft, rfl⟩ | ⟨before, old, new, after, rfl, hnew, rfl⟩ := alter_ok hok
  · exact distinctKeys_concat h hkey (hf none draft (fun _ hold => nomatch hold) hdraft)
  · obtain ⟨hkeys, hvalues⟩ := distinctKeys_iff.1 h
    obtain ⟨hbefore, hafter⟩ := List.forall_mem_append.1 hvalues
    obtain ⟨hold, hafter⟩ := List.forall_mem_cons.1 hafter
    refine distinctKeys_iff.2 ⟨?_, ?_⟩
    · rw [List.map_append, List.map_cons] at hkeys ⊢
      exact hkeys
    · refine List.forall_mem_append.2 ⟨hbefore, List.forall_mem_cons.2 ⟨?_, hafter⟩⟩
      refine hf (some old) new (fun d hd => ?_) hnew
      rw [← Option.some.inj hd]
      exact hold

theorem DistinctKeys.add {draft : Draft} (h : DistinctKeys entries) (hdraft : draft.value.DistinctKeys)
    (hok : add key draft entries = .ok entries') : DistinctKeys entries' := by
  obtain ⟨hkey, rfl⟩ := add_ok_iff.1 hok
  exact distinctKeys_concat h hkey hdraft

/-- What is done to the table at the end of a path is all that happens, apart from tables that are opened on the
way. -/
theorem DistinctKeys.extend {way : Opening} {f : Opening → Entries → Except SyntaxError Entries}
    (hf : ∀ opening inner inner', DistinctKeys inner → f opening inner = .ok inner' → DistinctKeys inner') :
    ∀ {path : List String} {opening : Opening} {entries entries' : Entries}, DistinctKeys entries →
      extend way f opening path entries = .ok entries' → DistinctKeys entries'
  | [], _, _, _, h, hok => hf _ _ _ h hok
  | key :: path, _, _, _, h, hok => by
    refine h.alter (fun old? new hold hnew => ?_) hok
    split at hnew
    · obtain ⟨inner, hinner, rfl⟩ := Result.map_ok_iff.1 hnew
      exact DistinctKeys.extend hf distinctKeys_nil hinner
    · cases hnew
    · rename_i finished last
      obtain ⟨inner, hinner, rfl⟩ := Result.map_ok_iff.1 hnew
      obtain ⟨hfinished, hlast⟩ :=
        List.forall_mem_append.1 (Value.distinctKeys_array_iff.1 (hold _ rfl))
      refine Value.distinctKeys_array_iff.2 (List.forall_mem_append.2 ⟨hfinished, ?_⟩)
      rw [List.forall_mem_singleton] at hlast ⊢
      exact DistinctKeys.extend hf hlast hinner
    · split at hnew
      · cases hnew
      · obtain ⟨inner, hinner, rfl⟩ := Result.map_ok_iff.1 hnew
        exact DistinctKeys.extend hf (hold _ rfl) hinner

theorem DistinctKeys.put {path : List String} {v : Value} (h : DistinctKeys entries) (hv : v.DistinctKeys)
    (hok : put path key v entries = .ok entries') : DistinctKeys entries' := by
  refine h.extend (fun opening inner inner' hinner hadd => ?_) hok
  split at hadd
  · cases hadd
  · have hdraft : (Draft.closed v).value.DistinctKeys := hv
    exact hinner.add hdraft hadd

theorem DistinctKeys.openTable {path : List String} (h : DistinctKeys entries)
    (hok : openTable path key entries = .ok entries') : DistinctKeys entries' := by
  refine h.extend (fun opening inner inner' hinner hopen => ?_) hok
  split at hopen
  · rename_i hlookup
    cases hopen
    refine distinctKeys_concat hinner ?_ distinctKeys_nil
    rw [List.mem_map]
    rintro ⟨e, he, rfl⟩
    exact bne_iff_ne.1 (List.lookup_eq_none_iff.1 hlookup e he) rfl
  · rename_i found hlookup
    cases hopen
    obtain ⟨hkeys, hvalues⟩ := distinctKeys_iff.1 hinner
    have hothers : DistinctKeys (inner.filter (·.1 ≠ key)) :=
      distinctKeys_iff.2 ⟨hkeys.sublist (List.filter_sublist.map _),
        fun e he => hvalues e (List.mem_of_mem_filter he)⟩
    refine distinctKeys_concat hothers ?_ (hvalues _ (Result.mem_of_lookup_eq_some hlookup))
    simp
  · cases hopen

theorem DistinctKeys.openNext {path : List String} (h : DistinctKeys entries)
    (hok : openNext path key entries = .ok entries') : DistinctKeys entries' := by
  refine h.extend (fun opening inner inner' hinner hopen => ?_) hok
  refine hinner.alter (fun old? new hold hnew => ?_) hopen
  split at hnew
  · cases hnew
    exact Value.distinctKeys_array_iff.2 (List.forall_mem_singleton.2 distinctKeys_nil)
  · cases hnew
    exact Value.distinctKeys_array_iff.2
      (List.forall_mem_append.2 ⟨Value.distinctKeys_array_iff.1 (hold _ rfl),
        List.forall_mem_singleton.2 distinctKeys_nil⟩)
  · cases hnew

end Entries

/-! ## Values that are read -/

theorem isScalar_integerOf (base : Nat) (negative : Bool) (digits : List Char) :
    (integerOf base negative digits).IsScalar := by
  unfold integerOf
  extract_lets n
  split <;> trivial

theorem isScalar_of_basedInteger? {base : Nat} {s : List Char} {v : Value} (h : basedInteger? base s = some v) :
    v.IsScalar := by
  rw [basedInteger?] at h
  split at h
  · cases h
    exact isScalar_integerOf _ _ _
  · cases h

theorem isScalar_of_decimalValue? {s : List Char} {v : Value} (h : decimalValue? s = some v) : v.IsScalar := by
  have hinteger : ∀ {negative body}, decimalInteger? negative body = some v → v.IsScalar := by
    intro negative body h
    rw [decimalInteger?] at h
    split at h
    · cases h
      exact isScalar_integerOf _ _ _
    · cases h
  unfold decimalValue? at h
  obtain ⟨negative, body⟩ := Text.splitSign s
  dsimp only at h
  split at h
  · exact hinteger h
  · split at h
    · obtain ⟨d, -, rfl⟩ := Option.map_eq_some_iff.1 h
      trivial
    · split at h
      · cases h
      · split at h
        · rw [float?] at h
          split at h
          · obtain ⟨d, -, rfl⟩ := Option.map_eq_some_iff.1 h
            split <;> trivial
          · cases h
        · split at h
          · exact hinteger h
          · cases h

/-- A value without quotes and brackets is neither an array nor a table. -/
theorem isScalar_of_readScalar {s rest : List Char} {v : Value} (h : readScalar s = .ok (v, rest)) :
    v.IsScalar := by
  have hscalar : ∀ {words}, scalar? words = some v → v.IsScalar := by
    intro words h
    rw [scalar?.eq_def] at h
    split at h
    · cases h
    · exact isScalar_of_basedInteger? h
    · exact isScalar_of_basedInteger? h
    · exact isScalar_of_basedInteger? h
    · -- The words for booleans, infinity and no number come before all else.
      repeat' split at h
      all_goals first
        | exact isScalar_of_decimalValue? h
        | cases h; trivial
  unfold readScalar at h
  obtain ⟨words, after⟩ := splitWords s
  dsimp only at h
  split at h
  · rename_i hwords
    cases h
    exact hscalar hwords
  · cases h

/-- What holds of each item that can be read holds of all that are read between brackets. -/
theorem forall_of_readItems {α : Type} {P : α → Prop} {item : Reader α} {close : Char}
    (hitem : ∀ s a rest, item s = .ok (a, rest) → P a) :
    ∀ {n : Nat} {s rest : List Char} {items : List α}, readItems item close n s = .ok (items, rest) →
      ∀ a ∈ items, P a
  | 0, _, _, _, h => nomatch h
  | n + 1, s, rest, items, h => by
    obtain ⟨s, -, h⟩ := Result.bind_ok_iff.1 h
    split at h
    · cases h
      exact fun _ ha => absurd ha List.not_mem_nil
    · obtain ⟨⟨first, s⟩, hfirst, h⟩ := Result.bind_ok_iff.1 h
      obtain ⟨s, -, h⟩ := Result.bind_ok_iff.1 h
      have hP := hitem _ _ _ hfirst
      split at h
      · cases h
        exact List.forall_mem_singleton.2 hP
      · split at h
        · obtain ⟨⟨more, s⟩, hmore, h⟩ := Result.bind_ok_iff.1 h
          cases h
          exact List.forall_mem_cons.2 ⟨hP, forall_of_readItems hitem hmore⟩
        · cases h

theorem distinctKeys_of_readEntry {gap : List Char → Except SyntaxError (List Char)} {value : Reader Value}
    (hvalue : ∀ s v rest, value s = .ok (v, rest) → v.DistinctKeys) {s rest : List Char}
    {entry : DottedKey × Value} (h : readEntry gap value s = .ok (entry, rest)) : entry.2.DistinctKeys := by
  obtain ⟨⟨key, s⟩, -, h⟩ := Result.bind_ok_iff.1 h
  obtain ⟨s, -, h⟩ := Result.bind_ok_iff.1 h
  split at h
  · obtain ⟨s, -, h⟩ := Result.bind_ok_iff.1 h
    obtain ⟨⟨v, s⟩, hv, h⟩ := Result.bind_ok_iff.1 h
    cases h
    exact hvalue _ _ _ hv
  · cases h

/-- The table that keys with their values make up has each of its keys once. -/
theorem distinctKeys_of_tableOf {items : List (DottedKey × Value)} {table : Table}
    (hitems : ∀ item ∈ items, item.2.DistinctKeys) (h : tableOf items = .ok table) :
    (Value.table table).DistinctKeys := by
  obtain ⟨entries, hentries, rfl⟩ := Result.map_ok_iff.1 h
  exact Result.invariant_of_foldlM_ok (P := Entries.DistinctKeys) Entries.distinctKeys_nil
    (fun _ item hitem _ hdistinct hput => hdistinct.put (hitems item hitem) hput) hentries

/-- A value that is read has no table in which a key stands twice. -/
theorem distinctKeys_of_readNested : ∀ {depth : Nat} {s rest : List Char} {v : Value},
    readNested depth s = .ok (v, rest) → v.DistinctKeys
  | depth, s, rest, v, h => by
    rw [readNested.eq_def] at h
    dsimp only at h
    split at h
    · obtain ⟨⟨text, s⟩, -, h⟩ := Result.map_ok_iff.1 h
      cases h
      exact Value.IsScalar.distinctKeys trivial
    · cases h
    · cases h
    · obtain ⟨⟨items, s⟩, hitems, h⟩ := Result.bind_ok_iff.1 h
      cases h
      exact Value.distinctKeys_array_iff.2
        (forall_of_readItems (fun _ _ _ hitem => distinctKeys_of_readNested hitem) hitems)
    · obtain ⟨⟨items, s⟩, hitems, h⟩ := Result.bind_ok_iff.1 h
      obtain ⟨table, htable, h⟩ := Result.bind_ok_iff.1 h
      cases h
      refine distinctKeys_of_tableOf (forall_of_readItems (fun _ _ _ hitem => ?_) hitems) htable
      exact distinctKeys_of_readEntry (fun _ _ _ hv => distinctKeys_of_readNested hv) hitem
    · exact (isScalar_of_readScalar h).distinctKeys

/-! ## Documents -/

/-- A statement that gives a key a value gives it one in which no table has a key twice. -/
theorem distinctKeys_of_readStatement {s rest : List Char} {key : DottedKey} {v : Value}
    (h : readStatement s = .ok (.entry key v, rest)) : v.DistinctKeys := by
  rw [readStatement.eq_def] at h
  split at h
  · obtain ⟨⟨key', s⟩, -, h⟩ := Result.bind_ok_iff.1 h
    split at h <;> cases h
  · obtain ⟨⟨key', s⟩, -, h⟩ := Result.bind_ok_iff.1 h
    split at h <;> cases h
  · obtain ⟨⟨entry, s⟩, hentry, h⟩ := Result.bind_ok_iff.1 h
    cases h
    exact distinctKeys_of_readEntry (fun _ _ _ hv => distinctKeys_of_readNested hv) hentry

theorem distinctKeys_of_statements : ∀ {n : Nat} {s : List Char} {l : List Statement},
    statements n s = .ok l → ∀ key v, .entry key v ∈ l → v.DistinctKeys
  | 0, _, _, h => nomatch h
  | n + 1, s, l, h => by
    obtain ⟨s, -, h⟩ := Result.bind_ok_iff.1 h
    split at h
    · cases h
      exact fun _ _ hmem => absurd hmem List.not_mem_nil
    · obtain ⟨⟨first, s⟩, hfirst, h⟩ := Result.bind_ok_iff.1 h
      dsimp only at h
      split at h
      · obtain ⟨more, hmore, h⟩ := Result.bind_ok_iff.1 h
        cases h
        intro key v hmem
        obtain rfl | hmem := List.mem_cons.1 hmem
        · exact distinctKeys_of_readStatement hfirst
        · exact distinctKeys_of_statements hmore key v hmem
      · cases h

namespace Progress

/-- A statement leaves each key of each table where it is and adds none that is there. -/
theorem distinctKeys_next {p p' : Progress} {statement : Statement}
    (hvalue : ∀ key v, statement = .entry key v → v.DistinctKeys) (h : p.entries.DistinctKeys)
    (hnext : p.next statement = .ok p') : p'.entries.DistinctKeys := by
  cases statement with
  | header key =>
    obtain ⟨entries, hentries, hnext⟩ := Result.bind_ok_iff.1 hnext
    cases hnext
    exact h.openTable hentries
  | nextHeader key =>
    obtain ⟨entries, hentries, hnext⟩ := Result.bind_ok_iff.1 hnext
    cases hnext
    exact h.openNext hentries
  | entry key v =>
    obtain ⟨entries, hentries, hnext⟩ := Result.bind_ok_iff.1 hnext
    cases hnext
    exact h.extend (fun _ _ _ hinner hput => hinner.put (hvalue key v rfl) hput) hentries

end Progress

/-- **No table of a document has a key twice.** -/
theorem Table.distinctKeys_of_read {document : String} {table : Table} (h : Table.read document = .ok table) :
    (Value.table table).DistinctKeys := by
  obtain ⟨l, hl, h⟩ := Result.bind_ok_iff.1 h
  obtain ⟨p, hp, rfl⟩ := Result.map_ok_iff.1 h
  refine Result.invariant_of_foldlM_ok (P := fun p : Progress => p.entries.DistinctKeys)
    Entries.distinctKeys_nil (fun p statement hmem next hdistinct hnext => ?_) hp
  refine Progress.distinctKeys_next (fun key v heq => ?_) hdistinct hnext
  subst heq
  exact distinctKeys_of_statements hl key v hmem

end Toml
end DocPortal
