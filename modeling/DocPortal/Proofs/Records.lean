import DocPortal.Proofs.Result
import DocPortal.Toml.Shape

/-!
# Reading records

What it takes for a record to be read from a table. Keys that are not fields are passed over, which fails
for nothing but a numeral that cannot be read, at any depth; and a record whose keys are all missing is
made of what stands in for them.

## Main definitions

* `Toml.Value.Within` — a value is another one, or stands somewhere in it.
-/

namespace DocPortal
namespace Toml

/-- The value `u` is another one, or stands somewhere in it. -/
inductive Value.Within (u : Value) : Value → Prop
  | self : Within u u
  | item {items : List Value} {v : Value} : v ∈ items → Within u v → Within u (.array items)
  | entry {entries : Table} {key : String} {v : Value} :
      (key, v) ∈ entries → Within u v → Within u (.table entries)

namespace ShapeReader

theorem text_ok_iff {v : Value} {s : String} : text v = .ok s ↔ v = .text s := by
  cases v <;> simp [text]

theorem skip_of_mem_skipItems : ∀ {items : List Value}, skipItems items = .ok () →
    ∀ v ∈ items, skip v = .ok ()
  | v :: rest, h, w, hw => by
    rw [skipItems] at h
    split at h
    · rename_i hv
      rcases List.mem_cons.1 hw with rfl | hw
      · exact hv
      · exact skip_of_mem_skipItems h w hw
    · cases h

theorem skip_of_mem_skipEntries : ∀ {entries : Table}, skipEntries entries = .ok () →
    ∀ e ∈ entries, skip e.2 = .ok ()
  | (_, v) :: rest, h, e, he => by
    rw [skipEntries] at h
    split at h
    · rename_i hv
      rcases List.mem_cons.1 he with rfl | he
      · exact hv
      · exact skip_of_mem_skipEntries h e he
    · cases h

mutual

theorem skip_of_not_within : ∀ {v : Value}, ¬ Value.unreadable.Within v → skip v = .ok ()
  | .text _, _ | .integer _, _ | .float _, _ | .boolean _, _ | .dateTime _, _ => rfl
  | .unreadable, h => absurd .self h
  | .array _, h => skipItems_of_not_within fun _ hv hwithin => h (.item hv hwithin)
  | .table _, h => skipEntries_of_not_within fun _ hv hwithin => h (.entry hv hwithin)

theorem skipItems_of_not_within : ∀ {items : List Value}, (∀ v ∈ items, ¬ Value.unreadable.Within v) →
    skipItems items = .ok ()
  | [], _ => rfl
  | v :: rest, h => by
    rw [skipItems, skip_of_not_within (h v List.mem_cons_self)]
    exact skipItems_of_not_within fun w hw => h w (List.mem_cons_of_mem v hw)

theorem skipEntries_of_not_within : ∀ {entries : Table},
    (∀ e ∈ entries, ¬ Value.unreadable.Within e.2) → skipEntries entries = .ok ()
  | [], _ => rfl
  | (key, v) :: rest, h => by
    rw [skipEntries, skip_of_not_within (h (key, v) List.mem_cons_self)]
    exact skipEntries_of_not_within fun e he => h e (List.mem_cons_of_mem (key, v) he)

end

/-- A value is passed over unless there is a numeral in it that cannot be read. -/
theorem skip_ok_iff {v : Value} : skip v = .ok () ↔ ¬ Value.unreadable.Within v := by
  refine ⟨fun h hwithin => ?_, skip_of_not_within⟩
  induction hwithin with
  | self => cases h
  | item hv _ ih => exact ih (skip_of_mem_skipItems h _ hv)
  | entry hv _ ih => exact ih (skip_of_mem_skipEntries h _ hv)

instance (v : Value) : Decidable (Value.unreadable.Within v) :=
  decidable_of_iff (¬ (skip v).isOk = true) <| by
    rw [← not_iff_not, not_not, ← skip_ok_iff]
    exact ⟨Result.eq_ok_of_isOk, fun h => h ▸ rfl⟩

end ShapeReader

namespace RecordReader

variable {α β : Type} {get : String → Option Value} {missing : String → ShapeError}

theorem build_map_ok_iff {r : RecordReader α} {f : α → β} {b : β} :
    (f <$> r).build get missing = .ok b ↔ ∃ a, r.build get missing = .ok a ∧ f a = b := by
  show (do let a ← r.build get missing; return f a) = .ok b ↔ _
  simp only [Result.bind_ok_iff, Result.pure_ok_iff]

theorem build_map_ok {r : RecordReader α} {a : α} (f : α → β) (h : r.build get missing = .ok a) :
    (f <$> r).build get missing = .ok (f a) :=
  build_map_ok_iff.2 ⟨a, h, rfl⟩

/-- Fields are read one after the other. -/
theorem build_seq_ok_iff {r : RecordReader (α → β)} {s : RecordReader α} {b : β} :
    (r <*> s).build get missing = .ok b ↔
      ∃ f, r.build get missing = .ok f ∧ ∃ a, s.build get missing = .ok a ∧ f a = b := by
  show (do let f ← r.build get missing; let a ← s.build get missing; return f a) = .ok b ↔ _
  simp only [Result.bind_ok_iff, Result.pure_ok_iff]

theorem build_seq_ok {r : RecordReader (α → β)} {s : RecordReader α} {f : α → β} {a : α}
    (hr : r.build get missing = .ok f) (hs : s.build get missing = .ok a) :
    (r <*> s).build get missing = .ok (f a) :=
  build_seq_ok_iff.2 ⟨f, hr, a, hs, rfl⟩

theorem build_required_ok_iff {key : String} {read : ShapeReader α} {a : α} :
    (required key read).build get missing = .ok a ↔ ∃ v, get key = some v ∧ read v = .ok a := by
  dsimp only [required]
  cases get key <;> simp

/-- A field that may be left out is read if it is there, and otherwise is what stands in for it. -/
theorem build_optional_ok_iff {key : String} {read : ShapeReader α} {default a : α} :
    (optional key read default).build get missing = .ok a ↔
      (get key = none ∧ a = default) ∨ ∃ v, get key = some v ∧ read v = .ok a := by
  dsimp only [optional]
  cases get key <;> simp [eq_comm]

theorem build_of_readTable {r : RecordReader α} {entries : Table} {a : α} (h : r.readTable entries = .ok a) :
    r.build (List.lookup · entries) .missingKey = .ok a := by
  obtain ⟨-, -, h⟩ := Result.bind_ok_iff.1 h
  exact h

/-- A record is read from a table if each of its keys that is a field passes the check of that field, the
others can be passed over, and a record comes about. -/
theorem readTable_ok {r : RecordReader α} {entries : Table} {a : α}
    (hchecks : ∀ e ∈ entries, ∀ check, r.fields.lookup e.1 = some check → check e.2 = .ok ())
    (hskips : ∀ e ∈ entries, r.fields.lookup e.1 = none → ¬ Value.unreadable.Within e.2)
    (hbuild : r.build (List.lookup · entries) .missingKey = .ok a) : r.readTable entries = .ok a := by
  refine Result.bind_ok_iff.2 ⟨(), Result.forM_ok_iff.2 fun e he => ?_, hbuild⟩
  dsimp only
  cases hlookup : r.fields.lookup e.1 with
  | none => exact ShapeReader.skip_ok_iff.2 (hskips e he hlookup)
  | some check => exact hchecks e he check hlookup

end RecordReader

end Toml
end DocPortal
