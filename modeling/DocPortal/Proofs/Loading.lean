import DocPortal.Config.Load
import DocPortal.Proofs.Result
import DocPortal.Proofs.Validity

/-!
# Loaded configurations

Whatever way a configuration comes about, from a file that was asked for, from one that was found, or
from the stock portal, and with or without overrides, its sections are those of its portal seen from its
source directory, and its portal is valid.
-/

namespace DocPortal
namespace Config

/-- The sections are those of the portal, one by one, seen from the source directory. -/
def Resolved (c : Config) : Prop := c.sections = c.portal.resolveSections c.sourceDir

theorem check_ok_iff {c c' : Config} : check c = .ok c' ↔ c.portal.Valid ∧ c = c' := by
  rw [check, Result.bind_ok_iff]
  simp [Portal.validate_ok_iff]

theorem resolved_stock (dir : Path) : (stock dir).Resolved := rfl

theorem valid_stock : Portal.stock.Valid := by
  rw [← Portal.faults_eq_nil_iff]
  decide

/-- Another source directory resolves all sections anew, and another base leaves them as they are. -/
theorem Resolved.override {c : Config} (h : c.Resolved) (o : Overrides) : (c.override o).Resolved := by
  obtain ⟨sourceDir?, base?⟩ := o
  cases sourceDir? with
  | none =>
    cases base? with
    | none => exact h
    | some base => exact h
  | some dir =>
    cases base? with
    | none => rfl
    | some base => rfl

theorem resolved_and_valid_of_ofDocument {env : Environment} {file : Path} {document : String}
    {c : Config} (h : ofDocument env file document = .ok c) : c.Resolved ∧ c.portal.Valid := by
  obtain ⟨written, -, h⟩ := Result.bind_ok_iff.1 h
  obtain ⟨portal, -, h⟩ := Result.bind_ok_iff.1 h
  obtain ⟨hvalid, rfl⟩ := check_ok_iff.1 h
  exact ⟨rfl, hvalid⟩

theorem resolved_and_valid_of_ofFile {m : Machine} {file : Path} {c : Config}
    (h : ofFile m file = .ok c) : c.Resolved ∧ c.portal.Valid := by
  obtain ⟨document, -, h⟩ := Result.bind_ok_iff.1 h
  exact resolved_and_valid_of_ofDocument h

theorem resolved_and_valid_of_find {m : Machine} {file : Option Path} {c : Config}
    (h : find m file = .ok c) : c.Resolved ∧ c.portal.Valid := by
  cases file with
  | some file =>
    rw [find] at h
    split at h
    · exact resolved_and_valid_of_ofFile h
    · cases h
  | none =>
    rw [find] at h
    split at h
    · exact resolved_and_valid_of_ofFile h
    · cases h
      exact ⟨resolved_stock _, valid_stock⟩

/-- A configuration that was loaded is one that was found, with the overrides, if there are any. -/
theorem load_ok {m : Machine} {file : Option Path} {overrides : Option Overrides} {c : Config}
    (h : load m file overrides = .ok c) :
    ∃ found, find m file = .ok found ∧ c = found.override (overrides.getD {}) := by
  obtain ⟨found, hfound, h⟩ := Result.bind_ok_iff.1 h
  refine ⟨found, hfound, ?_⟩
  cases overrides with
  | none => exact (Result.pure_ok_iff.1 h).symm
  | some o => exact (check_ok_iff.1 h).2.symm

/-- A configuration that was loaded has the sections of its portal, and its portal is valid. -/
theorem resolved_and_valid_of_load {m : Machine} {file : Option Path} {overrides : Option Overrides}
    {c : Config} (h : load m file overrides = .ok c) : c.Resolved ∧ c.portal.Valid := by
  obtain ⟨found, hfound, h⟩ := Result.bind_ok_iff.1 h
  obtain ⟨hresolved, hvalid⟩ := resolved_and_valid_of_find hfound
  cases overrides with
  | none =>
    obtain rfl := Result.pure_ok_iff.1 h
    exact ⟨hresolved, hvalid⟩
  | some o =>
    obtain ⟨hvalid', rfl⟩ := check_ok_iff.1 h
    exact ⟨hresolved.override o, hvalid'⟩

end Config
end DocPortal
