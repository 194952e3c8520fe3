import DocPortal.Proofs.Effect
import DocPortal.Site.Data

/-!
# How a build fails

A build fails on what it finds outside of it: a configuration that is not there or not valid, a directory
that cannot be listed, a file that cannot be written. What lies between cannot fail: extensions that
passed the validation of a configuration make the filters of its sections, whatever way the configuration
was loaded, and the data of a site is always written as JSON.
-/

namespace DocPortal

/-! ## Data that is written -/

namespace Data

/-- Items are written one by one. -/
theorem toJson_sequence_map {α : Type} {l : List α} {f : α → Data} {g : α → Json}
    (h : ∀ a, (f a).toJson = .ok (g a)) : (sequence (l.map f)).toJson = .ok (.array (l.map g)) := by
  have hitems : toJsonItems (l.map f) = .ok (l.map g) := by
    induction l with
    | nil => rfl
    | cons a l ih => exact toJsonItems_cons_ok (h a) ih
  rw [toJson_sequence, hitems]
  rfl

/-- Entries whose keys are texts are written one by one. -/
theorem toJson_map_map {α : Type} {l : List α} {key : α → String} {f : α → Data} {g : α → Json}
    (h : ∀ a, (f a).toJson = .ok (g a)) :
    (map (l.map fun a => (.text (key a), f a))).toJson =
      .ok (.object (l.map fun a => (key a, g a))) := by
  have hmembers : toJsonMembers (l.map fun a => (.text (key a), f a)) =
      .ok (l.map fun a => (key a, g a)) := by
    induction l with
    | nil => rfl
    | cons a l ih => exact toJsonMembers_cons_ok (h a) ih
  rw [toJson_map, hmembers]
  rfl

/-- A field of a record and the member that it is written as. -/
def IsWritten (field : String × Data) (member : String × Json) : Prop :=
  field.1 = member.1 ∧ field.2.toJson = .ok member.2

theorem toJsonMembers_fields {l : List (String × Data)} {members : List (String × Json)}
    (h : List.Forall₂ IsWritten l members) : toJsonMembers (fields l) = .ok members := by
  induction h with
  | nil => rfl
  | @cons field member l members hfield _ ih =>
    obtain ⟨hkey, hvalue⟩ := hfield
    show toJsonMembers ((.text field.1, field.2) :: fields l) = .ok (member :: members)
    rw [hkey]
    exact toJsonMembers_cons_ok hvalue ih

/-- A record is written field by field. -/
theorem toJson_record {l : List (String × Data)} {members : List (String × Json)}
    (h : List.Forall₂ IsWritten l members) : (record l).toJson = .ok (.object members) := by
  rw [record, toJson_map, toJsonMembers_fields h]
  rfl

end Data

theorem HeadTag.toJson_data (t : HeadTag) : t.data.toJson = .ok t.toJson := by
  have hattrs : (Data.map (t.attrs.map fun a => (.text a.1, .text a.2))).toJson =
      .ok (.object (t.attrs.map fun a => (a.1, .text a.2))) := Data.toJson_map_map fun _ => rfl
  rw [data, Data.toJson_sequence,
    Data.toJsonItems_cons_ok rfl (Data.toJsonItems_cons_ok hattrs Data.toJsonItems_nil)]
  rfl

theorem NavLink.toJson_data (l : NavLink) : l.data.toJson = .ok l.toJson := rfl

theorem Theme.toJson_data (t : Theme) : t.data.toJson = .ok t.toJson := by
  have hnavbar := Data.toJson_sequence_map (l := t.navbar) NavLink.toJson_data
  refine Data.toJson_record ?_
  simp [Data.IsWritten, members, hnavbar]

theorem Group.toJson_data (g : Group) : g.data.toJson = .ok g.toJson := by
  have hchildren : (Data.sequence (g.children.map .text)).toJson = .ok (Json.texts g.children) :=
    Data.toJson_sequence_map fun _ => rfl
  refine Data.toJson_record ?_
  simp [Data.IsWritten, hchildren]

theorem SidebarMap.toJson_data (m : SidebarMap) : (data m).toJson = .ok (toJson m) := by
  refine Data.toJson_map_map ?_
  intro entry
  exact Data.toJson_sequence_map Group.toJson_data

namespace SiteConfig

/-- The members of the theme options come first, and the sidebar stands beside them. -/
theorem toJson_themeData (c : SiteConfig) :
    c.themeData.toJson = .ok (.object (c.theme.members ++ [("sidebar", SidebarMap.toJson c.sidebar)])) := by
  have hsidebar : Data.toJsonMembers (Data.fields [("sidebar", SidebarMap.data c.sidebar)]) =
      .ok [("sidebar", SidebarMap.toJson c.sidebar)] := by
    refine Data.toJsonMembers_fields ?_
    simp [Data.IsWritten, SidebarMap.toJson_data]
  exact Data.toJson_flattened_ok c.theme.toJson_data hsidebar

/-- The data of a site is always written, and what it is written as is the JSON of the site. -/
theorem toJson_data (c : SiteConfig) : c.data.toJson = .ok c.toJson := by
  have hhead : (Data.sequence (c.head.map HeadTag.data)).toJson =
      .ok (.array (c.head.map HeadTag.toJson)) := Data.toJson_sequence_map HeadTag.toJson_data
  refine Data.toJson_record ?_
  simp [Data.IsWritten, hhead, toJson_themeData]

end SiteConfig

/-! ## Settings of a loaded configuration -/

theorem Result.exists_mapM_ok {ε α β : Type} {f : α → Except ε β} {as : List α}
    (h : ∀ a ∈ as, ∃ b, f a = .ok b) : ∃ bs, as.mapM f = .ok bs := by
  induction as with
  | nil => exact ⟨[], rfl⟩
  | cons a as ih =>
    obtain ⟨b, hb⟩ := h a List.mem_cons_self
    obtain ⟨bs, hbs⟩ := ih fun a' ha' => h a' (List.mem_cons_of_mem a ha')
    exact ⟨b :: bs, mapM_ok_iff.2 (.cons hb (mapM_ok_iff.1 hbs))⟩

namespace Config

/-- The sections of a valid portal keep their extensions wherever their directories are seen from, and so
all of them can be used. -/
theorem exists_settings {c : Config} (hresolved : c.Resolved) (hvalid : c.portal.Valid) :
    ∃ settings, c.settings = .ok settings := by
  have hsections : ∀ e ∈ c.sections, ∃ s, SectionEntry.toSection e = .ok s := by
    intro e he
    rw [hresolved] at he
    obtain ⟨entry, hentry, rfl⟩ := List.mem_map.1 he
    obtain ⟨-, -, -, f, hf⟩ := hvalid.sections entry hentry
    exact ⟨_, Result.bind_ok_iff.2 ⟨f, hf, rfl⟩⟩
  obtain ⟨sidebar, hsidebar⟩ := Result.exists_mapM_ok hsections
  exact ⟨_, Result.bind_ok_iff.2 ⟨sidebar, hsidebar, rfl⟩⟩

end Config

/-! ## Failures of a build -/

namespace Command

/-- A site of a loaded configuration is not assembled only if the directory of a section cannot be listed.
-/
theorem assembleSite_error {m : Machine} {c : Config} {e : CommandError} (hresolved : c.Resolved)
    (hvalid : c.portal.Valid) (h : assembleSite m c = .error e) :
    ∃ settings e', c.settings = .ok settings ∧ e = .directoryAccess e' ∧
      ((Assembly.assemble (Disk.listing m.cwd) settings).run m.files).result = .error e' := by
  obtain ⟨settings, hsettings⟩ := Config.exists_settings hresolved hvalid
  rw [assembleSite, hsettings] at h
  obtain ⟨e', he', rfl⟩ := Result.mapError_error_iff.1 h
  exact ⟨settings, e', hsettings, rfl, he'⟩

/-- **A build fails only on what it finds outside.**  The settings of every loaded configuration can be
made, the data of every site is written, and a site that is assembled is printed. A build that fails could
not load its configuration, could not list a directory or could not write its output file. -/
theorem build_fails_outside (m : Machine) :
    (∀ file overrides c, Config.load m file overrides = .ok c → ∃ settings, c.settings = .ok settings) ∧
      (∀ site : SiteConfig, site.data.toJson = .ok site.toJson) ∧
      (∀ a c site, Config.load m a.config? (some a.overrides) = .ok c → assembleSite m c = .ok site →
        a.output? = none → (build m a).result = .ok () ∧
          (build m a).stdout = (if a.compact then site.toJson.compact else site.toJson.pretty) ++ "\n") ∧
      ∀ a e, (build m a).result = .error e →
        (∃ e', e = .config e' ∧ Config.load m a.config? (some a.overrides) = .error e') ∨
          (∃ e' c settings, e = .directoryAccess e' ∧
            Config.load m a.config? (some a.overrides) = .ok c ∧ c.settings = .ok settings ∧
            ((Assembly.assemble (Disk.listing m.cwd) settings).run m.files).result = .error e') ∨
          ∃ f file, e = .output f ∧ a.output? = some file := by
  refine ⟨?_, SiteConfig.toJson_data, ?_, ?_⟩
  · intro file overrides c hload
    obtain ⟨hresolved, hvalid⟩ := Config.resolved_and_valid_of_load hload
    exact Config.exists_settings hresolved hvalid
  · intro a c site hload hsite houtput
    rw [build_printed hload hsite houtput]
    exact ⟨rfl, rfl⟩
  · intro a e h
    rw [build] at h
    split at h
    · rename_i e' hload
      cases h
      exact .inl ⟨e', rfl, hload⟩
    · rename_i c hload
      obtain ⟨hresolved, hvalid⟩ := Config.resolved_and_valid_of_load hload
      split at h
      · rename_i e' hsite
        cases h
        obtain ⟨settings, e', hsettings, rfl, hfailure⟩ := assembleSite_error hresolved hvalid hsite
        exact .inr (.inl ⟨e', c, settings, rfl, hload, hsettings, hfailure⟩)
      · split at h
        · cases h
        · rename_i file houtput
          obtain ⟨⟨f, rfl⟩, -, -⟩ := writeOutput_error h
          exact .inr (.inr ⟨f, file, rfl, houtput⟩)

/-- The settings of the handbook can be made; where there are no files, what cannot be done is to list the
directory of the stock portal. -/
theorem build_fails_outside_handbook :
    (∃ c, Config.load handbook none (some handbookArguments.overrides) = .ok c ∧
        ∃ settings, c.settings = .ok settings) ∧
      ∃ e, (build { files := .empty } {}).result = .error (.directoryAccess e) := by
  constructor
  · obtain ⟨c, site, hload, -, -⟩ := build_ok build_handbook
    exact ⟨c, hload, (build_fails_outside handbook).1 none _ c hload⟩
  · have hfails : (build { files := .empty } {}).result.isOk = false := by decide +kernel
    have hloads : (Config.load { files := .empty } none (some {})).isOk = true := by decide +kernel
    cases hresult : (build { files := .empty } {}).result with
    | ok u =>
      rw [hresult] at hfails
      cases hfails
    | error e =>
      obtain ⟨e', -, hload⟩ | ⟨e', c, settings, rfl, -, -, -⟩ | ⟨f, file, -, houtput⟩ :=
        (build_fails_outside { files := .empty }).2.2.2 {} e hresult
      · have hload' : Config.load { files := .empty } none (some {}) = .error e' := hload
        rw [hload'] at hloads
        cases hloads
      · exact ⟨e', rfl⟩
      · cases houtput

end Command
end DocPortal
