import DocPortal.Listing.Disk
import DocPortal.Proofs.Assembly

/-!
# Sections on different routes

A backend that answers a path alike whenever it is asked for it gives a section the same group whatever was
scanned before. Over such a backend only the order of the sections of one route matters: sections of different
routes may change places, and the same site is assembled. Memory and disk are such backends.

## Main definitions

* `Listing.Steady` — a backend answers a path alike, whatever it has been asked for.
* `Assembly.SameOnRoutes` — two lists have the same sections on each route, in the same order.
-/

namespace DocPortal

variable {σ : Type}

/-! ## Backends that answer alike -/

namespace Listing

/-- The state of a backend after it has been asked for paths in turn. -/
def after (l : Listing σ) (asked : List Path) (st : σ) : σ := asked.foldl (fun st p => (l.ask p st).state) st

@[simp] theorem after_cons (l : Listing σ) (p : Path) (asked : List Path) (st : σ) :
    l.after (p :: asked) st = l.after asked (l.ask p st).state := rfl

/-- From a state on, a backend answers a path alike, whatever it has been asked for in between. -/
def Steady (l : Listing σ) (st : σ) : Prop :=
  ∀ asked p, (l.ask p (l.after asked st)).result = (l.ask p st).result

theorem Steady.ask {l : Listing σ} {st : σ} (h : l.Steady st) (p : Path) : l.Steady (l.ask p st).state := by
  intro asked q
  exact (h (p :: asked) q).trans (h [p] q).symm

end Listing

/-- A listing in memory only counts what it is asked. -/
theorem MemoryListing.steady (m : MemoryListing) : MemoryListing.listing.Steady m := by
  intro asked p
  have hafter : ∃ calls, MemoryListing.listing.after asked m = { m with calls } := by
    induction asked generalizing m with
    | nil => exact ⟨m.calls, rfl⟩
    | cons q asked ih => exact ih { m with calls := m.calls + 1 }
  obtain ⟨calls, hcalls⟩ := hafter
  rw [hcalls]
  rfl

/-- A tree stays as it is when it is listed. -/
theorem Disk.steady (cwd : Location) (fs : FileSystem) : (Disk.listing cwd).Steady fs := by
  intro asked p
  have hafter : (Disk.listing cwd).after asked fs = fs := by
    induction asked with
    | nil => rfl
    | cons q asked ih => rw [Listing.after_cons, state_ask_listing, ih]
  rw [hafter]

namespace Assembly

variable {l : Listing σ} {st : σ} {sections sections' : List Section}

/-- Sections that give groups one by one give these groups one after the other. -/
theorem groupsFrom_of_steady {groups : List Group} (h : l.Steady st)
    (hgroups : List.Forall₂ (fun s g => ((Sidebar.group l s).run st).result = .ok g) sections groups) :
    ∃ last, GroupsFrom l st sections groups last := by
  induction sections generalizing groups st with
  | nil =>
    cases hgroups
    exact ⟨st, .nil st⟩
  | cons s sections ih =>
    cases hgroups with
    | cons head tail =>
      have hlater (s' : Section) : ((Sidebar.group l s').run (l.ask s.dir st).state).result =
          ((Sidebar.group l s').run st).result := Sidebar.result_run_group_congr (h [s.dir] s'.dir)
      obtain ⟨last, hlast⟩ := ih (h.ask s.dir) (tail.imp fun s' g hg => (hlater s').trans hg)
      exact ⟨last, .cons head hlast⟩

/-! ## Orders that agree on each route -/

/-- Two lists have the same sections on each route, in the same order. -/
def SameOnRoutes (sections sections' : List Section) : Prop :=
  ∀ r, sections.filter (·.route = r) = sections'.filter (·.route = r)

namespace SameOnRoutes

/-- Such lists have the same sections altogether. -/
theorem perm (h : SameOnRoutes sections sections') : sections.Perm sections' := by
  rw [List.perm_iff_count]
  intro s
  have hcount (sections : List Section) : (sections.filter (·.route = s.route)).count s = sections.count s :=
    List.count_filter (by simp)
  rw [← hcount sections, h, hcount]

/-- Neighbours on different routes may change places. -/
theorem swap {s s' : Section} (h : s.route ≠ s'.route) (before after : List Section) :
    SameOnRoutes (before ++ s :: s' :: after) (before ++ s' :: s :: after) := by
  intro r
  rw [List.filter_append, List.filter_append]
  by_cases hs : s.route = r
  · have hs' : s'.route ≠ r := fun hr => h (hs.trans hr.symm)
    simp [hs, hs']
  · simp [hs, List.filter_cons]

end SameOnRoutes

/-- The groups on a route are those of the sections on it. -/
theorem groupsOn_map (group : Section → Group) (sections : List Section) (r : String) :
    SidebarMap.groupsOn r (sections.map fun s => (s.route, group s)) =
      (sections.filter (·.route = r)).map group := by
  simp [SidebarMap.groupsOn, List.filter_map, Function.comp_def]

/-- The site that is assembled of sections which give groups one by one. -/
theorem result_assemble_of_steady {settings : SiteSettings} {group : Section → Group} (h : l.Steady st)
    (hgroup : ∀ s ∈ settings.sidebar, ((Sidebar.group l s).run st).result = .ok (group s)) :
    ((assemble l settings).run st).result = .ok (.ofSettings settings
      (SidebarMap.addAll [] (settings.sidebar.map fun s => (s.route, group s)))) := by
  have hgroups : List.Forall₂ (fun s g => ((Sidebar.group l s).run st).result = .ok g) settings.sidebar
      (settings.sidebar.map group) := List.forall₂_map_right_iff.2 (List.forall₂_same.2 hgroup)
  obtain ⟨last, hrun⟩ := groupsFrom_of_steady h hgroups
  rw [(run_assemble_of_groupsFrom hrun).1, List.zip_map']

/-- **Sections on different routes are independent.**  Over a backend that answers alike, from sections that all
give groups, the same site is assembled in any order of the sections that leaves the order on each route as it
is; so its text is the same in both layouts. -/
theorem assemble_of_same_on_routes (l : Listing σ) (settings : SiteSettings) (sections : List Section) (st : σ)
    (hsteady : l.Steady st) (hgroups : ∀ s ∈ settings.sidebar, ∃ g, ((Sidebar.group l s).run st).result = .ok g)
    (hsame : SameOnRoutes settings.sidebar sections) :
    ∃ site site', ((assemble l settings).run st).result = .ok site ∧
      ((assemble l { settings with sidebar := sections }).run st).result = .ok site' ∧ site' = site ∧
      site'.toJson.compact = site.toJson.compact ∧ site'.toJson.pretty = site.toJson.pretty := by
  have hnonempty : Nonempty Group := ⟨⟨"", []⟩⟩
  choose! group hgroup using hgroups
  have hgroup' : ∀ s ∈ sections, ((Sidebar.group l s).run st).result = .ok (group s) :=
    fun s hs => hgroup s (hsame.perm.mem_iff.2 hs)
  have hsidebar : SidebarMap.addAll [] (sections.map fun s => (s.route, group s)) =
      SidebarMap.addAll [] (settings.sidebar.map fun s => (s.route, group s)) := by
    refine SidebarMap.addAll_eq_of_groupsOn fun r => ?_
    rw [groupsOn_map, groupsOn_map, hsame]
  refine ⟨_, _, result_assemble_of_steady hsteady hgroup, result_assemble_of_steady hsteady hgroup', ?_⟩
  have hsite : SiteConfig.ofSettings { settings with sidebar := sections }
      (SidebarMap.addAll [] (sections.map fun s => (s.route, group s))) = .ofSettings settings
        (SidebarMap.addAll [] (settings.sidebar.map fun s => (s.route, group s))) := by
    rw [hsidebar]
    rfl
  exact ⟨hsite, by rw [hsite], by rw [hsite]⟩

/-- A section of the shelf. -/
def guide : Section := { route := "/r/", title := "Guide", dir := .ofString "a" }

/-- A section of the shelf on another route. -/
def reference : Section := { route := "/q/", title := "Reference", dir := .ofString "b" }

/-- A further section on the route of the first. -/
def appendix : Section := { route := "/r/", title := "Appendix", dir := .ofString "b", order := .name }

/-- The section of the other route may come first. -/
theorem assemble_of_same_on_routes_shelf :
    MemoryListing.listing.Steady shelf ∧
      SameOnRoutes [guide, reference, appendix] [reference, guide, appendix] ∧
      ∃ site, ((assemble MemoryListing.listing { sidebar := [guide, reference, appendix] }).run shelf).result =
          .ok site ∧
        ((assemble MemoryListing.listing { sidebar := [reference, guide, appendix] }).run shelf).result =
          .ok site := by
  have hsteady := MemoryListing.steady shelf
  have hroutes : guide.route ≠ reference.route := by decide
  have hsame : SameOnRoutes [guide, reference, appendix] [reference, guide, appendix] :=
    SameOnRoutes.swap hroutes [] [appendix]
  have hgroups : ∀ s ∈ [guide, reference, appendix],
      ((Sidebar.group MemoryListing.listing s).run shelf).result.isOk = true := by decide +kernel
  obtain ⟨site, site', hsite, hsite', rfl, -⟩ := assemble_of_same_on_routes MemoryListing.listing
    { sidebar := [guide, reference, appendix] } [reference, guide, appendix] shelf hsteady
    (fun s hs => Result.exists_ok_of_isOk (hgroups s hs)) hsame
  exact ⟨hsteady, hsame, site', hsite, hsite'⟩

end Assembly
end DocPortal
