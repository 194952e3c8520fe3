import DocPortal.Proofs.Result
import DocPortal.Site.Config
import Mathlib.Data.List.Basic

/-!
# Groups by route

A sidebar map grows by one group at a time. In a map whose routes ascend, adding a group changes the
list of its own route only, at the end, so that a map to which groups have been added one after the
other holds, under each route, the groups that were added there in their order, and nothing else.
-/

namespace DocPortal
namespace SidebarMap

/-- Each route stands once, in ascending order. -/
def Ascending (m : SidebarMap) : Prop := m.routes.Pairwise fun r r' => Text.precedes r r' = true

theorem ascending_nil : Ascending [] := List.Pairwise.nil

theorem ascending_cons {r : String} {gs : List Group} {m : SidebarMap} :
    Ascending ((r, gs) :: m) ↔ (∀ r' ∈ m.routes, Text.precedes r r' = true) ∧ Ascending m := by
  simp [Ascending, routes, List.pairwise_cons]

@[simp] theorem groups?_nil (r : String) : groups? [] r = none := rfl

theorem groups?_cons (r r' : String) (gs : List Group) (m : SidebarMap) :
    groups? ((r', gs) :: m) r = if r = r' then some gs else groups? m r := by
  by_cases h : r = r'
  · simp [groups?, h]
  · have hb : (r == r') = false := beq_eq_false_iff_ne.2 h
    simp [groups?, List.lookup_cons, hb, h]

/-- A route has a list of groups exactly if it is a route of the map. -/
theorem isSome_groups?_iff (m : SidebarMap) (r : String) :
    (m.groups? r).isSome = true ↔ r ∈ m.routes := by
  induction m with
  | nil => simp [routes]
  | cons e m ih =>
    obtain ⟨r', gs⟩ := e
    rw [groups?_cons]
    by_cases h : r = r'
    · simp [h, routes]
    · simpa [h, routes] using ih

theorem groups?_eq_none_iff (m : SidebarMap) (r : String) : m.groups? r = none ↔ r ∉ m.routes := by
  rw [← Option.not_isSome_iff_eq_none, isSome_groups?_iff]

/-- A list of the map is that of its route, as no route stands twice. -/
theorem groups?_of_mem {m : SidebarMap} (hm : m.Ascending) {r : String} {gs : List Group}
    (h : (r, gs) ∈ m) : m.groups? r = some gs := by
  induction m with
  | nil => cases h
  | cons e m ih =>
    obtain ⟨r', gs'⟩ := e
    obtain ⟨hhead, htail⟩ := ascending_cons.1 hm
    rw [groups?_cons]
    rcases List.mem_cons.1 h with heq | hmem
    · cases heq
      simp
    · have hne : r ≠ r' := by
        rintro rfl
        have hself := hhead r (List.mem_map.2 ⟨_, hmem, rfl⟩)
        simp at hself
      rw [if_neg hne]
      exact ih htail hmem

/-- A map is known by its lists: no other map whose routes ascend has the same under each route. -/
theorem Ascending.ext {m m' : SidebarMap} (hm : m.Ascending) (hm' : m'.Ascending)
    (h : ∀ r, m.groups? r = m'.groups? r) : m = m' := by
  refine Text.eq_of_pairwise_precedes (List.pairwise_map.1 hm) (List.pairwise_map.1 hm') fun e => ?_
  exact ⟨fun he => Result.mem_of_lookup_eq_some ((h e.1).symm.trans (groups?_of_mem hm he)),
    fun he => Result.mem_of_lookup_eq_some ((h e.1).trans (groups?_of_mem hm' he))⟩

/-! ## Adding one group -/

theorem mem_routes_add (route r : String) (g : Group) (m : SidebarMap) :
    r ∈ (add route g m).routes ↔ r = route ∨ r ∈ m.routes := by
  induction m with
  | nil => simp [add, routes]
  | cons e m ih =>
    obtain ⟨r', gs⟩ := e
    simp only [add]
    split
    · simp [routes]
    · split
      · rename_i heq
        subst heq
        simp [routes]
      · have ih' : r ∈ List.map (·.1) (add route g m) ↔ r = route ∨ r ∈ List.map (·.1) m := ih
        simp only [routes, List.map_cons, List.mem_cons, ih']
        exact or_left_comm

theorem Ascending.add {m : SidebarMap} (hm : m.Ascending) (route : String) (g : Group) :
    (SidebarMap.add route g m).Ascending := by
  induction m with
  | nil => simp [SidebarMap.add, Ascending, routes]
  | cons e m ih =>
    obtain ⟨r', gs⟩ := e
    obtain ⟨hhead, htail⟩ := ascending_cons.1 hm
    simp only [SidebarMap.add]
    split
    · rename_i hlt
      refine ascending_cons.2 ⟨?_, hm⟩
      intro r hr
      rcases List.mem_cons.1 hr with rfl | hr
      · exact hlt
      · exact Text.precedes_trans hlt (hhead r hr)
    · rename_i hnlt
      split
      · exact ascending_cons.2 ⟨hhead, htail⟩
      · rename_i hne
        refine ascending_cons.2 ⟨?_, ih htail⟩
        intro r hr
        rcases (mem_routes_add route r g m).1 hr with rfl | hr
        · rcases Text.precedes_or_eq_or_precedes r r' with h | h | h
          · exact absurd h hnlt
          · exact absurd h hne
          · exact h
        · exact hhead r hr

/-- The new group comes last under its route; the lists of all other routes stay as they are. -/
theorem groups?_add {m : SidebarMap} (hm : m.Ascending) (route : String) (g : Group) (r : String) :
    (add route g m).groups? r =
      if r = route then some ((m.groups? route).getD [] ++ [g]) else m.groups? r := by
  induction m with
  | nil =>
    rw [add, groups?_cons]
    rfl
  | cons e m ih =>
    obtain ⟨r', gs⟩ := e
    obtain ⟨hhead, htail⟩ := ascending_cons.1 hm
    simp only [add]
    split
    · rename_i hlt
      -- The route comes before all others, so the map had no list for it.
      have hnone : groups? ((r', gs) :: m) route = none := by
        rw [groups?_eq_none_iff]
        intro hmem
        have hlt' : Text.precedes route route = true := by
          rcases List.mem_cons.1 hmem with rfl | hmem
          · exact hlt
          · exact Text.precedes_trans hlt (hhead route hmem)
        simp at hlt'
      rw [groups?_cons, hnone]
      rfl
    · split
      · rename_i heq
        subst heq
        by_cases h : r = route <;> simp [groups?_cons, h]
      · rename_i hne
        rw [groups?_cons, ih htail, groups?_cons, groups?_cons]
        by_cases h : r = r'
        · have hr : r ≠ route := fun hr => hne (hr.symm.trans h)
          simp [h, Ne.symm hne]
        · simp [h, hne]

/-- All groups of a map, whatever their routes. -/
def groups (m : SidebarMap) : List Group := m.flatMap (·.2)

theorem length_groups_add (route : String) (g : Group) (m : SidebarMap) :
    (add route g m).groups.length = m.groups.length + 1 := by
  induction m with
  | nil => rfl
  | cons e m ih =>
    obtain ⟨r', gs⟩ := e
    simp only [groups] at ih
    simp only [add]
    split
    · simp [groups]
    · split
      · simp only [groups, List.flatMap_cons, List.length_append, List.length_singleton]
        omega
      · simp only [groups, List.flatMap_cons, List.length_append, ih]
        omega

/-! ## Adding groups in turn -/

/-- The map with groups added one after the other, each under its route. -/
def addAll (m : SidebarMap) (entries : List (String × Group)) : SidebarMap :=
  entries.foldl (fun m e => add e.1 e.2 m) m

@[simp] theorem addAll_nil (m : SidebarMap) : addAll m [] = m := rfl

@[simp] theorem addAll_cons (m : SidebarMap) (e : String × Group) (entries : List (String × Group)) :
    addAll m (e :: entries) = addAll (add e.1 e.2 m) entries := rfl

/-- The groups that entries put under a route, in their order. -/
def groupsOn (r : String) (entries : List (String × Group)) : List Group :=
  (entries.filter (·.1 = r)).map (·.2)

theorem groupsOn_cons (r : String) (e : String × Group) (entries : List (String × Group)) :
    groupsOn r (e :: entries) = if e.1 = r then e.2 :: groupsOn r entries else groupsOn r entries := by
  by_cases h : e.1 = r <;> simp [groupsOn, h]

@[simp] theorem mem_groupsOn {r : String} {g : Group} {entries : List (String × Group)} :
    g ∈ groupsOn r entries ↔ (r, g) ∈ entries := by
  simp [groupsOn]

theorem Ascending.addAll {m : SidebarMap} (hm : m.Ascending) (entries : List (String × Group)) :
    (m.addAll entries).Ascending := by
  induction entries generalizing m with
  | nil => exact hm
  | cons e entries ih => exact ih (hm.add e.1 e.2)

theorem mem_routes_addAll (m : SidebarMap) (entries : List (String × Group)) (r : String) :
    r ∈ (m.addAll entries).routes ↔ r ∈ m.routes ∨ r ∈ entries.map (·.1) := by
  induction entries generalizing m with
  | nil => simp
  | cons e entries ih =>
    rw [addAll_cons, ih, mem_routes_add, List.map_cons, List.mem_cons, or_assoc, or_left_comm]

/-- Under each route stand the groups that were there and then those that were added, in their order. -/
theorem getD_groups?_addAll {m : SidebarMap} (hm : m.Ascending) (entries : List (String × Group))
    (r : String) :
    ((m.addAll entries).groups? r).getD [] = (m.groups? r).getD [] ++ groupsOn r entries := by
  induction entries generalizing m with
  | nil => simp [groupsOn]
  | cons e entries ih =>
    rw [addAll_cons, ih (hm.add e.1 e.2), groups?_add hm, groupsOn_cons]
    by_cases h : e.1 = r
    · simp [h]
    · simp [h, Ne.symm h]

/-- Groups that were added to the empty map stand under their routes, and no other route has a list. -/
theorem groups?_addAll (entries : List (String × Group)) (r : String) :
    groups? (addAll [] entries) r = if groupsOn r entries = [] then none else some (groupsOn r entries) := by
  have hall := getD_groups?_addAll ascending_nil entries r
  have hroutes := mem_routes_addAll [] entries r
  rw [← isSome_groups?_iff] at hroutes
  cases hgs : groups? (addAll [] entries) r with
  | none =>
    rw [hgs] at hall
    rw [if_pos (by simpa using hall.symm)]
  | some gs =>
    rw [hgs] at hall hroutes
    obtain rfl : gs = groupsOn r entries := by simpa using hall
    obtain ⟨⟨r', g⟩, he, rfl⟩ : ∃ e ∈ entries, e.1 = r := by simpa [routes] using hroutes.1 rfl
    rw [if_neg (List.ne_nil_of_mem (mem_groupsOn.2 he))]

/-- The order in which groups are added matters on each route only. -/
theorem addAll_eq_of_groupsOn {entries entries' : List (String × Group)}
    (h : ∀ r, groupsOn r entries = groupsOn r entries') : addAll [] entries = addAll [] entries' := by
  refine (ascending_nil.addAll _).ext (ascending_nil.addAll _) fun r => ?_
  rw [groups?_addAll, groups?_addAll, h]

theorem length_groups_addAll (m : SidebarMap) (entries : List (String × Group)) :
    (m.addAll entries).groups.length = m.groups.length + entries.length := by
  induction entries generalizing m with
  | nil => rfl
  | cons e entries ih =>
    rw [addAll_cons, ih, length_groups_add, List.length_cons]
    omega

/-! ## The map of some groups -/

/-- A map that shows groups under the routes that go with them, and nothing else: each route stands
once, in ascending order, and has its groups in their order. -/
structure Shows (m : SidebarMap) (routes : List String) (groups : List Group) : Prop where
  length_eq : groups.length = routes.length
  ascending : m.Ascending
  mem_routes : ∀ r, r ∈ m.routes ↔ r ∈ routes
  groups_eq : ∀ r ∈ m.routes, m.groups? r = some (groupsOn r (routes.zip groups))
  count_eq : m.groups.length = routes.length

/-- Adding groups in turn to the empty map gives the map that shows them. -/
theorem shows_addAll {routes : List String} {groups : List Group}
    (h : groups.length = routes.length) : Shows (addAll [] (routes.zip groups)) routes groups where
  length_eq := h
  ascending := ascending_nil.addAll _
  mem_routes r := by
    rw [mem_routes_addAll, List.map_fst_zip (Nat.le_of_eq h.symm)]
    simp [SidebarMap.routes]
  groups_eq r hr := by
    have hall := getD_groups?_addAll ascending_nil (routes.zip groups) r
    obtain ⟨gs, hgs⟩ := Option.isSome_iff_exists.1 ((isSome_groups?_iff _ r).2 hr)
    rw [hgs] at hall ⊢
    simpa using hall
  count_eq := by
    rw [length_groups_addAll, List.length_zip, h, Nat.min_self]
    exact Nat.zero_add _

namespace Shows

variable {m : SidebarMap} {routes : List String} {groups : List Group}

/-- There is one map that shows the groups under their routes. -/
theorem eq_addAll (h : Shows m routes groups) : m = addAll [] (routes.zip groups) := by
  have hall := shows_addAll h.length_eq
  refine h.ascending.ext hall.ascending fun r => ?_
  by_cases hr : r ∈ routes
  · rw [h.groups_eq r ((h.mem_routes r).2 hr), hall.groups_eq r ((hall.mem_routes r).2 hr)]
  · rw [(groups?_eq_none_iff m r).2 (mt (h.mem_routes r).1 hr),
      (groups?_eq_none_iff _ r).2 (mt (hall.mem_routes r).1 hr)]

/-- A list of the map holds the groups that go with its route. -/
theorem eq_groupsOn (h : Shows m routes groups) {r : String} {gs : List Group} (hr : (r, gs) ∈ m) :
    gs = groupsOn r (routes.zip groups) := by
  have hroute : r ∈ m.routes := List.mem_map.2 ⟨_, hr, rfl⟩
  exact Option.some.inj ((groups?_of_mem h.ascending hr).symm.trans (h.groups_eq r hroute))

/-- Every group of the map goes with the route under which it stands. -/
theorem mem_zip_of_mem (h : Shows m routes groups) {r : String} {gs : List Group} (hr : (r, gs) ∈ m)
    {g : Group} (hg : g ∈ gs) : (r, g) ∈ routes.zip groups := by
  rw [h.eq_groupsOn hr, mem_groupsOn] at hg
  exact hg

/-- Every group stands in the list of the route that goes with it. -/
theorem exists_mem_of_mem_zip (h : Shows m routes groups) {r : String} {g : Group}
    (hg : (r, g) ∈ routes.zip groups) : ∃ gs, (r, gs) ∈ m ∧ g ∈ gs := by
  have hroute : r ∈ m.routes := (h.mem_routes r).2 (List.of_mem_zip hg).1
  exact ⟨_, Result.mem_of_lookup_eq_some (h.groups_eq r hroute), mem_groupsOn.2 hg⟩

/-- No route has an empty list. -/
theorem ne_nil_of_mem (h : Shows m routes groups) {r : String} {gs : List Group}
    (hr : (r, gs) ∈ m) : gs ≠ [] := by
  have hroute : r ∈ routes := (h.mem_routes r).1 (List.mem_map.2 ⟨_, hr, rfl⟩)
  rw [← List.map_fst_zip (Nat.le_of_eq h.length_eq.symm), List.mem_map] at hroute
  obtain ⟨⟨_, g⟩, hmem, rfl⟩ := hroute
  have hg : g ∈ gs := by
    rw [h.eq_groupsOn hr, mem_groupsOn]
    exact hmem
  exact List.ne_nil_of_mem hg

end Shows

end SidebarMap
end DocPortal
