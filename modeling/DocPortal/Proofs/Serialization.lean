import DocPortal.Proofs.Assembly
import DocPortal.Proofs.Encoding

/-!
# A serialized site determines the site

The text that a site configuration is written as is decoded to the tree of its parts, with attributes and
members in their order and with names that repeat kept apart. Different sites have different trees, and so
the text of a site is that of no other site. The sidebar of a site that was assembled has its routes in
ascending order.
-/

namespace DocPortal

/-! ## Different parts are written differently -/

theorem HeadTag.toJson_injective : Function.Injective HeadTag.toJson := by
  rintro ⟨tag, attrs⟩ ⟨tag', attrs'⟩ h
  have hattr : Function.Injective fun a : String × String => (a.1, Json.text a.2) := by
    rintro ⟨name, value⟩ ⟨name', value'⟩ h
    cases h
    rfl
  simp only [toJson, Json.array.injEq, List.cons.injEq, Json.text.injEq, Json.object.injEq, and_true] at h
  rw [h.1, hattr.list_map h.2]

theorem NavLink.toJson_injective : Function.Injective NavLink.toJson := by
  rintro ⟨text, link⟩ ⟨text', link'⟩ h
  cases h
  rfl

theorem Group.toJson_injective : Function.Injective Group.toJson := by
  rintro ⟨text, children⟩ ⟨text', children'⟩ h
  have htext : Function.Injective Json.text := fun _ _ h => Json.text.inj h
  simp only [toJson, Json.texts, Json.object.injEq, List.cons.injEq, Prod.mk.injEq, Json.text.injEq,
    Json.array.injEq, true_and, and_true] at h
  rw [h.1, htext.list_map h.2]

theorem SidebarMap.toJson_injective : Function.Injective SidebarMap.toJson := by
  intro m m' h
  have hentry : Function.Injective fun entry : String × List Group =>
      (entry.1, Json.array (entry.2.map Group.toJson)) := by
    rintro ⟨route, groups⟩ ⟨route', groups'⟩ h
    simp only [Prod.mk.injEq, Json.array.injEq] at h
    rw [h.1, Group.toJson_injective.list_map h.2]
  exact hentry.list_map (Json.object.inj h)

theorem Theme.members_injective : Function.Injective Theme.members := by
  rintro ⟨⟩ ⟨⟩ h
  simp only [members, List.cons.injEq, Prod.mk.injEq, Json.text.injEq, Json.array.injEq,
    Json.boolean.injEq, true_and, and_true] at h
  obtain ⟨rfl, hnavbar, rfl, rfl, rfl, rfl, rfl⟩ := h
  rw [NavLink.toJson_injective.list_map hnavbar]

theorem SiteConfig.toJson_injective : Function.Injective SiteConfig.toJson := by
  rintro ⟨⟩ ⟨⟩ h
  simp only [toJson, Json.object.injEq, List.cons.injEq, Prod.mk.injEq, Json.text.injEq, Json.array.injEq,
    Json.boolean.injEq, true_and, and_true] at h
  obtain ⟨rfl, rfl, rfl, rfl, hhead, rfl, htheme⟩ := h
  obtain ⟨hmembers, hsidebar⟩ := List.append_inj htheme rfl
  simp only [List.cons.injEq, Prod.mk.injEq, true_and, and_true] at hsidebar
  rw [HeadTag.toJson_injective.list_map hhead, Theme.members_injective hmembers,
    SidebarMap.toJson_injective hsidebar]

/-! ## Sites -/

/-- An assembled site has each route once, in ascending order. -/
theorem Assembly.ascending_of_assemble {σ : Type} {l : Listing σ} {settings : SiteSettings} {st : σ}
    {c : SiteConfig} (h : ((assemble l settings).run st).result = .ok c) : c.sidebar.Ascending := by
  rcases groupsFrom_or_first_failure l st settings.sidebar with
    ⟨groups, last, hgroups⟩ | ⟨before, s, after, groups, next, e, hs, hb, he⟩
  · rw [(run_assemble_of_groupsFrom hgroups).1] at h
    cases h
    exact SidebarMap.ascending_nil.addAll _
  · rw [(run_assemble_of_first_failure hs hb he).1] at h
    cases h

namespace SiteConfig

/-- **The text of a site determines the site.**  It is decoded to the tree that shows all parts of the site
in their order, the options of the theme beside the sidebar; the routes of an assembled site ascend in that
tree; and sites with the same text are the same. -/
theorem decode_compact_and_injective :
    (∀ c : SiteConfig, Json.decode c.toJson.compact = some (.object [
      ("base", .text c.base), ("lang", .text c.lang), ("title", .text c.title),
      ("description", .text c.description),
      ("head", .array (c.head.map fun tag =>
        .array [.text tag.tag, .object (tag.attrs.map fun a => (a.1, .text a.2))])),
      ("editLink", .boolean c.editLink),
      ("themeConfig", .object [
        ("logo", .text c.theme.logo),
        ("navbar", .array (c.theme.navbar.map fun link =>
          .object [("text", .text link.text), ("link", .text link.link)])),
        ("repo", .text c.theme.repo), ("repoLabel", .text c.theme.repoLabel),
        ("contributors", .boolean c.theme.contributors), ("editLink", .boolean c.theme.editLink),
        ("lastUpdated", .boolean c.theme.lastUpdated),
        ("sidebar", .object (c.sidebar.map fun entry => (entry.1, .array (entry.2.map fun group =>
          .object [("text", .text group.text), ("isGroup", .boolean true),
            ("children", .array (group.children.map .text))]))))])])) ∧
      (∀ (s : String) (j : Json), Json.decode s = some j ↔ Json.IsText s.toList j) ∧
      (∀ (σ : Type) (l : Listing σ) (settings : SiteSettings) (st : σ) (c : SiteConfig),
        ((Assembly.assemble l settings).run st).result = .ok c → c.sidebar.Ascending) ∧
      ∀ c c' : SiteConfig, c.toJson.compact = c'.toJson.compact → c = c' := by
  refine ⟨fun c => Json.decode_compact c.toJson, fun s j => Json.decode_eq_some_iff, ?_, ?_⟩
  · intro σ l settings st c h
    exact Assembly.ascending_of_assemble h
  · intro c c' h
    exact toJson_injective (Json.compact_injective h)

/-- A site with quotes, a backslash, control characters and others, a tag with an attribute that stands
twice, and a theme with an option of the same name as one of the site. -/
def placard : SiteConfig where
  base := "/"
  lang := "fr"
  title := "\"Été\" \\ \u0001\n"
  description := ""
  head := [⟨"meta", [("name", "a"), ("name", "b")]⟩, ⟨"", []⟩]
  editLink := true
  theme := { navbar := [⟨"😀", "/"⟩] }
  sidebar := [("/a/", []), ("/b/", [⟨"B", ["x.md", "y.md"]⟩])]

/-- The tree of that site, and no other site has its text. -/
theorem decode_compact_and_injective_placard :
    Json.decode placard.toJson.compact = some (.object [
        ("base", .text "/"), ("lang", .text "fr"), ("title", .text "\"Été\" \\ \u0001\n"),
        ("description", .text ""),
        ("head", .array [.array [.text "meta", .object [("name", .text "a"), ("name", .text "b")]],
          .array [.text "", .object []]]),
        ("editLink", .boolean true),
        ("themeConfig", .object [
          ("logo", .text ""), ("navbar", .array [.object [("text", .text "😀"), ("link", .text "/")]]),
          ("repo", .text ""), ("repoLabel", .text ""), ("contributors", .boolean false),
          ("editLink", .boolean false), ("lastUpdated", .boolean false),
          ("sidebar", .object [("/a/", .array []), ("/b/", .array [.object [("text", .text "B"),
            ("isGroup", .boolean true), ("children", .array [.text "x.md", .text "y.md"])]])])])]) ∧
      ∀ c : SiteConfig, c.toJson.compact = placard.toJson.compact → c = placard := by
  obtain ⟨htree, -, -, hinjective⟩ := decode_compact_and_injective
  exact ⟨htree placard, fun c hc => hinjective c placard hc⟩

end SiteConfig
end DocPortal
