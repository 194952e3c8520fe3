import DocPortal.Config.Basic

/-!
# Settings of a configuration
-/

namespace DocPortal

/-- The section that a configured one describes, if its extensions make a filter. -/
def SectionEntry.toSection (s : SectionEntry Path) : Except FilterError Section := do
  let extensions ← ExtensionFilter.ofList s.extensions
  return {
    route := s.route
    title := s.title
    dir := s.dir
    extensions
    exclude := s.exclude
    order := s.order }

/-- The literal inputs of an assembly that a configuration gives. -/
def Config.settings (c : Config) : Except FilterError SiteSettings := do
  let sidebar ← c.sections.mapM SectionEntry.toSection
  return {
    base := c.portal.site.base
    lang := c.portal.site.lang
    title := c.portal.site.title
    description := c.portal.site.description
    head := c.portal.head
    editLink := c.portal.site.editLink
    theme := c.portal.theme
    sidebar }

end DocPortal
