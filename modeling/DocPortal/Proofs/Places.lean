import DocPortal.Proofs.References

/-!
# Expanding place by place

The texts of a portal that may refer to variables stand in places, which have an order: the base, the logo, the
repository, the source directory, then attribute values tag by tag, link targets and section directories. A portal
is expanded as its places are, one after the other and each on its own. So it can be expanded exactly if all of
them can, and if not, it is the first place that cannot be expanded whose fault is reported.

## Main definitions

* `Portal.places` — the texts that may refer to variables, in order, each with the field it stands in.
* `GoesThrough` — a computation fails as some places do, one after the other.
-/

namespace DocPortal

/-! ## Places -/

/-- A text that may refer to variables, and the field it stands in. -/
abbrev TextPlace := Field × String

/-- The attribute values of the tag with a number. -/
def HeadTag.places (i : Nat) (t : HeadTag) : List TextPlace := t.attrs.map fun a => (.headAttr i a.1, a.2)

/-- The texts of a portal that may refer to variables, in order. -/
def Portal.places (p : Portal) : List TextPlace :=
  (.siteBase, p.site.base) :: (.themeLogo, p.theme.logo) :: (.themeRepo, p.theme.repo) ::
    (p.sourceDir?.toList.map (Prod.mk .sourceDir) ++
      (p.head.zipIdx.flatMap (fun (tag, i) => tag.places i) ++
        (p.theme.navbar.zipIdx.map (fun (link, i) => (.navLink i, link.link)) ++
          p.sections.zipIdx.map fun (s, i) => (.sectionDir i, s.dir))))

/-- Expands the text in a place for nothing but its fault. -/
def TextPlace.check (env : Environment) (place : TextPlace) : Except ReferenceError Unit :=
  (expandField env place.1 place.2).map fun _ => ()

theorem TextPlace.check_ok_iff {env : Environment} {place : TextPlace} :
    place.check env = .ok () ↔ ∃ s, expandField env place.1 place.2 = .ok s := by
  simp [check]

theorem TextPlace.check_error_iff {env : Environment} {place : TextPlace} {e : ReferenceError} :
    place.check env = .error e ↔ expandField env place.1 place.2 = .error e := by
  rw [check]
  cases expandField env place.1 place.2 <;> simp [Except.map]

/-- A fault is reported with the field that was expanded. -/
theorem field_of_expandField {env : Environment} {field : Field} {s : String} {e : ReferenceError}
    (h : expandField env field s = .error e) : e.field = field := by
  obtain ⟨fault, -, rfl⟩ := Result.mapError_error_iff.1 h
  rfl

/-! ## Computations that go through places -/

/-- A computation fails with the first fault among some places, and succeeds if there is none. -/
def GoesThrough {α : Type} (env : Environment) (places : List TextPlace) (r : Except ReferenceError α) : Prop :=
  r.map (fun _ => ()) = places.forM (TextPlace.check env)

namespace GoesThrough

variable {env : Environment} {α β : Type} {places places' : List TextPlace} {r : Except ReferenceError α}

theorem ok_iff (h : GoesThrough env places r) :
    (∃ a, r = .ok a) ↔ ∀ place ∈ places, ∃ s, expandField env place.1 place.2 = .ok s := by
  have hchecks : r.map (fun _ => ()) = .ok () ↔ ∀ place ∈ places, place.check env = .ok () := by
    rw [h, Result.forM_ok_iff]
  simpa [TextPlace.check_ok_iff] using hchecks

theorem error_iff (h : GoesThrough env places r) {e : ReferenceError} :
    r = .error e ↔ ∃ before place after, places = before ++ place :: after ∧
      (∀ b ∈ before, ∃ s, expandField env b.1 b.2 = .ok s) ∧ expandField env place.1 place.2 = .error e := by
  have hchecks : r = .error e ↔ places.forM (TextPlace.check env) = .error e := by
    rw [← h]
    cases r <;> simp [Except.map]
  simp only [hchecks, Result.forM_error_iff, TextPlace.check_ok_iff, TextPlace.check_error_iff]

theorem pure (a : α) : GoesThrough env [] (.ok a) := rfl

theorem field (field : Field) (s : String) : GoesThrough env [(field, s)] (expandField env field s) := by
  show (expandField env field s).map (fun _ => ()) = TextPlace.check env (field, s) >>= fun _ => .ok ()
  rw [TextPlace.check]
  cases expandField env field s <;> rfl

theorem map (h : GoesThrough env places r) (f : α → β) : GoesThrough env places (r.map f) := by
  rw [GoesThrough, ← h]
  cases r <;> rfl

/-- A sequence goes through the places of its first part and then through those of the rest. -/
theorem bind (h : GoesThrough env places r) {f : α → Except ReferenceError β}
    (hf : ∀ a, GoesThrough env places' (f a)) : GoesThrough env (places ++ places') (r >>= f) := by
  rw [GoesThrough, List.forM_eq_forM, List.forM_append, ← List.forM_eq_forM, ← h]
  cases r with
  | error e => rfl
  | ok a => exact hf a

/-- Elements one after the other go through the places of each. -/
theorem mapM {as : List α} {f : α → Except ReferenceError β} {g : α → List TextPlace}
    (h : ∀ a, GoesThrough env (g a) (f a)) : GoesThrough env (as.flatMap g) (as.mapM f) := by
  induction as with
  | nil => rfl
  | cons a as ih =>
    rw [List.mapM_cons, List.flatMap_cons]
    exact (h a).bind fun b => ih.map (b :: ·)

end GoesThrough

/-! ## Portals -/

section

variable (env : Environment)

theorem HeadTag.goesThrough_expand (i : Nat) (t : HeadTag) : GoesThrough env (t.places i) (t.expand env i) := by
  have hattrs : GoesThrough env (t.attrs.flatMap fun a => [(.headAttr i a.1, a.2)])
      (t.attrs.mapM fun a => (expandField env (.headAttr i a.1) a.2).map (a.1, ·)) :=
    .mapM fun a => (GoesThrough.field (.headAttr i a.1) a.2).map (a.1, ·)
  rw [← List.map_eq_flatMap] at hattrs
  exact hattrs.map fun attrs => { t with attrs }

theorem Portal.goesThrough_expandSourceDir (dir? : Option String) :
    GoesThrough env (dir?.toList.map (Prod.mk .sourceDir)) (expandSourceDir env dir?) := by
  cases dir? with
  | none => exact .pure none
  | some dir => exact (GoesThrough.field .sourceDir dir).map some

/-- A portal is expanded as its places are. -/
theorem Portal.goesThrough_expand (p : Portal) : GoesThrough env p.places (p.expand env) := by
  have hhead : GoesThrough env (p.head.zipIdx.flatMap fun (tag, i) => tag.places i)
      (p.head.zipIdx.mapM fun (tag, i) => tag.expand env i) :=
    .mapM fun (tag, i) => tag.goesThrough_expand env i
  have hnavbar : GoesThrough env (p.theme.navbar.zipIdx.map fun (link, i) => (.navLink i, link.link))
      (p.theme.navbar.zipIdx.mapM fun (link, i) => link.expand env i) := by
    rw [List.map_eq_flatMap]
    exact .mapM fun (link, i) =>
      (GoesThrough.field (.navLink i) link.link).map fun target => { link with link := target }
  have hsections : GoesThrough env (p.sections.zipIdx.map fun (s, i) => (.sectionDir i, s.dir))
      (p.sections.zipIdx.mapM fun (s, i) => s.expand env i) := by
    rw [List.map_eq_flatMap]
    exact .mapM fun (s, i) => (GoesThrough.field (.sectionDir i) s.dir).map s.withDir
  exact (GoesThrough.field .siteBase p.site.base).bind fun base =>
    (GoesThrough.field .themeLogo p.theme.logo).bind fun logo =>
    (GoesThrough.field .themeRepo p.theme.repo).bind fun repo =>
    (goesThrough_expandSourceDir env p.sourceDir?).bind fun _ =>
    hhead.bind fun _ => hnavbar.bind fun _ => hsections.map _

end

/-- **A portal is expanded place by place.**  It can be expanded exactly if the text in each of its places can.
Then each of these texts has become what it expands to on its own, and nothing else has changed: no other text, no
key of an attribute, and neither the number nor the order of tags, attributes, links and sections.  If it cannot be
expanded, the error is that of the first place, in their order, whose text cannot, and it names the field of this
place. -/
theorem expand_place_by_place (env : Environment) (p : Portal) :
    ((∃ p', p.expand env = .ok p') ↔ ∀ place ∈ p.places, ∃ s, expandField env place.1 place.2 = .ok s) ∧
      (∀ p', p.expand env = .ok p' → p.Expands env p') ∧
      ∀ e, p.expand env = .error e ↔ ∃ before field s after, p.places = before ++ (field, s) :: after ∧
        (∀ place ∈ before, ∃ t, expandField env place.1 place.2 = .ok t) ∧ expandField env field s = .error e ∧
        e.field = field := by
  have hgoes := p.goesThrough_expand env
  refine ⟨hgoes.ok_iff, fun p' => Portal.expands_of_expand, fun e => ?_⟩
  rw [hgoes.error_iff]
  constructor
  · rintro ⟨before, ⟨field, s⟩, after, hplaces, hbefore, hfault⟩
    exact ⟨before, field, s, after, hplaces, hbefore, hfault, field_of_expandField hfault⟩
  · rintro ⟨before, field, s, after, hplaces, hbefore, hfault, -⟩
    exact ⟨before, (field, s), after, hplaces, hbefore, hfault⟩

/-- A portal with references among its attributes, links and directories, two of them to the same variable. -/
def relayPortal : Portal where
  site := { Stock.site with base := "/$\x7bSTAGE\x7d/" }
  head := [⟨"meta", [("name", "relay"), ("content", "$\x7bSTAGE\x7d")]⟩,
    ⟨"link", [("rel", "icon"), ("href", "/$\x7bICON\x7d")]⟩]
  theme := { Stock.theme with navbar := [⟨"Top", "/"⟩, ⟨"Stage", "/$\x7bSTAGE\x7d/"⟩] }
  sections := [{ route := "/docs/", title := "Documentation", dir := "$\x7bICON\x7d" }]
  sourceDir? := some "$\x7bSOURCE:-src\x7d"

/-- Of two places with a variable that is unset the first one is named; once the variable is set, the portal is
expanded. -/
theorem expand_place_by_place_relay :
    (∃ e, relayPortal.expand [("STAGE", Text.encode "one")] = .error e ∧ e.field.name = "head[1].attrs.href" ∧
      e.fault.message = "$\x7bICON\x7d not set") ∧
    ∃ p', relayPortal.expand [("STAGE", Text.encode "one"), ("ICON", Text.encode "i.png")] = .ok p' ∧
      relayPortal.Expands [("STAGE", Text.encode "one"), ("ICON", Text.encode "i.png")] p' := by
  constructor
  · obtain ⟨-, -, hfails⟩ := expand_place_by_place [("STAGE", Text.encode "one")] relayPortal
    have hbefore : ∀ place ∈ relayPortal.places.take 7,
        (expandField [("STAGE", Text.encode "one")] place.1 place.2).isOk = true := by decide +kernel
    refine ⟨⟨.headAttr 1 "href", .unset "ICON"⟩, (hfails _).2 ⟨relayPortal.places.take 7, .headAttr 1 "href",
      "/$\x7bICON\x7d", relayPortal.places.drop 8, by decide +kernel,
      fun place hplace => Result.exists_ok_of_isOk (hbefore place hplace), by decide +kernel, rfl⟩, ?_, ?_⟩ <;>
      decide +kernel
  · obtain ⟨hsucceeds, hexpands, -⟩ :=
      expand_place_by_place [("STAGE", Text.encode "one"), ("ICON", Text.encode "i.png")] relayPortal
    have hplaces : ∀ place ∈ relayPortal.places,
        (expandField [("STAGE", Text.encode "one"), ("ICON", Text.encode "i.png")] place.1 place.2).isOk = true := by
      decide +kernel
    obtain ⟨p', hp'⟩ := hsucceeds.2 fun place hplace => Result.exists_ok_of_isOk (hplaces place hplace)
    exact ⟨p', hp', hexpands p' hp'⟩

end DocPortal
