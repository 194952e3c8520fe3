import DocPortal.Proofs.Build
import DocPortal.Proofs.Keys

/-!
# Head tags from file to output

The head of a site that is built is the one in the configuration file, tag by tag: each attribute stands in the
place in which it was written, under the key under which it was written, with the references in its value
expanded. A file without a head, and no file at all, give the head of the stock portal. Since no table of a
document has a key twice, no tag has an attribute twice, and so no object in what is built has a key twice.

## Main definitions

* `HeadTag.ReadFrom` — a tag is what a value of a document says.
* `Config.Document` — what the configuration file says, if there is one.
* `Config.HeadFrom` — a head is what a document says.
* `Json.DistinctKeys` — no object in a value has a key twice.
-/

namespace DocPortal

/-! ## Records -/

namespace Toml

namespace Value

variable {v : Value} {entries : Table}

/-- What a value gives to the fields of a record: the entries of a table under their keys, or the items of an
array in the order of the fields. -/
def fields? (keys : List String) (v : Value) : Option Table :=
  match ShapeReader.entries? v, v with
  | some entries, _ => some entries
  | none, .array items => some (keys.zip items)
  | none, _ => none

/-- A date-time that stands for a table has one key. -/
theorem DistinctKeys.of_entries? (h : v.DistinctKeys) (hv : ShapeReader.entries? v = some entries) :
    (table entries).DistinctKeys := by
  cases v with
  | table entries' =>
    cases hv
    exact h
  | dateTime d =>
    cases hv
    refine distinctKeys_table_iff.2 ⟨List.nodup_singleton _, List.forall_mem_singleton.2 ?_⟩
    exact IsScalar.distinctKeys trivial
  | _ => cases hv

theorem DistinctKeys.of_fields? {keys : List String} (h : v.DistinctKeys) (hv : v.fields? keys = some entries) :
    ∀ e ∈ entries, e.2.DistinctKeys := by
  unfold fields? at hv
  split at hv
  · rename_i hentries
    cases hv
    exact (distinctKeys_table_iff.1 (h.of_entries? hentries)).2
  · cases hv
    exact fun e he => distinctKeys_array_iff.1 h e.2 (List.of_mem_zip he).2
  · cases hv

end Value

namespace RecordReader

variable {α : Type} {r : RecordReader α} {a : α}

/-- A record that is read is built from what the value gives to its fields. -/
theorem build_of_read {name : String} {v : Value} (h : r.read name v = .ok a) :
    ∃ given missing, v.fields? (r.fields.map (·.1)) = some given ∧
      r.build (List.lookup · given) missing = .ok a := by
  cases hentries : ShapeReader.entries? v with
  | some entries =>
    have hgiven : v.fields? (r.fields.map (·.1)) = some entries := by
      unfold Value.fields?
      rw [hentries]
    have htable : r.readTable entries = .ok a := by
      unfold read at h
      rw [hentries] at h
      exact h
    exact ⟨entries, _, hgiven, build_of_readTable htable⟩
  | none =>
    cases v with
    | array items => exact ⟨_, _, rfl, h⟩
    | table entries => cases hentries
    | dateTime d => cases hentries
    | _ => cases h

end RecordReader

end Toml

open Toml RecordReader

/-! ## Tags -/

/-- The attributes of a tag are those of a table, one by one, with the references in their values expanded, and
each has a key of its own. A date-time counts as the table that can stand for it; a tag for which nothing is
written has no attributes. -/
inductive HeadTag.AttrsFrom (env : Environment) : Option Value → List (String × String) → Prop
  | missing : AttrsFrom env none []
  | written {v : Value} {entries : Table} {attrs : List (String × String)}
      (table : ShapeReader.entries? v = some entries)
      (each : List.Forall₂ (fun e a => a.1 = e.1 ∧ ∃ s, e.2 = .text s ∧ Template.expand env s = .ok a.2)
        entries attrs)
      (distinct : (attrs.map (·.1)).Nodup) : AttrsFrom env (some v) attrs

/-- A tag is what a value of a document says: it has the name and the attributes that are written there. -/
def HeadTag.ReadFrom (env : Environment) (v : Value) (t : HeadTag) : Prop :=
  ∃ given, v.fields? ["tag", "attrs"] = some given ∧ given.lookup "tag" = some (.text t.tag) ∧
    AttrsFrom env (given.lookup "attrs") t.attrs

namespace HeadTag

variable {env : Environment} {v : Value} {written t : HeadTag}

theorem nodup_of_attrsFrom {v? : Option Value} {attrs : List (String × String)} (h : AttrsFrom env v? attrs) :
    (attrs.map (·.1)).Nodup := by
  cases h with
  | missing => exact List.nodup_nil
  | written _ _ distinct => exact distinct

theorem attrsFrom_rightUnique (env : Environment) : Relator.RightUnique (AttrsFrom env) := by
  have hattr : Relator.RightUnique fun (e : String × Value) (a : String × String) =>
      a.1 = e.1 ∧ ∃ s, e.2 = .text s ∧ Template.expand env s = .ok a.2 := by
    rintro ⟨key, v⟩ ⟨key', value⟩ ⟨key'', value'⟩ ⟨rfl, s, rfl, hvalue⟩ ⟨rfl, s', hs, hvalue'⟩
    cases hs
    cases hvalue.symm.trans hvalue'
    rfl
  intro v? attrs attrs' h h'
  cases h with
  | missing =>
    cases h'
    rfl
  | written table each =>
    cases h' with
    | written table' each' =>
      cases table.symm.trans table'
      exact hattr.forall₂ each each'

/-- A value says one tag. -/
theorem readFrom_rightUnique (env : Environment) : Relator.RightUnique (ReadFrom env) := by
  rintro v ⟨tag, attrs⟩ ⟨tag', attrs'⟩ ⟨given, hgiven, htag, hattrs⟩ ⟨given', hgiven', htag', hattrs'⟩
  cases hgiven.symm.trans hgiven'
  cases htag.symm.trans htag'
  exact congrArg (HeadTag.mk tag) (attrsFrom_rightUnique env hattrs hattrs')

/-- Attributes are read in order and then expanded in their places. -/
theorem attrsFrom_of_expands {attrs attrs' : List (String × String)} (hv : v.DistinctKeys)
    (hread : ShapeReader.attributes v = .ok attrs)
    (hexpands : List.Forall₂ (fun a a' => a'.1 = a.1 ∧ Template.expand env a.2 = .ok a'.2) attrs attrs') :
    AttrsFrom env (some v) attrs' := by
  unfold ShapeReader.attributes at hread
  split at hread
  · rename_i entries hentries
    have hwritten : List.Forall₂ (fun e a => a.1 = e.1 ∧ e.2 = .text a.2) entries attrs := by
      refine (Result.mapM_ok_iff.1 hread).imp fun e a hea => ?_
      obtain ⟨s, hs, rfl⟩ := Result.map_ok_iff.1 hea
      exact ⟨rfl, ShapeReader.text_ok_iff.1 hs⟩
    have heach : List.Forall₂ (fun e a => a.1 = e.1 ∧ ∃ s, e.2 = .text s ∧ Template.expand env s = .ok a.2)
        entries attrs' :=
      Result.forall₂_comp hwritten hexpands fun e _ a a' hea haa' =>
        ⟨haa'.1.trans hea.1, a.2, hea.2, haa'.2⟩
    have hkeys : attrs'.map (·.1) = entries.map (·.1) := map_eq_map_of_forall₂ heach fun _ _ h => h.1
    refine .written hentries heach ?_
    rw [hkeys]
    exact (Value.distinctKeys_table_iff.1 (hv.of_entries? hentries)).1
  · cases hread

/-- A tag is read and then expanded. -/
theorem readFrom_of_expands {name : String} (hv : v.DistinctKeys)
    (hread : HeadTag.reader.read name v = .ok written) (hexpands : written.Expands env t) :
    t.ReadFrom env v := by
  obtain ⟨given, missing, hgiven, hbuild⟩ := build_of_read hread
  obtain ⟨mk, hmk, attrs, hattrs, rfl⟩ := build_seq_ok_iff.1 hbuild
  obtain ⟨tag, htag, rfl⟩ := build_map_ok_iff.1 hmk
  obtain ⟨w, hw, htext⟩ := build_required_ok_iff.1 htag
  rw [ShapeReader.text_ok_iff.1 htext] at hw
  refine ⟨given, hgiven, ?_, ?_⟩
  · rw [hexpands.tag]
    exact hw
  · obtain ⟨hnone, rfl⟩ | ⟨w, hw, hread⟩ := build_optional_ok_iff.1 hattrs
    · have hempty : t.attrs = [] := List.forall₂_nil_left_iff.1 hexpands.attrs
      rw [hnone, hempty]
      exact .missing
    · rw [hw]
      have hdistinct := hv.of_fields? hgiven _ (Result.mem_of_lookup_eq_some hw)
      exact attrsFrom_of_expands hdistinct hread hexpands.attrs

/-- A tag without references stays as it is. -/
theorem Expands.eq_of_plain {t t' : HeadTag} (h : t.Expands env t') (hplain : ∀ a ∈ t.attrs, ¬ Refers a.2) :
    t = t' := by
  have hattrs : List.Forall₂ (· = ·) t.attrs t'.attrs := by
    refine ((List.forall₂_and_left _ _).2 ⟨hplain, h.attrs⟩).imp ?_
    rintro a a' ⟨ha, hkey, hvalue⟩
    rw [Template.expand_of_not_refers ha] at hvalue
    exact Prod.ext hkey.symm (Except.ok.inj hvalue)
  rw [List.forall₂_eq_eq_eq] at hattrs
  obtain ⟨tag, attrs⟩ := t
  obtain ⟨tag', attrs'⟩ := t'
  obtain rfl : tag' = tag := h.tag
  obtain rfl : attrs = attrs' := hattrs
  rfl

theorem eq_of_expands_of_plain {l l' : List HeadTag} (h : List.Forall₂ (Expands env) l l')
    (hplain : ∀ t ∈ l, ∀ a ∈ t.attrs, ¬ Refers a.2) : l = l' := by
  rw [← List.forall₂_eq_eq_eq]
  exact ((List.forall₂_and_left _ _).2 ⟨hplain, h⟩).imp fun t t' ht => ht.2.eq_of_plain ht.1

end HeadTag

namespace Config

/-! ## Heads -/

/-- What the configuration file of a machine says, if there is one: the one that is asked for, or else the one
that is found. -/
inductive Document (m : Machine) (file : Option Path) : Option Table → Prop
  | file {found : Path} {document : String} {table : Table}
      (chosen : file = some found ∨ file = none ∧ discover? m = some found)
      (text : m.files.readText m.cwd found = .ok document) (parsed : Table.read document = .ok table) :
      Document m file (some table)
  | absent (unasked : file = none) (missing : discover? m = none) : Document m file none

/-- A head is what a document says: one tag for each item, in order, or the head of the stock portal if it has no
key for a head, or if there is no document. -/
inductive HeadFrom (env : Environment) : Option Table → List HeadTag → Prop
  | stock {table? : Option Table} (missing : table?.bind (List.lookup "head") = none) :
      HeadFrom env table? Stock.head
  | written {table : Table} {items : List Value} {head : List HeadTag}
      (given : table.lookup "head" = some (.array items))
      (each : List.Forall₂ (HeadTag.ReadFrom env) items head) : HeadFrom env (some table) head

variable {m : Machine} {env : Environment} {file : Option Path} {overrides : Option Overrides} {c : Config}

theorem nodup_of_headFrom {table? : Option Table} {head : List HeadTag} (h : HeadFrom env table? head) :
    ∀ t ∈ head, (t.attrs.map (·.1)).Nodup := by
  cases h with
  | stock _ => decide +kernel
  | written _ each =>
    intro t ht
    obtain ⟨v, -, hread⟩ := Result.exists_of_forall₂_of_mem each ht
    obtain ⟨given, -, -, hattrs⟩ := hread
    exact HeadTag.nodup_of_attrsFrom hattrs

/-- The head of a portal that is read from a table is the list of tags under its key. -/
theorem head_of_ofTable {table : Table} {p : Portal} (h : Portal.ofTable table = .ok p) :
    (table.lookup "head" = none ∧ p.head = Stock.head) ∨
      ∃ items, table.lookup "head" = some (.array items) ∧
        List.Forall₂ (fun v t => HeadTag.reader.read "HeadTagConfig" v = .ok t) items p.head := by
  obtain ⟨_, hsections, source?, -, rfl⟩ := build_seq_ok_iff.1 (build_of_readTable h)
  obtain ⟨_, hnavbar, sections, -, rfl⟩ := build_seq_ok_iff.1 hsections
  obtain ⟨_, htheme, navbar, -, rfl⟩ := build_seq_ok_iff.1 hnavbar
  obtain ⟨_, hhead, theme, -, rfl⟩ := build_seq_ok_iff.1 htheme
  obtain ⟨_, hsite, head, htags, rfl⟩ := build_seq_ok_iff.1 hhead
  obtain ⟨site, -, rfl⟩ := build_map_ok_iff.1 hsite
  obtain ⟨hnone, rfl⟩ | ⟨v, hv, hread⟩ := build_optional_ok_iff.1 htags
  · exact .inl ⟨hnone, rfl⟩
  · cases v with
    | array items => exact .inr ⟨items, hv, Result.mapM_ok_iff.1 hread⟩
    | _ => cases hread

theorem headFrom_of_expand {document : String} {table : Table} {p p' : Portal}
    (hread : Table.read document = .ok table) (hp : Portal.ofTable table = .ok p)
    (hexpand : p.expand env = .ok p') : HeadFrom env (some table) p'.head := by
  have hexpands := (Portal.expands_of_expand hexpand).head
  obtain ⟨hnone, hstock⟩ | ⟨items, hitems, htags⟩ := head_of_ofTable hp
  · rw [hstock] at hexpands
    rw [← HeadTag.eq_of_expands_of_plain hexpands Portal.plain_stock.attrs]
    exact .stock hnone
  · have hdistinct : (Value.array items).DistinctKeys :=
      (Value.distinctKeys_table_iff.1 (Table.distinctKeys_of_read hread)).2 _ (Result.mem_of_lookup_eq_some hitems)
    refine .written hitems (Result.forall₂_comp htags hexpands fun v hv t t' ht htt' => ?_)
    exact HeadTag.readFrom_of_expands (Value.distinctKeys_array_iff.1 hdistinct v hv) ht htt'

/-- The head of a configuration that is loaded is what its file says. -/
theorem headFrom_of_load (h : load m file overrides = .ok c) :
    ∃ table?, Document m file table? ∧ HeadFrom m.env table? c.portal.head := by
  obtain ⟨found, hfound, rfl⟩ := load_ok h
  obtain ⟨written, dir, p, horigin, hexpand, hp⟩ := find_ok hfound
  have hhead : (found.override (overrides.getD {})).portal.head = p.head := by
    rw [(found.override_eq _).1, hp]
    rfl
  rw [hhead]
  clear hp
  generalize found.path? = path? at horigin
  cases horigin with
  | file hchosen htext hparsed _ =>
    obtain ⟨table, hread, hofTable⟩ := Result.bind_ok_iff.1 hparsed
    rw [Result.mapError_ok_iff] at hread hofTable
    exact ⟨some table, .file hchosen htext hread, headFrom_of_expand hread hofTable hexpand⟩
  | stock hunasked hmissing =>
    rw [Portal.expand_of_plain Portal.plain_stock] at hexpand
    cases hexpand
    exact ⟨none, .absent hunasked hmissing, .stock rfl⟩

theorem chosen_iff {found : Path} :
    (file = some found ∨ file = none ∧ discover? m = some found) ↔ (file <|> discover? m) = some found := by
  cases file <;> simp

/-- There is one document. -/
theorem document_rightUnique (m : Machine) : Relator.RightUnique (Document m) := by
  intro file table? table?' h h'
  cases h with
  | file hchosen htext hread =>
    rw [chosen_iff] at hchosen
    cases h' with
    | file hchosen' htext' hread' =>
      rw [chosen_iff] at hchosen'
      cases hchosen.symm.trans hchosen'
      cases htext.symm.trans htext'
      cases hread.symm.trans hread'
      rfl
    | absent hunasked hmissing => simp [hunasked, hmissing] at hchosen
  | absent hunasked hmissing =>
    cases h' with
    | file hchosen' _ _ =>
      rw [chosen_iff] at hchosen'
      simp [hunasked, hmissing] at hchosen'
    | absent _ _ => rfl

/-- A document says one head. -/
theorem headFrom_rightUnique (env : Environment) : Relator.RightUnique (HeadFrom env) := by
  intro table? head head' h h'
  cases h with
  | stock missing =>
    cases h' with
    | stock _ => rfl
    | written given' _ => cases missing.symm.trans given'
  | written given each =>
    cases h' with
    | stock missing' => cases given.symm.trans missing'
    | written given' each' =>
      cases given.symm.trans given'
      exact (HeadTag.readFrom_rightUnique env).forall₂ each each'

/-- The head that the document says is that of the configuration that is loaded. -/
theorem eq_head_of_load {table? : Option Table} {head : List HeadTag} (h : load m file overrides = .ok c)
    (hdocument : Document m file table?) (hhead : HeadFrom m.env table? head) : head = c.portal.head := by
  obtain ⟨table?', hdocument', hhead'⟩ := headFrom_of_load h
  obtain rfl := document_rightUnique m hdocument hdocument'
  exact headFrom_rightUnique m.env hhead hhead'

end Config

/-! ## Objects -/

namespace Json

/-- The value `j` is another one, or stands somewhere in it. -/
inductive Within (j : Json) : Json → Prop
  | self : Within j j
  | item {items : List Json} {k : Json} : k ∈ items → Within j k → Within j (.array items)
  | member {members : List (String × Json)} {key : String} {k : Json} :
      (key, k) ∈ members → Within j k → Within j (.object members)

/-- No object in a value has a key twice. -/
def DistinctKeys (j : Json) : Prop :=
  ∀ members : List (String × Json), Within (.object members) j → (members.map (·.1)).Nodup

theorem distinctKeys_array_iff {items : List Json} :
    (array items).DistinctKeys ↔ ∀ j ∈ items, j.DistinctKeys := by
  constructor
  · intro h j hj members hwithin
    exact h members (.item hj hwithin)
  · intro h members hwithin
    cases hwithin with
    | item hj hwithin => exact h _ hj members hwithin

theorem distinctKeys_object_iff {members : List (String × Json)} :
    (object members).DistinctKeys ↔ (members.map (·.1)).Nodup ∧ ∀ e ∈ members, e.2.DistinctKeys := by
  constructor
  · intro h
    exact ⟨h members .self, fun e he inner hwithin => h inner (.member he hwithin)⟩
  · rintro ⟨hkeys, hvalues⟩ inner hwithin
    cases hwithin with
    | self => exact hkeys
    | member he hwithin => exact hvalues _ he inner hwithin

@[simp] theorem distinctKeys_text (s : String) : (text s).DistinctKeys := by
  rintro members ⟨⟩

@[simp] theorem distinctKeys_boolean (b : Bool) : (boolean b).DistinctKeys := by
  rintro members ⟨⟩

@[simp] theorem distinctKeys_texts (ss : List String) : (texts ss).DistinctKeys := by
  simp [texts, distinctKeys_array_iff]

end Json

theorem HeadTag.distinctKeys_toJson {t : HeadTag} (h : (t.attrs.map (·.1)).Nodup) : t.toJson.DistinctKeys := by
  have hobject : (Json.object (t.attrs.map fun a => (a.1, .text a.2))).DistinctKeys := by
    rw [Json.distinctKeys_object_iff, List.map_map, List.forall_mem_map]
    exact ⟨h, fun a _ => Json.distinctKeys_text a.2⟩
  rw [toJson, Json.distinctKeys_array_iff, List.forall_mem_cons, List.forall_mem_singleton]
  exact ⟨Json.distinctKeys_text t.tag, hobject⟩

theorem NavLink.distinctKeys_toJson (l : NavLink) : l.toJson.DistinctKeys := by
  simp [toJson, Json.distinctKeys_object_iff]

theorem Group.distinctKeys_toJson (g : Group) : g.toJson.DistinctKeys := by
  simp [toJson, Json.distinctKeys_object_iff]

/-- Routes that ascend are distinct. -/
theorem SidebarMap.distinctKeys_toJson {m : SidebarMap} (h : m.Ascending) : (toJson m).DistinctKeys := by
  have hroutes : m.routes.Nodup := by
    refine h.imp fun hlt heq => ?_
    rw [heq, Text.precedes_irrefl] at hlt
    cases hlt
  rw [toJson, Json.distinctKeys_object_iff, List.map_map, List.forall_mem_map]
  refine ⟨hroutes, fun entry _ => ?_⟩
  rw [Json.distinctKeys_array_iff, List.forall_mem_map]
  exact fun g _ => g.distinctKeys_toJson

/-- In a site a key can stand twice among the attributes of a tag or among the routes, and nowhere else. -/
theorem SiteConfig.distinctKeys_toJson {site : SiteConfig} (hhead : ∀ t ∈ site.head, (t.attrs.map (·.1)).Nodup)
    (hsidebar : site.sidebar.Ascending) : site.toJson.DistinctKeys := by
  have htags : (Json.array (site.head.map HeadTag.toJson)).DistinctKeys := by
    rw [Json.distinctKeys_array_iff, List.forall_mem_map]
    exact fun t ht => HeadTag.distinctKeys_toJson (hhead t ht)
  have hlinks : (Json.array (site.theme.navbar.map NavLink.toJson)).DistinctKeys := by
    rw [Json.distinctKeys_array_iff, List.forall_mem_map]
    exact fun l _ => l.distinctKeys_toJson
  have htheme : (Json.object (site.theme.members ++ [("sidebar", site.sidebar.toJson)])).DistinctKeys := by
    simp [Json.distinctKeys_object_iff, Theme.members, hlinks, SidebarMap.distinctKeys_toJson hsidebar]
  simp [toJson, Json.distinctKeys_object_iff, htags, htheme]

namespace Command

/-! ## Builds -/

/-- **Head tags are built as they were written.**  What a build emits on success is decoded to a site whose head
has one pair for each tag that the configuration file lists, in the order of the file: the name that was written and
exactly the attributes that were written, in order and each once, with the references in their values expanded.  If
the file has no key for a head, or if there is no file, the head is that of the stock portal.  In the whole site no
object has a key twice. -/
theorem build_head_as_written (m : Machine) (a : BuildArguments) (h : (build m a).result = .ok ()) :
    ∃ text j table? head, Emits m a text ∧ Json.decode text = some j ∧ Config.Document m a.config? table? ∧
      Config.HeadFrom m.env table? head ∧
      j.member? "head" = some (.array (head.map fun tag =>
        .array [.text tag.tag, .object (tag.attrs.map fun attr => (attr.1, .text attr.2))])) ∧
      j.DistinctKeys := by
  obtain ⟨c, site, hload, hsite, hemits⟩ := build_ok h
  obtain ⟨table?, hdocument, hfrom⟩ := Config.headFrom_of_load hload
  obtain ⟨settings, groups, hsettings, hcopies, hshows, -⟩ := assembleSite_ok hsite
  obtain ⟨-, -, hhead, -, -⟩ := Config.settings_ok hsettings
  rw [← hhead, ← hcopies.head] at hfrom
  exact ⟨_, _, table?, site.head, hemits, decode_siteText a.compact site, hdocument, hfrom, rfl,
    SiteConfig.distinctKeys_toJson (Config.nodup_of_headFrom hfrom) hshows.ascending⟩

/-- The configuration of an atrium: a tag that is written as an array, whose attributes are not in the order of
their keys and one of which refers to a variable, and a tag without attributes. -/
def atriumText : String :=
  "head = [\n" ++
    "  [\"meta\", \x7b zeta = \"1\", alpha = \"$\x7bPLACE\x7d\", \"\" = \"\" \x7d],\n" ++
    "  \x7b tag = \"base\" \x7d\n" ++
    "]\n"

/-- A machine with an atrium. -/
def atrium : Machine where
  files := ⟨[
    (.ofNames ["portico.toml"], .file (Text.encode atriumText)),
    (.ofNames ["docs"], .directory)]⟩
  env := [("PLACE", Text.encode "south")]

/-- The head of an atrium is the one in its file, and that of the handbook is the stock one. -/
theorem build_head_as_written_atrium :
    ((build atrium {}).result = .ok () ∧
      ∃ j, Json.decode (build atrium {}).stdout = some j ∧
        j.member? "head" = some (.array [
          .array [.text "meta", .object [("zeta", .text "1"), ("alpha", .text "south"), ("", .text "")]],
          .array [.text "base", .object []]]) ∧ j.DistinctKeys) ∧
    (build handbook handbookArguments).result = .ok () ∧
      ∃ j, Json.decode (build handbook handbookArguments).stdout = some j ∧
        j.member? "head" = some (.array [
          .array [.text "link", .object [("rel", .text "icon"), ("type", .text "image/png"),
            ("sizes", .text "16x16"), ("href", .text "/favicon/favicon-16x16.png")]],
          .array [.text "link", .object [("rel", .text "icon"), ("type", .text "image/png"),
            ("sizes", .text "32x32"), ("href", .text "/favicon/favicon-32x32.png")]],
          .array [.text "link", .object [("rel", .text "manifest"), ("href", .text "/favicon/site.webmanifest")]],
          .array [.text "meta", .object [("name", .text "application-name"), ("content", .text "docs")]],
          .array [.text "meta", .object [("name", .text "apple-mobile-web-app-title"), ("content", .text "docs")]],
          .array [.text "meta", .object [("name", .text "apple-mobile-web-app-status-bar-style"),
            ("content", .text "black")]],
          .array [.text "link", .object [("rel", .text "apple-touch-icon"),
            ("href", .text "/favicon/apple-touch-icon.png")]],
          .array [.text "meta", .object [("name", .text "msapplication-TileColor"), ("content", .text "#0473e7")]],
          .array [.text "meta", .object [("name", .text "theme-color"), ("content", .text "#0473e7")]]]) ∧
        j.DistinctKeys := by
  constructor
  · have hok : (build atrium {}).result = .ok () := Result.eq_ok_of_isOk (by decide +kernel)
    obtain ⟨text, j, table?, head, ⟨rfl, -⟩, hdecode, hdocument, hhead, htree⟩ := build_head_as_written atrium {} hok
    obtain ⟨c, hload, hc⟩ : ∃ c, Config.load atrium none (some {}) = .ok c ∧ decide (c.portal.head =
        [⟨"meta", [("zeta", "1"), ("alpha", "south"), ("", "")]⟩, ⟨"base", []⟩]) = true :=
      Result.exists_ok_of_any (by decide +kernel)
    obtain rfl := (Config.eq_head_of_load hload hdocument hhead).trans (of_decide_eq_true hc)
    exact ⟨hok, j, hdecode, htree⟩
  · obtain ⟨text, j, table?, head, ⟨rfl, -⟩, hdecode, hdocument, hhead, htree⟩ :=
      build_head_as_written handbook handbookArguments build_handbook
    obtain ⟨c, hload, -, hstock⟩ := load_handbook
    obtain rfl := (Config.eq_head_of_load hload hdocument hhead).trans hstock
    exact ⟨build_handbook, j, hdecode, htree⟩

end Command
end DocPortal
