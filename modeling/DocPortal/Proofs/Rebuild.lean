import DocPortal.Proofs.Agreement
import DocPortal.Proofs.Ancestors
import DocPortal.Proofs.Effect
import DocPortal.Proofs.Exactness
import DocPortal.Proofs.Repetition

/-!
# Building again

A build with an output file changes the tree that it has read: it may make directories, and it writes a file.
Wherever these are, even among the pages of a section, a second build reads the same site from the tree that is
left, and writes it to the same file again. What was made for the output is no page, it has names that are text,
and nothing that was there is listed in another order.

## Main definitions

* `FileSystem.SamePlace` — two paths lead to the same node.
* `FileSystem.Relists` — a tree is what another one has become, listed in an order that may be new for what is new.
* `Command.Adds` — what a build may add to a directory.
-/

namespace DocPortal

/-! ## Lists in the order of a longer list -/

section

variable {α : Type} [DecidableEq α] {s s' l : List α}

/-- A sublist of a list without repetitions is what the list has of its elements. -/
theorem filter_mem_of_sublist (h : s.Sublist l) (hl : l.Nodup) : l.filter (· ∈ s) = s := by
  induction h with
  | slnil => rfl
  | @cons s l a h ih =>
    obtain ⟨ha, hl⟩ := List.nodup_cons.1 hl
    have hno : a ∉ s := fun hmem => ha (h.subset hmem)
    rw [List.filter_cons_of_neg (by simpa using hno), ih hl]
  | @cons_cons s l a h ih =>
    obtain ⟨ha, hl⟩ := List.nodup_cons.1 hl
    have hrest : l.filter (· ∈ a :: s) = l.filter (· ∈ s) := by
      refine List.filter_congr fun b hb => ?_
      have hne : b ≠ a := fun heq => ha (heq ▸ hb)
      simp [hne]
    rw [List.filter_cons_of_pos (by simp), hrest, ih hl]

theorem eq_of_sublists (h : s.Sublist l) (h' : s'.Sublist l) (hl : l.Nodup) (hmem : ∀ a, a ∈ s ↔ a ∈ s') :
    s = s' := by
  rw [← filter_mem_of_sublist h hl, ← filter_mem_of_sublist h' hl]
  exact List.filter_congr fun a _ => decide_eq_decide.2 (hmem a)

end

/-! ## Pages of a tree that has more entries -/

namespace Disk

variable {fs fs' : FileSystem} {cwd loc : Location} {dir : Path} {found found' : List DirectoryEntry}
  {f : ExtensionFilter} {n : String} {added : Bytes → Node → Prop}

/-- Without links, the page names are the names of the files with a recognised extension. -/
theorem mem_pageNames_of_solid (hfs : fs.WellFormed) (hlinks : ∀ loc target, fs.find? loc ≠ some (.link target))
    (h : List.Forall₂ (Describes fs cwd dir) (fs.children loc) found) :
    n ∈ Sidebar.pageNames f found ↔
      (∃ content, fs.find? (Text.encode n :: loc) = some (.file content)) ∧
        f.accepts (DirectoryEntry.extensionOf n) = true := by
  rw [mem_pageNames h]
  refine and_congr_left fun _ => ?_
  constructor
  · rintro ⟨node, hmem, hfile⟩
    have hnode := hfs.mem_children_iff.1 hmem
    obtain ⟨content, rfl⟩ | ⟨target, -, -, rfl, -⟩ := hfile
    · exact ⟨content, hnode⟩
    · exact absurd hnode (hlinks _ target)
  · rintro ⟨content, hcontent⟩
    exact ⟨.file content, hfs.mem_children_iff.2 hcontent, .inl ⟨content, rfl⟩⟩

/-- A directory has the same pages in a tree that holds more, if none of that is a page. -/
theorem pageNames_eq_of_extends (hfs : fs.WellFormed) (hfs' : fs'.WellFormed)
    (hlinks : ∀ loc target, fs.find? loc ≠ some (.link target))
    (hlinks' : ∀ loc target, fs'.find? loc ≠ some (.link target)) (hextends : FileSystem.Extends added fs fs')
    (hadded : ∀ n content, added (Text.encode n) (.file content) →
      f.accepts (DirectoryEntry.extensionOf n) = false)
    (h : List.Forall₂ (Describes fs cwd dir) (fs.children loc) found)
    (h' : List.Forall₂ (Describes fs' cwd dir) (fs'.children loc) found') :
    Sidebar.pageNames f found' = Sidebar.pageNames f found := by
  have hmem : ∀ n, n ∈ Sidebar.pageNames f found' ↔ n ∈ Sidebar.pageNames f found := by
    intro n
    rw [mem_pageNames_of_solid hfs hlinks h, mem_pageNames_of_solid hfs' hlinks' h']
    refine and_congr_left fun haccepts => ?_
    constructor
    · rintro ⟨content, hnew⟩
      cases hold : fs.find? (Text.encode n :: loc) with
      | none =>
        rw [hadded n content (hextends.added _ _ _ hold hnew)] at haccepts
        cases haccepts
      | some node =>
        obtain ⟨node', hnode', rfl | ⟨content', -, rfl, -⟩⟩ := hextends.kinds _ _ hold
        · rw [hnew] at hnode'
          exact ⟨content, congrArg some (Option.some.inj hnode').symm⟩
        · exact ⟨content', rfl⟩
    · rintro ⟨content, hold⟩
      obtain ⟨node', hnode', rfl | ⟨-, content', -, rfl⟩⟩ := hextends.kinds _ _ hold
      · exact ⟨content, hnode'⟩
      · exact ⟨content', hnode'⟩
  have hsub {fs : FileSystem} {found : List DirectoryEntry}
      (h : List.Forall₂ (Describes fs cwd dir) (fs.children loc) found) :
      ((Sidebar.pageNames f found).map Text.encode).Sublist ((fs.children loc).map (·.1)) := by
    rw [← map_encode_name h]
    exact (List.filter_sublist.map _).map _
  have hinj : Function.Injective Text.encode := fun _ _ => Text.encode_injective
  refine hinj.list_map ?_
  refine eq_of_sublists (hsub h') ((hsub h).trans (hextends.order loc)) (hfs'.nodup_children loc) fun a => ?_
  simp only [List.mem_map, hmem]

end Disk

/-! ## The same site from a tree that has more entries -/

namespace SectionEntry

variable {m : Machine} {e : SectionEntry Path} {g : Group} {fs : FileSystem} {added : Bytes → Node → Prop}

/-- A section gives the same group on a tree that holds more, if that has names that are text and none of it is
a page of the section. -/
theorem Gives.of_extends (h : e.Gives m g) (hm : m.files.WellFormed) (hfs : fs.WellFormed)
    (hlinks : ∀ loc target, m.files.find? loc ≠ some (.link target))
    (hlinks' : ∀ loc target, fs.find? loc ≠ some (.link target)) (hextends : FileSystem.Extends added m.files fs)
    (htexts : ∀ n node, added n node → ∃ s, Text.encode s = n)
    (hadded : ∀ n content, added (Text.encode n) (.file content) →
      DirectoryEntry.extensionOf n ∉ e.extensions) : e.Gives { m with files := fs } g := by
  obtain ⟨f, found, hf, hask, rfl⟩ := h.exists_entries
  obtain ⟨loc, hloc, hfound⟩ := Disk.forall₂_of_list_ok hask
  have hloc' : fs.resolve m.cwd e.dir = .ok (loc, .directory) := by
    obtain ⟨node, hnode, rfl | ⟨content, -, hfile, -⟩⟩ := hextends.kinds.resolve hloc
    · exact hnode
    · cases hfile
  have htexts' : ∀ kid ∈ fs.children loc, ∃ s, Text.encode s = kid.1 := by
    rintro ⟨n, node⟩ hkid
    have hnode := hfs.mem_children_iff.1 hkid
    cases hold : m.files.find? (n :: loc) with
    | none => exact htexts n node (hextends.added n loc node hold hnode)
    | some node' => exact Disk.texts_of_describes hfound (n, node') (hm.mem_children_iff.2 hold)
  obtain ⟨found', hfound'⟩ : ∃ found', List.Forall₂ (Disk.Describes fs m.cwd e.dir) (fs.children loc) found' :=
    Disk.exists_describes htexts'
  have hask' : ((Disk.listing m.cwd).ask e.dir fs).result = .ok found' :=
    (Disk.ask_of_directory hloc').trans (Disk.entries_ok_iff.2 hfound')
  have hpages : Sidebar.pageNames f found' = Sidebar.pageNames f found := by
    refine Disk.pageNames_eq_of_extends hm hfs hlinks hlinks' hextends (fun n content h => ?_) hfound hfound'
    rw [Bool.eq_false_iff, Ne, ExtensionFilter.accepts_iff, (ExtensionFilter.of_ofList hf).2]
    exact hadded n content h
  have hgroup : Section.groupOf ⟨e.route, e.title, e.dir, f, e.exclude, e.order⟩ found' =
      Section.groupOf ⟨e.route, e.title, e.dir, f, e.exclude, e.order⟩ found := by
    rw [Section.groupOf, Section.groupOf, hpages]
  refine ⟨⟨e.route, e.title, e.dir, f, e.exclude, e.order⟩, ?_, ?_⟩
  · rw [toSection, hf]
    rfl
  · rw [Sidebar.run_group_of_ok hask', hgroup]

end SectionEntry

namespace Command

/-- If each section gives the same group on two trees, the same site is assembled. -/
theorem assembleSite_of_gives {m : Machine} {fs : FileSystem} {c : Config} {site : SiteConfig}
    (h : assembleSite m c = .ok site)
    (hgives : ∀ e ∈ c.sections, ∀ g, SectionEntry.Gives e m g → e.Gives { m with files := fs } g) :
    assembleSite { m with files := fs } c = .ok site := by
  obtain ⟨settings, groups, hsettings, hcopies, -, hgroups⟩ := assembleSite_ok h
  have hgroups' : List.Forall₂ (fun e g => e.Gives { m with files := fs } g) c.sections groups :=
    List.forall₂_iff_zip.2 ⟨hgroups.length_eq, fun hmem =>
      hgives _ (List.of_mem_zip hmem).1 _ (List.forall₂_zip hgroups hmem)⟩
  obtain ⟨site₁, hsite₁, hsidebar₁⟩ := assembleSite_of_groups (hgroups.imp fun _ _ => SectionEntry.group_ok_iff.2)
  obtain ⟨site₂, hsite₂, hsidebar₂⟩ := assembleSite_of_groups (hgroups'.imp fun _ _ => SectionEntry.group_ok_iff.2)
  obtain rfl := Except.ok.inj (hsite₁.symm.trans h)
  obtain ⟨settings', -, hsettings', hcopies', -, -⟩ := assembleSite_ok hsite₂
  obtain rfl := Except.ok.inj (hsettings'.symm.trans hsettings)
  rw [hsite₂, hcopies'.eq_ofSettings, hcopies.eq_ofSettings, hsidebar₂, hsidebar₁]

/-- A configuration is loaded from a path that leads somewhere. -/
theorem exists_resolve_of_load {m : Machine} {file : Path} {overrides : Option Overrides} {c : Config}
    (h : Config.load m (some file) overrides = .ok c) :
    ∃ loc node, m.files.resolve m.cwd file = .ok (loc, node) := by
  obtain ⟨found, hfind, -⟩ := Config.load_ok h
  rw [Config.find] at hfind
  split at hfind
  · rename_i hexists
    rw [FileSystem.leadsSomewhere] at hexists
    obtain ⟨⟨loc, node⟩, hresolve⟩ := Result.exists_ok_of_isOk hexists
    exact ⟨loc, node, hresolve⟩
  · cases hfind

/-- A configuration is loaded from a file alike, if that is at the same place. -/
theorem load_of_resolve {m : Machine} {fs : FileSystem} {file : Path}
    (h : fs.resolve m.cwd file = m.files.resolve m.cwd file) (overrides : Option Overrides) :
    Config.load { m with files := fs } (some file) overrides = Config.load m (some file) overrides := by
  have hexists : fs.leadsSomewhere m.cwd file = m.files.leadsSomewhere m.cwd file := by
    rw [FileSystem.leadsSomewhere, FileSystem.leadsSomewhere, h]
  have hread : fs.readText m.cwd file = m.files.readText m.cwd file := by
    rw [FileSystem.readText, FileSystem.readText, FileSystem.read, FileSystem.read, h]
  simp only [Config.load, Config.find, Config.ofFile, hexists, hread]

end Command

/-! ## What a build adds -/

namespace FileSystem

/-- Two paths lead to the same node. -/
def SamePlace (fs : FileSystem) (cwd : Location) (p q : Path) : Prop :=
  ∃ loc node, fs.resolve cwd p = .ok (loc, node) ∧ fs.resolve cwd q = .ok (loc, node)

/-- A tree holds what an old one has become, and what the old one held is listed in the old order. What is new
may be listed anywhere. -/
structure Relists (old new fs : FileSystem) : Prop where
  wellFormed : fs.WellFormed
  same : SameNodes new fs
  order : ∀ dir, ((old.children dir).map (·.1)).Sublist ((fs.children dir).map (·.1))

end FileSystem

namespace Command

open FileSystem

variable {m : Machine} {file : Path} {text : String} {content : Bytes} {ready files fs : FileSystem}

/-- What a build may add to a directory for an output file, with names that are text: directories and that file.
-/
def Adds (file : Path) (n : Bytes) (node : Node) : Prop :=
  (∃ s, Text.encode s = n) ∧
    (node = .directory ∨ file.fileName? = some n ∧ ∃ content, node = .file content)

theorem Adds.of_alike {n : Bytes} {node node' : Node} (halike : node.Alike node') (h : Adds file n node) :
    Adds file n node' := by
  obtain ⟨htext, hnode⟩ := h
  obtain rfl | ⟨content, content', rfl, rfl⟩ := halike
  · exact ⟨htext, hnode⟩
  · obtain hdir | ⟨hname, -⟩ := hnode
    · cases hdir
    · exact ⟨htext, .inr ⟨hname, _, rfl⟩⟩

theorem name_mem_steps_of_mem_outputDirectories {q : Path} {n : Bytes} (hq : q ∈ outputDirectories file)
    (hn : .name n ∈ q.steps) : .name n ∈ file.steps := by
  rw [outputDirectories] at hq
  split at hq
  · rename_i dir hdir
    exact Path.name_mem_steps_of_parent? hdir (Path.name_mem_steps_of_mem_ancestors hq hn)
  · cases hq

/-- Room is made for a file by making the directory that it is to be in with the directories above that, if its
path names one. -/
theorem makeRoom_cases (file : Path) :
    (∀ m : Machine, makeRoom m file = (m.files, .ok ())) ∨
      ∃ dir above, outputDirectories file = dir :: above ∧ dir.bytes ≠ [] ∧
        ∀ m : Machine, makeRoom m file = m.files.makeMissing m.cwd (dir :: above) := by
  cases hparent : file.parent? with
  | none => exact .inl fun m => by rw [makeRoom, hparent]
  | some dir =>
    by_cases hempty : dir.bytes = []
    · exact .inl fun m => by rw [makeRoom, hparent]; exact if_pos hempty
    · obtain ⟨above, habove⟩ : ∃ above, dir.ancestors = dir :: above := ⟨_, dir.ancestors_eq⟩
      refine .inr ⟨dir, above, ?_, hempty, fun m => ?_⟩
      · rw [outputDirectories, hparent]
        exact habove
      · rw [makeRoom, hparent, ← habove]
        exact if_neg hempty

/-- Making room for an output file adds directories to a well-formed tree. -/
theorem extends_makeRoom (hm : m.files.WellFormed) (hroom : makeRoom m (.ofString text) = (ready, .ok ())) :
    ready.WellFormed ∧ FileSystem.Extends (Adds (.ofString text)) m.files ready := by
  obtain hsame | ⟨dir, above, hdirs, -, hmake⟩ := makeRoom_cases (.ofString text)
  · rw [hsame] at hroom
    cases hroom
    exact ⟨hm, .refl _⟩
  have hmade : (m.files.makeMissing m.cwd (dir :: above)).1.WellFormed ∧
      FileSystem.Extends (Adds (.ofString text)) m.files (m.files.makeMissing m.cwd (dir :: above)).1 := by
    refine makeMissing_induction
      (P := fun fs => fs.WellFormed ∧ FileSystem.Extends (Adds (.ofString text)) m.files fs)
      (fun q hq fs fs' ⟨hfs, hextends⟩ hdirectory => ?_) ⟨hm, .refl _⟩
    obtain ⟨loc, hslot, hnone, rfl⟩ := makeDirectory_ok hdirectory
    obtain ⟨n, parent, body, tail, rfl, -, -, hsteps, -, hleads⟩ := slot_ok hslot
    have hname : .name n ∈ q.steps := by simp [hsteps]
    have hin := name_mem_steps_of_mem_outputDirectories (hdirs ▸ hq) hname
    refine ⟨hfs.put (Path.name_mem_steps_iff.1 hname).2 hleads.directory_of_here (by simp [hnone]) _, ?_⟩
    refine hextends.trans (fun _ _ _ => Adds.of_alike) (.of_put_vacant hnone ?_)
    exact ⟨Path.exists_text_of_name_mem_steps hin, .inl rfl⟩
  rwa [← hmake, hroom] at hmade

/-- Where there is room for an output file, none is made. -/
theorem makeRoom_of_kinds (hroom : makeRoom m file = (ready, .ok ())) (hkinds : KeepsKinds ready fs) :
    makeRoom { m with files := fs } file = (fs, .ok ()) := by
  obtain hsame | ⟨dir, above, -, hempty, hmake⟩ := makeRoom_cases file
  · exact hsame _
  rw [hmake] at hroom ⊢
  exact makeMissing_of_isDirectory (hkinds.isDirectory (isDirectory_of_makeMissing hroom hempty)) above

/-- Where an output file is written: to a device, which changes nothing, or in a place in which there may have
been a file. -/
theorem cases_of_write (hready : ready.WellFormed) (hlinks : ∀ loc target, ready.find? loc ≠ some (.link target))
    (hwrite : ready.write m.cwd (.ofString text) content = .ok files) :
    ∃ loc, files.reach m.cwd .create (.ofString text) = .ok loc ∧
      ((files = ready ∧ files.find? loc = some .device) ∨
        (files = ready.put loc (.file content) ∧ files.find? loc = some (.file content) ∧ loc ≠ [] ∧
          files.WellFormed ∧ FileSystem.Extends (Adds (.ofString text)) ready files)) := by
  obtain ⟨loc, hreach, ⟨hdevice, rfl⟩ | ⟨hdevice, hdirectory, hclosed, rfl, -⟩⟩ := write_ok hwrite
  · exact ⟨loc, hreach, .inl ⟨rfl, hdevice⟩⟩
  obtain ⟨hcheck, hleads⟩ := reach_ok_iff.1 hreach
  have hroot : loc ≠ [] := by
    rintro rfl
    exact hdirectory rfl
  obtain ⟨hsteps, rfl⟩ | ⟨n, dir, body, hsteps, rfl, hdir⟩ :=
    hready.cases_of_create hlinks hleads hdirectory hclosed
  · refine absurd ?_ hroot
    rw [Path.startsAt, if_pos (Path.isAbsolute_of_steps_eq_nil hsteps ?_)]
    intro hnil
    simp [checkPath, hnil] at hcheck
  have hname : .name n ∈ (Path.ofString text).steps := by simp [hsteps]
  refine ⟨n :: dir, reach_ok_iff.2 ⟨hcheck, hleads.put_file content hroot hdirectory hclosed⟩,
    .inr ⟨rfl, find?_put_self ready hroot _, hroot, ?_, ?_⟩⟩
  · exact hready.put (Path.name_mem_steps_iff.1 hname).2 hdir hdirectory _
  cases hfound : ready.find? (n :: dir) with
  | none =>
    refine .of_put_vacant hfound ⟨Path.exists_text_of_name_mem_steps hname, .inr ⟨?_, content, rfl⟩⟩
    exact Path.fileName?_of_steps hsteps
  | some node =>
    cases node with
    | file old => exact .of_put_file hfound content
    | directory => exact absurd hfound hdirectory
    | closed => exact absurd hfound hclosed
    | link target => exact absurd hfound (hlinks _ target)
    | device => exact absurd hfound hdevice

/-- What was there without links is there without links when more has been added. -/
theorem no_links_of_extends (hlinks : ∀ loc target, m.files.find? loc ≠ some (.link target))
    (hextends : FileSystem.Extends (Adds file) m.files fs) (loc : Location) (target : Path) :
    fs.find? loc ≠ some (.link target) := by
  intro hlink
  cases loc with
  | nil => cases hlink
  | cons n dir =>
    cases hold : m.files.find? (n :: dir) with
    | none =>
      obtain ⟨-, hdir | ⟨-, content, hfile⟩⟩ := hextends.added n dir _ hold hlink
      · cases hdir
      · cases hfile
    | some node =>
      obtain ⟨node', hnode', rfl | ⟨-, content, -, rfl⟩⟩ := hextends.kinds _ _ hold
      · rw [hlink] at hnode'
        exact hlinks _ target (hold.trans hnode'.symm)
      · rw [hlink] at hnode'
        cases hnode'

/-- The tree that is left when a text has been written to an output file: it has come about by additions, it has
the file in the place where it would be written, and only there does it hold another content than before. -/
structure Left (m : Machine) (file : Path) (content : Bytes) (files : FileSystem) : Prop where
  wellFormed : files.WellFormed
  more : FileSystem.Extends (Adds file) m.files files
  room : makeRoom { m with files } file = (files, .ok ())
  written : ∃ loc, files.reach m.cwd .create file = .ok loc ∧
    (files.find? loc = some .device ∧ Keeps m.files files ∨
      loc ≠ [] ∧ files.find? loc = some (.file content) ∧
        ∀ other node, other ≠ loc → m.files.find? other = some node → files.find? other = some node)

theorem left_of_write (hm : m.files.WellFormed) (hlinks : ∀ loc target, m.files.find? loc ≠ some (.link target))
    (hroom : makeRoom m (.ofString text) = (ready, .ok ()))
    (hwrite : ready.write m.cwd (.ofString text) content = .ok files) : Left m (.ofString text) content files := by
  obtain ⟨hready, hmore⟩ := extends_makeRoom hm hroom
  have hkeeps : Keeps m.files ready := by
    have hgrows := grows_makeRoom m (.ofString text)
    rw [hroom] at hgrows
    exact hgrows.keeps
  obtain ⟨loc, hreach, ⟨rfl, hdevice⟩ | ⟨rfl, hfile, hroot, hfiles, hadds⟩⟩ :=
    cases_of_write hready (no_links_of_extends hlinks hmore) hwrite
  · exact ⟨hready, hmore, makeRoom_of_kinds hroom (Keeps.refl _).kinds, loc, hreach, .inl ⟨hdevice, hkeeps⟩⟩
  · refine ⟨hfiles, hmore.trans (fun _ _ _ => Adds.of_alike) hadds, makeRoom_of_kinds hroom hadds.kinds, loc,
      hreach, .inr ⟨hroot, hfile, fun other node hother hnode => ?_⟩⟩
    rw [find?_put_of_ne ready hother]
    exact hkeeps other node hnode

namespace Left

variable (h : Left m file content files)

include h

/-- The path of the output file leads to where it was written. -/
theorem exists_resolve :
    ∃ loc node, files.resolve m.cwd file = .ok (loc, node) ∧ (node = .device ∨ node = .file content) := by
  obtain ⟨loc, hreach, hnode⟩ := h.written
  obtain ⟨hcheck, hleads⟩ := reach_ok_iff.1 hreach
  have hlookUp := reach_ok_iff.2 ⟨hcheck, hleads.lookUp⟩
  obtain ⟨hdevice, -⟩ | ⟨-, hfile, -⟩ := hnode
  · exact ⟨loc, .device, resolve_ok_iff.2 ⟨hlookUp, hdevice⟩, .inl rfl⟩
  · exact ⟨loc, .file content, resolve_ok_iff.2 ⟨hlookUp, hfile⟩, .inr rfl⟩

theorem exists_read : ∃ bytes, files.read m.cwd file = .ok bytes := by
  obtain ⟨loc, node, hresolve, rfl | rfl⟩ := h.exists_resolve
  · exact ⟨[], by rw [FileSystem.read, hresolve]; rfl⟩
  · exact ⟨content, by rw [FileSystem.read, hresolve]; rfl⟩

/-- Writing the same to the same file again changes nothing. -/
theorem write_eq (hrelists : Relists m.files files fs) : fs.write m.cwd file content = .ok fs := by
  obtain ⟨loc, hreach, hnode⟩ := h.written
  rw [hrelists.same.reach_eq] at hreach
  rw [hrelists.same loc] at hnode
  rw [FileSystem.write, hreach]
  dsimp only [Bind.bind, Except.bind]
  obtain ⟨hdevice, -⟩ | ⟨hroot, hfile, -⟩ := hnode
  · rw [hdevice]
  · rw [hfile]
    exact congrArg Except.ok (hrelists.wellFormed.put_self hfile hroot)

/-- What a path led to that does not lead to the output file has not changed. -/
theorem resolve_eq {other : Path} {loc : Location} {node : Node}
    (hresolve : m.files.resolve m.cwd other = .ok (loc, node)) (hother : ¬ files.SamePlace m.cwd other file) :
    files.resolve m.cwd other = .ok (loc, node) := by
  obtain ⟨place, hreach, ⟨-, hkeeps⟩ | ⟨-, hfile, hkeeps⟩⟩ := h.written
  · exact hkeeps.resolve hresolve
  obtain ⟨node', hresolve', -⟩ := h.more.kinds.resolve hresolve
  by_cases hloc : loc = place
  · subst hloc
    obtain ⟨hcheck, hleads⟩ := reach_ok_iff.1 hreach
    have hplace := resolve_ok_iff.2 ⟨reach_ok_iff.2 ⟨hcheck, hleads.lookUp⟩, (resolve_ok_iff.1 hresolve').2⟩
    exact absurd ⟨loc, node', hresolve', hplace⟩ hother
  · have hnode := hkeeps loc node hloc (resolve_ok_iff.1 hresolve).2
    exact resolve_ok_iff.2 ⟨(resolve_ok_iff.1 hresolve').1, hnode⟩

/-- A tree that is listed in another order holds as much more. -/
theorem extends_of_relists (hrelists : Relists m.files files fs) :
    FileSystem.Extends (Adds file) m.files fs where
  kinds := h.more.kinds.trans hrelists.same.keeps.kinds
  added n dir node hnone hnode := h.more.added n dir node hnone ((hrelists.same _).trans hnode)
  order := hrelists.order

theorem relists : Relists m.files files files := ⟨h.wellFormed, fun _ => rfl, h.more.order⟩

end Left

/-- **Building again changes nothing.**  A build writes its site to an output file, on a tree without links,
from a given configuration file.  The path of the output file is text, it does not lead to the configuration
file, and no section has the extension of its file name.  Then a second build with the same arguments on the tree
that is left succeeds and leaves that tree as it is, with the same bytes in the output file, wherever the
directories are that were made for it, and in whatever order the tree lists what is new. -/
theorem build_again (m : Machine) (a : BuildArguments) (config : Path) (text : String)
    (hm : m.files.WellFormed) (hsolid : ∀ e ∈ m.files.nodes, e.2.IsSolid)
    (hconfig : a.config? = some config) (houtput : a.output? = some (.ofString text))
    (hother : ¬ (build m a).files.SamePlace m.cwd config (.ofString text))
    (hplain : ∀ c n, Config.load m a.config? (some a.overrides) = .ok c →
      (Path.ofString text).fileName? = some (Text.encode n) →
        ∀ e ∈ c.sections, DirectoryEntry.extensionOf n ∉ e.extensions)
    (h : (build m a).result = .ok ()) :
    Relists m.files (build m a).files (build m a).files ∧
      ∀ fs, Relists m.files (build m a).files fs →
        (build { m with files := fs } a).result = .ok () ∧ (build { m with files := fs } a).files = fs ∧
        ∃ bytes, (build m a).files.read m.cwd (.ofString text) = .ok bytes ∧
          (build { m with files := fs } a).files.read m.cwd (.ofString text) = .ok bytes := by
  have hlinks : ∀ loc target, m.files.find? loc ≠ some (.link target) := by
    intro loc target hlink
    have hroot : loc ≠ [] := by
      rintro rfl
      cases hlink
    exact hsolid _ (mem_nodes_of_find? hlink hroot) target rfl
  obtain ⟨c, site, hload, hsite, hemits⟩ := build_ok h
  rw [Emits, houtput] at hemits
  obtain ⟨-, ⟨ready, hroom, hwrite⟩, -⟩ := hemits
  have hleft := left_of_write hm hlinks hroom hwrite
  refine ⟨hleft.relists, fun fs hrelists => ?_⟩
  have hmore := hleft.extends_of_relists hrelists
  have hload' : Config.load { m with files := fs } a.config? (some a.overrides) = .ok c := by
    rw [hconfig] at hload ⊢
    obtain ⟨loc, node, hresolve⟩ := exists_resolve_of_load hload
    have hresolve' := (hrelists.same.resolve_eq m.cwd config).symm.trans (hleft.resolve_eq hresolve hother)
    rw [load_of_resolve (hresolve'.trans hresolve.symm), hload]
  have hsite' : assembleSite { m with files := fs } c = .ok site := by
    refine assembleSite_of_gives hsite fun e he g hg => ?_
    refine hg.of_extends hm hrelists.wellFormed hlinks (no_links_of_extends hlinks hmore) hmore
      (fun n node hadds => hadds.1) fun n content hadds => ?_
    obtain ⟨-, hdir | ⟨hname, -⟩⟩ := hadds
    · cases hdir
    · exact hplain c n hload hname e he
  have hroom' : makeRoom { m with files := fs } (.ofString text) = (fs, .ok ()) :=
    makeRoom_of_kinds (m := { m with files := (build m a).files }) hleft.room hrelists.same.keeps.kinds
  have hbuild : build { m with files := fs } a =
      writeOutput { m with files := fs } (.ofString text) (siteText a.compact site) (configNotices c) :=
    build_written hload' hsite' houtput
  have hwritten : writeOutput { m with files := fs } (.ofString text) (siteText a.compact site) (configNotices c) =
      .printed { m with files := fs } "" (configNotices c ++
        [.success s!"Site configuration written to {(Path.ofString text).display}"]) := by
    simp only [writeOutput, hroom', hleft.write_eq hrelists]
  obtain ⟨bytes, hread⟩ := hleft.exists_read
  rw [hbuild, hwritten]
  exact ⟨rfl, rfl, bytes, hread, (hrelists.same.read_eq m.cwd _).symm.trans hread⟩

/-- A machine with a configuration file and a directory of pages. -/
def printery : Machine where
  files := ⟨[
    (.ofNames ["portico.toml"], .file (Text.encode
      "[[sidebar]]\nroute = \"/docs/\"\ntitle = \"Guide\"\ndir = \"docs\"\n")),
    (.ofNames ["docs"], .directory),
    (.ofNames ["docs", "a.md"], .file [])]⟩

/-- The arguments to build from that file into a new directory among the pages. -/
def proofArguments : BuildArguments where
  config? := some (.ofString "portico.toml")
  output? := some (.ofString "docs/proof/site.json")

/-- A build from that file with these arguments, and where the two paths lead then. -/
theorem build_printery :
    (build printery proofArguments).result.isOk = true ∧
      ((build printery proofArguments).files.resolve [] (.ofString "portico.toml")).toOption.map (·.1) =
        some (.ofNames ["portico.toml"]) ∧
      ((build printery proofArguments).files.resolve [] (.ofString "docs/proof/site.json")).toOption.map (·.1) =
        some (.ofNames ["docs", "proof", "site.json"]) := by
  decide +kernel

/-- A new directory among the pages does not matter to the second build. -/
theorem build_again_printery :
    (build printery proofArguments).result = .ok () ∧
      (build { printery with files := (build printery proofArguments).files } proofArguments).result = .ok () ∧
      (build { printery with files := (build printery proofArguments).files } proofArguments).files =
        (build printery proofArguments).files := by
  obtain ⟨hisOk, hconfig, houtput⟩ := build_printery
  have hok := Result.eq_ok_of_isOk hisOk
  have hsections : ((Config.load printery proofArguments.config? (some proofArguments.overrides)).map fun c =>
      c.sections.map (·.extensions)).toOption = some [[".md"]] := by decide +kernel
  have hfile : (Path.ofString "docs/proof/site.json").fileName? = some (Text.encode "site.json") := by
    decide +kernel
  have hother : ¬ (build printery proofArguments).files.SamePlace [] (.ofString "portico.toml")
      (.ofString "docs/proof/site.json") := by
    rintro ⟨loc, node, hloc, hloc'⟩
    rw [hloc] at hconfig
    rw [hloc'] at houtput
    have heq := Option.some.inj (hconfig.symm.trans houtput)
    revert heq
    decide +kernel
  have hplain (c : Config) (n : String)
      (hload : Config.load printery proofArguments.config? (some proofArguments.overrides) = .ok c)
      (hname : (Path.ofString "docs/proof/site.json").fileName? = some (Text.encode n)) :
      ∀ e ∈ c.sections, DirectoryEntry.extensionOf n ∉ e.extensions := by
    intro e he
    rw [hload] at hsections
    obtain rfl : n = "site.json" := Text.encode_injective (Option.some.inj (hname.symm.trans hfile))
    have hextensions : e.extensions ∈ [[".md"]] := by
      rw [← show c.sections.map (·.extensions) = [[".md"]] from Option.some.inj hsections]
      exact List.mem_map_of_mem he
    rw [List.mem_singleton.1 hextensions]
    decide +kernel
  obtain ⟨hrelists, hagain⟩ := build_again printery proofArguments _ _ (by decide +kernel)
    (by simp [printery, Node.IsSolid]) rfl rfl hother hplain hok
  obtain ⟨hok', hfiles, -⟩ := hagain _ hrelists
  exact ⟨hok, hok', hfiles⟩

end Command

end DocPortal
