import DocPortal.Proofs.Descent
import DocPortal.Proofs.Obstacle

/-!
# What a listing of a disk answers

A path is listed if it leads to a directory that may be read and all names in there are texts. The answer then
has one entry for each child of the directory and nothing else. Every other answer is an error of the backend,
and its kind and its path say what the matter was: the obstacle that the look-up of the path has met, the
place where it has come to, or the first name in the directory that is no text.

## Main definitions

* `Disk.Refuses` — why a path is not listed.
* `DirectoryEntry.IsExtension` — what the extension of a name is.
-/

namespace DocPortal

/-! ## Names and extensions -/

theorem Text.decode?_eq_none_iff {b : Bytes} : decode? b = none ↔ ∀ s, encode s ≠ b := by
  constructor
  · rintro h s rfl
    rw [decode?_encode] at h
    cases h
  · intro h
    cases hdecode : decode? b with
    | none => rfl
    | some s => exact absurd (encode_of_decode? hdecode) (h s)

namespace DirectoryEntry

/-- A text is the extension of a name: the last dot and what follows it, if something comes before the dot,
and nothing otherwise. -/
def IsExtension (name ext : String) : Prop :=
  (∃ stem rest, stem ≠ "" ∧ '.' ∉ rest.toList ∧ name = stem ++ ext ∧ ext = "." ++ rest) ∨
    (ext = "" ∧ ∀ stem rest, stem ≠ "" → '.' ∉ rest.toList → name ≠ stem ++ ("." ++ rest))

theorem isExtension_extensionOf {n : String} (h : Lexical.IsName n.toList) :
    IsExtension n (extensionOf n) := by
  rw [extensionOf]
  cases hext : Lexical.extension? n.toList with
  | some e =>
    obtain ⟨hdot, stem, hstem, hsplit⟩ := h.extension?_eq_some_iff.1 hext
    refine .inl ⟨.ofList stem, .ofList e, ?_, ?_, ?_, ?_⟩
    · exact fun hempty => hstem (String.ofList_injective hempty)
    · rwa [String.toList_ofList]
    · apply String.toList_inj.1
      rw [hsplit]
      simp
      rfl
    · apply String.toList_inj.1
      simp
  | none =>
    refine .inr ⟨rfl, fun stem rest hstem hdot hsplit => ?_⟩
    have hsome : Lexical.extension? n.toList = some rest.toList := by
      refine h.extension?_eq_some_iff.2 ⟨hdot, stem.toList, ?_, ?_⟩
      · exact fun hempty => hstem (String.toList_inj.1 hempty)
      · rw [hsplit]
        simp
        rfl
    rw [hext] at hsome
    cases hsome

end DirectoryEntry

namespace Disk

variable {fs : FileSystem} {cwd loc : Location} {dir : Path} {kids : List (Bytes × Node)}
  {found : List DirectoryEntry}

/-! ## The children of a directory, one by one -/

/-- Entries are found for all children exactly if they describe them in order. -/
theorem entries_ok_iff :
    (entries fs cwd dir kids).1 = .ok found ↔ List.Forall₂ (Describes fs cwd dir) kids found := by
  refine ⟨forall₂_of_entries_ok, fun h => ?_⟩
  induction h with
  | nil => rfl
  | @cons kid e kids found head _ ih =>
    obtain ⟨name, node⟩ := kid
    obtain ⟨hname, hfile⟩ := head
    obtain rfl : Text.encode e.name = name := hname
    have htext : Text.decode? (Text.encode e.name) = some e.name := Text.decode?_encode e.name
    have hkind : (isRegularFile fs cwd dir (Text.encode e.name) node).1 = e.isFile := by
      rw [Bool.eq_iff_iff, hfile]
      exact isRegularFile_iff
    simp [entries, htext, ih, Except.map, hkind]

/-- There are entries for children whose names are texts. -/
theorem exists_describes (h : ∀ kid ∈ kids, ∃ s, Text.encode s = kid.1) :
    ∃ found, List.Forall₂ (Describes fs cwd dir) kids found := by
  induction kids with
  | nil => exact ⟨[], .nil⟩
  | cons kid kids ih =>
    obtain ⟨⟨s, hs⟩, hkids⟩ := List.forall_mem_cons.1 h
    obtain ⟨found, hfound⟩ := ih hkids
    exact ⟨⟨s, (isRegularFile fs cwd dir kid.1 kid.2).1⟩ :: found, .cons ⟨hs, isRegularFile_iff⟩ hfound⟩

/-- The names of children that are described are texts. -/
theorem texts_of_describes (h : List.Forall₂ (Describes fs cwd dir) kids found) :
    ∀ kid ∈ kids, ∃ s, Text.encode s = kid.1 := by
  induction h with
  | nil => exact fun kid hkid => absurd hkid List.not_mem_nil
  | cons head _ ih => exact List.forall_mem_cons.2 ⟨⟨_, head.1⟩, ih⟩

/-- The entries fail at the first name that is no text, whatever was found before. -/
theorem entries_of_first {before after : List (Bytes × Node)} {name : Bytes} {node : Node}
    (hbefore : ∀ kid ∈ before, ∃ s, Text.encode s = kid.1) (hname : ∀ s, Text.encode s ≠ name) :
    (entries fs cwd dir (before ++ (name, node) :: after)).1 = .error (nameError dir name) := by
  induction before with
  | nil => simp [entries, Text.decode?_eq_none_iff.2 hname]
  | cons kid before ih =>
    obtain ⟨⟨s, hs⟩, hrest⟩ := List.forall_mem_cons.1 hbefore
    have htext : Text.decode? kid.1 = some s := by
      rw [← hs, Text.decode?_encode]
    simp [entries, htext, ih hrest, Except.map]

/-- Either all names are texts, or one is the first that is not. -/
theorem texts_or_first (kids : List (Bytes × Node)) :
    (∀ kid ∈ kids, ∃ s, Text.encode s = kid.1) ∨
      ∃ before name node after, kids = before ++ (name, node) :: after ∧
        (∀ kid ∈ before, ∃ s, Text.encode s = kid.1) ∧ ∀ s, Text.encode s ≠ name := by
  induction kids with
  | nil => exact .inl fun kid hkid => absurd hkid List.not_mem_nil
  | cons kid kids ih =>
    obtain ⟨name, node⟩ := kid
    by_cases hname : ∃ s, Text.encode s = name
    · rcases ih with hall | ⟨before, name', node', after, rfl, hbefore, hno⟩
      · exact .inl (List.forall_mem_cons.2 ⟨hname, hall⟩)
      · exact .inr ⟨(name, node) :: before, name', node', after, rfl,
          List.forall_mem_cons.2 ⟨hname, hbefore⟩, hno⟩
    · exact .inr ⟨[], name, node, kids, rfl, fun kid hkid => absurd hkid List.not_mem_nil,
        not_exists.1 hname⟩

/-! ## Answers -/

theorem ask_of_resolve_error {fault : PathFault} (h : fs.resolve cwd dir = .error fault) :
    ((listing cwd).ask dir fs).result = .error (faultError dir fault) := by
  simp only [listing, list, h]

theorem ask_of_closed (h : fs.resolve cwd dir = .ok (loc, .closed)) :
    ((listing cwd).ask dir fs).result = .error (faultError dir .permissionDenied) := by
  simp only [listing, list, h]

theorem ask_of_directory (h : fs.resolve cwd dir = .ok (loc, .directory)) :
    ((listing cwd).ask dir fs).result = (entries fs cwd dir (fs.children loc)).1 := by
  simp only [listing, list, h]
  split <;> simp_all

theorem ask_of_no_directory {node : Node} (h : fs.resolve cwd dir = .ok (loc, node))
    (hdir : node ≠ .directory) (hshut : node ≠ .closed) :
    ((listing cwd).ask dir fs).result = .error ((ListingError.notADirectory dir).ofBackend backend) := by
  cases node with
  | directory => exact absurd rfl hdir
  | closed => exact absurd rfl hshut
  | _ => simp only [listing, list, h]

/-! ## Why a path is not listed -/

/-- A path is refused with a kind of failure, which is met at a path: at the directory itself or on the way to
it, or at the first entry whose name is no text. -/
inductive Refuses (fs : FileSystem) (cwd : Location) (dir : Path) : ListingErrorKind → Path → Prop
  | empty (nil : dir.bytes = []) : Refuses fs cwd dir .notFound dir
  | missing (stops : fs.StopsAt cwd dir .noSuchEntry) : Refuses fs cwd dir .notFound dir
  /-- Something on the way is no directory. -/
  | through (stops : fs.StopsAt cwd dir .notADirectory) : Refuses fs cwd dir .notADirectory dir
  /-- Something is at the end that is no directory. -/
  | ending {loc : Location} {node : Node} (arrives : fs.ArrivesAt cwd dir loc node)
      (directory : node ≠ .directory) (closed : node ≠ .closed) : Refuses fs cwd dir .notADirectory dir
  | barred (stops : fs.StopsAt cwd dir .permissionDenied) : Refuses fs cwd dir .permissionDenied dir
  | closed {loc : Location} (arrives : fs.ArrivesAt cwd dir loc .closed) :
      Refuses fs cwd dir .permissionDenied dir
  | zeroByte (zero : 0 ∈ dir.bytes) : Refuses fs cwd dir .other dir
  | tooLong (long : FileSystem.pathLimit < dir.bytes.length) : Refuses fs cwd dir .other dir
  | nameTooLong (stops : fs.StopsAt cwd dir .nameTooLong) : Refuses fs cwd dir .other dir
  | tooManyLinks (stops : fs.StopsAt cwd dir .tooManyLinks) : Refuses fs cwd dir .other dir
  /-- A name is no text; what it is the name of does not matter. -/
  | nameNotText {loc : Location} {before after : List (Bytes × Node)} {name : Bytes} {node : Node}
      (arrives : fs.ArrivesAt cwd dir loc .directory)
      (split : fs.children loc = before ++ (name, node) :: after)
      (texts : ∀ kid ∈ before, ∃ s, Text.encode s = kid.1) (name_ne : ∀ s, Text.encode s ≠ name) :
      Refuses fs cwd dir .other (dir.child name)

/-- A look-up that ends early is refused with the kind of its fault. -/
theorem refuses_of_resolve_error {fault : PathFault} (h : fs.resolve cwd dir = .error fault) :
    Refuses fs cwd dir (faultError dir fault).kind dir := by
  rcases FileSystem.resolve_error_iff.1 h with hcheck | hstops
  · rcases FileSystem.cases_of_checkPath_error hcheck with ⟨rfl, hzero⟩ | ⟨rfl, hnil⟩ | ⟨rfl, hlong⟩
    · exact .zeroByte hzero
    · exact .empty hnil
    · exact .tooLong hlong
  · rcases hstops.2.cases_fault with rfl | rfl | rfl | rfl | rfl
    · exact .missing hstops
    · exact .through hstops
    · exact .barred hstops
    · exact .nameTooLong hstops
    · exact .tooManyLinks hstops

/-- Every error is one of the backend, and tells why the path is refused. -/
theorem refuses_of_ask_error {e : ListingError} (h : ((listing cwd).ask dir fs).result = .error e) :
    e.backend = some "Fs" ∧ ∃ path, e.path = some path ∧ Refuses fs cwd dir e.kind path := by
  cases hresolve : fs.resolve cwd dir with
  | error fault =>
    rw [ask_of_resolve_error hresolve] at h
    cases h
    exact ⟨rfl, dir, rfl, refuses_of_resolve_error hresolve⟩
  | ok target =>
    obtain ⟨loc, node⟩ := target
    have harrives : fs.ArrivesAt cwd dir loc node := FileSystem.arrivesAt_iff.2 hresolve
    by_cases hdir : node = .directory
    · subst hdir
      rw [ask_of_directory hresolve] at h
      rcases texts_or_first (fs.children loc) with htexts | ⟨before, name, node, after, hsplit, hbefore, hname⟩
      · obtain ⟨found, hfound⟩ : ∃ found, List.Forall₂ (Describes fs cwd dir) (fs.children loc) found :=
          exists_describes htexts
        rw [entries_ok_iff.2 hfound] at h
        cases h
      · rw [hsplit, entries_of_first hbefore hname] at h
        cases h
        exact ⟨rfl, _, rfl, .nameNotText harrives hsplit hbefore hname⟩
    by_cases hshut : node = .closed
    · subst hshut
      rw [ask_of_closed hresolve] at h
      cases h
      exact ⟨rfl, dir, rfl, .closed harrives⟩
    · rw [ask_of_no_directory hresolve hdir hshut] at h
      cases h
      exact ⟨rfl, dir, rfl, .ending harrives hdir hshut⟩

/-- A path that is refused is answered with an error of the backend. -/
theorem Refuses.exists_error {kind : ListingErrorKind} {path : Path} (h : Refuses fs cwd dir kind path) :
    ∃ e, ((listing cwd).ask dir fs).result = .error e ∧ e.backend = some "Fs" ∧ e.kind = kind ∧
      e.path = some path := by
  have hfault : ∀ fault, fs.resolve cwd dir = .error fault →
      ∃ e, ((listing cwd).ask dir fs).result = .error e ∧ e.backend = some "Fs" ∧
        e.kind = (faultError dir fault).kind ∧ e.path = some dir :=
    fun fault hresolve => ⟨_, ask_of_resolve_error hresolve, rfl, rfl, rfl⟩
  cases h with
  | empty hnil => exact hfault _ (FileSystem.resolve_of_bytes_nil hnil)
  | zeroByte hzero => exact hfault _ (FileSystem.resolve_of_zero_mem hzero)
  | tooLong hlong =>
    by_cases hzero : 0 ∈ dir.bytes
    · exact hfault _ (FileSystem.resolve_of_zero_mem hzero)
    · exact hfault _ (FileSystem.resolve_of_long hzero hlong)
  | missing hstops | through hstops | barred hstops | nameTooLong hstops | tooManyLinks hstops =>
    exact hfault _ hstops.resolve_eq
  | ending harrives hdir hshut =>
    exact ⟨_, ask_of_no_directory (FileSystem.arrivesAt_iff.1 harrives) hdir hshut, rfl, rfl, rfl⟩
  | closed harrives => exact ⟨_, ask_of_closed (FileSystem.arrivesAt_iff.1 harrives), rfl, rfl, rfl⟩
  | @nameNotText _ _ _ name _ harrives hsplit hbefore hname =>
    refine ⟨nameError dir name, ?_, rfl, rfl, rfl⟩
    rw [ask_of_directory (FileSystem.arrivesAt_iff.1 harrives), hsplit, entries_of_first hbefore hname]

/-! ## Exactness -/

/-- A listing answers with descriptions of the children of the directory that the path leads to. -/
theorem ask_ok_iff :
    ((listing cwd).ask dir fs).result = .ok found ↔
      ∃ loc, fs.ArrivesAt cwd dir loc .directory ∧
        List.Forall₂ (Describes fs cwd dir) (fs.children loc) found := by
  simp only [FileSystem.arrivesAt_iff]
  refine ⟨forall₂_of_list_ok, ?_⟩
  rintro ⟨loc, hloc, hfound⟩
  rw [ask_of_directory hloc]
  exact entries_ok_iff.2 hfound

theorem exists_ask_ok_iff :
    (∃ found, ((listing cwd).ask dir fs).result = .ok found) ↔
      ∃ loc, fs.ArrivesAt cwd dir loc .directory ∧ ∀ kid ∈ fs.children loc, ∃ s, Text.encode s = kid.1 := by
  simp only [ask_ok_iff]
  constructor
  · rintro ⟨found, loc, harrives, hfound⟩
    exact ⟨loc, harrives, texts_of_describes hfound⟩
  · rintro ⟨loc, harrives, htexts⟩
    obtain ⟨found, hfound⟩ := exists_describes htexts
    exact ⟨found, loc, harrives, hfound⟩

/-- An entry of a well-formed tree, read off its name and its path. -/
theorem entry_of_ask_ok (hfs : fs.WellFormed) (h : ((listing cwd).ask dir fs).result = .ok found)
    {e : DirectoryEntry} (he : e ∈ found) :
    DirectoryEntry.IsExtension e.name e.extension ∧
      (FileSystem.checkPath (dir.child (Text.encode e.name)) = .ok () →
        (Text.encode e.name).length ≤ FileSystem.nameLimit →
        (e.isFile = true ↔
          ∃ loc content, fs.ArrivesAt cwd (dir.child (Text.encode e.name)) loc (.file content))) := by
  obtain ⟨loc, harrives, hfound⟩ := ask_ok_iff.1 h
  obtain ⟨⟨name, node⟩, hkid, hname, hfile⟩ := Result.exists_of_forall₂_of_mem hfound he
  obtain rfl : Text.encode e.name = name := hname
  have hisname := (hfs.isName_of_mem_children hkid).decode (Text.decode?_encode e.name)
  refine ⟨DirectoryEntry.isExtension_extensionOf hisname, fun hcheck hshort => ?_⟩
  simp only [FileSystem.arrivesAt_iff]
  exact hfile.trans (hfs.isRegularEntry_iff (FileSystem.arrivesAt_iff.1 harrives) hkid hcheck hshort)

/-- **A listing is exact.**  A path is listed exactly if it leads to a directory that may be read and all
names in there are texts. The answer then describes the children of the directory one by one, and nothing else;
the extension of an entry is that of its name, and it is a regular file exactly if its path leads to one. All
other answers are errors of the backend, and of what kind they are and at which path is told by `Refuses`. -/
theorem listing_exact (fs : FileSystem) (cwd : Location) (dir : Path) :
    (∀ found, ((listing cwd).ask dir fs).result = .ok found ↔
      ∃ loc, fs.ArrivesAt cwd dir loc .directory ∧
        List.Forall₂ (Describes fs cwd dir) (fs.children loc) found) ∧
    ((∃ found, ((listing cwd).ask dir fs).result = .ok found) ↔
      ∃ loc, fs.ArrivesAt cwd dir loc .directory ∧
        ∀ kid ∈ fs.children loc, ∃ s, Text.encode s = kid.1) ∧
    (fs.WellFormed → ∀ found, ((listing cwd).ask dir fs).result = .ok found → ∀ e ∈ found,
      DirectoryEntry.IsExtension e.name e.extension ∧
        (FileSystem.checkPath (dir.child (Text.encode e.name)) = .ok () →
          (Text.encode e.name).length ≤ FileSystem.nameLimit →
          (e.isFile = true ↔
            ∃ loc content, fs.ArrivesAt cwd (dir.child (Text.encode e.name)) loc (.file content)))) ∧
    (∀ e, ((listing cwd).ask dir fs).result = .error e →
      e.backend = some "Fs" ∧ ∃ path, e.path = some path ∧ Refuses fs cwd dir e.kind path) ∧
    (∀ kind path, Refuses fs cwd dir kind path → ∃ e, ((listing cwd).ask dir fs).result = .error e ∧
      e.backend = some "Fs" ∧ e.kind = kind ∧ e.path = some path) :=
  ⟨fun _ => ask_ok_iff, exists_ask_ok_iff, fun hfs _ h _ he => entry_of_ask_ok hfs h he,
    fun _ h => refuses_of_ask_error h, fun _ _ h => h.exists_error⟩

/-- A tree with a den, where links lead to a page, in a circle, to nothing and to a directory; with a cellar
that is shut; and with an attic, where a directory has a name that is no text. -/
def warren : FileSystem := ⟨[
  (.ofNames ["den"], .directory),
  (.ofNames ["den", "a.v2.md"], .file []),
  (.ofNames ["den", "near"], .link (.ofString "a.v2.md")),
  (.ofNames ["den", "far"], .link (.ofString "../hall/near")),
  (.ofNames ["den", "round"], .link (.ofString "./round")),
  (.ofNames ["den", "lost"], .link (.ofString "nothing")),
  (.ofNames ["den", "b.md"], .directory),
  (.ofNames ["den", "b.md", "c.md"], .file []),
  (.ofNames ["den", "back"], .link (.ofString "b.md")),
  (.ofNames ["hall"], .link (.ofString "den")),
  (.ofNames ["cellar"], .closed),
  (.ofNames ["attic"], .directory),
  (.ofNames ["attic", "d.md"], .file []),
  ([0xE9] :: Location.ofNames ["attic"], .directory)]⟩

/-- The den is listed through a link, with the two links that lead to its page; nothing is listed through a
page, in the cellar, or in the attic. -/
theorem listing_exact_warren :
    warren.WellFormed ∧
    (∃ found, ((listing []).ask (.ofString "hall/") warren).result = .ok found ∧
      found = [.file "a.v2.md", .file "near", .file "far", .other "round", .other "lost", .other "b.md",
        .other "back"] ∧
      ∀ e ∈ found, DirectoryEntry.IsExtension e.name e.extension ∧
        (e.isFile = true ↔ ∃ loc content,
          warren.ArrivesAt [] (Path.child (.ofString "hall/") (Text.encode e.name)) loc (.file content))) ∧
    (∃ e, ((listing []).ask (.ofString "den/near/x") warren).result = .error e ∧ e.backend = some "Fs" ∧
      e.kind = .notADirectory ∧ e.path = some (.ofString "den/near/x")) ∧
    (∃ e, ((listing []).ask (.ofString "cellar/x") warren).result = .error e ∧ e.backend = some "Fs" ∧
      e.kind = .permissionDenied ∧ e.path = some (.ofString "cellar/x")) ∧
    ∃ e, ((listing []).ask (.ofString "attic") warren).result = .error e ∧ e.backend = some "Fs" ∧
      e.kind = .other ∧ e.path = some (Path.child (.ofString "attic") [0xE9]) := by
  have hwarren : warren.WellFormed := by decide +kernel
  obtain ⟨found, hfound, heq⟩ : ∃ found, ((listing []).ask (.ofString "hall/") warren).result = .ok found ∧
      decide (found = [.file "a.v2.md", .file "near", .file "far", .other "round", .other "lost",
        .other "b.md", .other "back"]) = true :=
    Result.exists_ok_of_any (by decide +kernel)
  obtain rfl := of_decide_eq_true heq
  have hfit : ∀ e ∈ [DirectoryEntry.file "a.v2.md", .file "near", .file "far", .other "round",
      .other "lost", .other "b.md", .other "back"],
      FileSystem.checkPath (Path.child (.ofString "hall/") (Text.encode e.name)) = .ok () ∧
        (Text.encode e.name).length ≤ FileSystem.nameLimit := by
    decide +kernel
  refine ⟨hwarren, ⟨_, hfound, rfl, fun e he => ?_⟩, ?_, ?_, ?_⟩
  · obtain ⟨hext, hfile⟩ := (listing_exact warren [] _).2.2.1 hwarren _ hfound e he
    exact ⟨hext, hfile (hfit e he).1 (hfit e he).2⟩
  · have hstops : warren.StopsAt [] (.ofString "den/near/x") .notADirectory :=
      (FileSystem.resolve_error_iff.1 (by decide +kernel)).resolve_left (by decide +kernel)
    exact (listing_exact warren [] _).2.2.2.2 _ _ (.through hstops)
  · have hstops : warren.StopsAt [] (.ofString "cellar/x") .permissionDenied :=
      (FileSystem.resolve_error_iff.1 (by decide +kernel)).resolve_left (by decide +kernel)
    exact (listing_exact warren [] _).2.2.2.2 _ _ (.barred hstops)
  · have hattic : warren.ArrivesAt [] (.ofString "attic") (.ofNames ["attic"]) .directory :=
      FileSystem.arrivesAt_iff.2 (by decide +kernel)
    have hsplit : warren.children (.ofNames ["attic"]) =
        [(Text.encode "d.md", .file [])] ++ ([0xE9], .directory) :: [] := by
      decide +kernel
    have htexts : ∀ kid ∈ [(Text.encode "d.md", Node.file [])], ∃ s, Text.encode s = kid.1 :=
      List.forall_mem_singleton.2 ⟨"d.md", rfl⟩
    have hname : ∀ s, Text.encode s ≠ [0xE9] := Text.decode?_eq_none_iff.1 (by decide +kernel)
    exact (listing_exact warren [] _).2.2.2.2 _ _ (.nameNotText hattic hsplit htexts hname)

end Disk
end DocPortal
