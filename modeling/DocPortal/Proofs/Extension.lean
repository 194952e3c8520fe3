import DocPortal.Listing.Entry
import DocPortal.Sidebar.Filter
import DocPortal.Text.Utf8
import Mathlib.Data.List.TakeWhile

/-!
# Extensions as suffixes

A filter looks at the extension that is read off a name. For a name that a directory can have an entry
under, the filter accepts that extension exactly if the name is something followed by one of the
filter's extensions: the rules for written paths, for dots at the start of a name and for several dots
come down to a suffix.
-/

namespace DocPortal
namespace Lexical

open PathAlphabet

variable {α : Type} [DecidableEq α] [PathAlphabet α]

/-- A word that can be the name of an entry of a directory. -/
structure IsName (n : List α) : Prop where
  ne_nil : n ≠ []
  slash_notMem : slash ∉ n
  ne_here : n ≠ [dot]
  ne_up : n ≠ [dot, dot]

instance (n : List α) : Decidable (IsName n) :=
  decidable_of_iff (n ≠ [] ∧ slash ∉ n ∧ n ≠ [dot] ∧ n ≠ [dot, dot])
    ⟨fun ⟨hnil, hslash, hhere, hup⟩ => ⟨hnil, hslash, hhere, hup⟩,
      fun h => ⟨h.ne_nil, h.slash_notMem, h.ne_here, h.ne_up⟩⟩

/-- A word without a separator is one segment. -/
theorem segments_of_slash_notMem {n : List α} (h : slash ∉ n) : segments n = [n] := by
  induction n with
  | nil => rfl
  | cons c cs ih =>
    rw [List.mem_cons, not_or] at h
    obtain ⟨hc, hcs⟩ := h
    rw [segments, if_neg (Ne.symm hc), ih hcs]

theorem IsName.isAbsolute_eq_false {n : List α} (h : IsName n) : isAbsolute n = false := by
  cases n with
  | nil => rfl
  | cons c cs =>
    have hc : c ≠ slash := fun hc => h.slash_notMem (hc ▸ List.mem_cons_self)
    simp [isAbsolute, hc]

/-- A name is the only component of the path that it is. -/
theorem IsName.components_eq {n : List α} (h : IsName n) : components n = [.name n] := by
  have habs := h.isAbsolute_eq_false
  have hsegments := segments_of_slash_notMem h.slash_notMem
  have hhead : head n = [] := by simp [head, habs, hsegments, h.ne_here]
  simp [components, habs, hhead, bodySegments, hsegments, componentOf, isIdle, h.ne_nil, h.ne_here, h.ne_up]

theorem IsName.fileName?_eq {n : List α} (h : IsName n) : fileName? n = some n := by
  simp [fileName?, h.components_eq]

private theorem forall_reverse_ne_dot {n : List α} (h : dot ∉ n) :
    ∀ c ∈ n.reverse, decide (c ≠ (dot : α)) = true := by
  intro c hc
  have hne : c ≠ dot := fun hdot => h (hdot ▸ List.mem_reverse.1 hc)
  simpa using hne

theorem splitExtension?_of_dot_notMem {n : List α} (h : dot ∉ n) : splitExtension? n = none := by
  have hnil : n.reverse.dropWhile (· ≠ (dot : α)) = [] :=
    List.dropWhile_eq_nil_iff.2 (forall_reverse_ne_dot h)
  rw [splitExtension?, hnil]
  rfl

theorem splitExtension?_of_last_dot {stem e : List α} (he : dot ∉ e) :
    splitExtension? (stem ++ dot :: e) = if stem = [] then none else some (stem, e) := by
  have hpos := forall_reverse_ne_dot he
  have hreverse : (stem ++ dot :: e).reverse = e.reverse ++ dot :: stem.reverse := by simp
  have htake : (stem ++ dot :: e).reverse.takeWhile (· ≠ (dot : α)) = e.reverse := by
    rw [hreverse, List.takeWhile_append_of_pos hpos]
    simp
  have hdrop : (stem ++ dot :: e).reverse.dropWhile (· ≠ (dot : α)) = dot :: stem.reverse := by
    rw [hreverse, List.dropWhile_append_of_pos hpos]
    simp
  rw [splitExtension?, htake, hdrop, List.reverse_cons, List.dropLast_concat]
  cases stem with
  | nil => rfl
  | cons c cs => simp

/-- A name is split at its last dot, if anything stands before that. -/
theorem splitExtension?_eq_some_iff {n stem e : List α} :
    splitExtension? n = some (stem, e) ↔ n = stem ++ dot :: e ∧ dot ∉ e ∧ stem ≠ [] := by
  constructor
  · intro h
    by_cases hdot : dot ∈ n
    · obtain ⟨e', stem', hn, he'⟩ := List.eq_append_cons_of_mem (List.mem_reverse.2 hdot)
      have hsplit : n = stem'.reverse ++ dot :: e'.reverse := by
        rw [← List.reverse_reverse n, hn]
        simp
      have hlast : dot ∉ e'.reverse := fun hmem => he' (List.mem_reverse.1 hmem)
      rw [hsplit, splitExtension?_of_last_dot hlast] at h
      split at h
      · cases h
      · rename_i hne
        cases h
        exact ⟨hsplit, hlast, hne⟩
    · rw [splitExtension?_of_dot_notMem hdot] at h
      cases h
  · rintro ⟨rfl, he, hstem⟩
    rw [splitExtension?_of_last_dot he, if_neg hstem]

/-- What stands after the last dot of a name, which is not its first symbol. -/
theorem IsName.extension?_eq_some_iff {n e : List α} (h : IsName n) :
    extension? n = some e ↔ dot ∉ e ∧ ∃ stem, stem ≠ [] ∧ n = stem ++ dot :: e := by
  rw [extension?, h.fileName?_eq, Option.bind_some, Option.map_eq_some_iff]
  constructor
  · rintro ⟨⟨stem, e'⟩, hsplit, rfl⟩
    obtain ⟨hn, he, hstem⟩ := splitExtension?_eq_some_iff.1 hsplit
    exact ⟨he, stem, hstem, hn⟩
  · rintro ⟨he, stem, hstem, hn⟩
    exact ⟨(stem, e), splitExtension?_eq_some_iff.2 ⟨hn, he, hstem⟩, rfl⟩

end Lexical

/-! ## Names as bytes and as text -/

/-- The bytes of a character of a text are among those of the text. -/
theorem Text.mem_encode_of_mem {c : Char} {s : String} (hc : c ∈ s.toList) {b : UInt8}
    (hb : b ∈ encode (.ofList [c])) : b ∈ encode s := by
  obtain ⟨before, after, hs⟩ := List.append_of_mem hc
  have hsplit : s = .ofList before ++ (.ofList [c] ++ .ofList after) := by
    apply String.toList_inj.1
    rw [hs]
    simp
  rw [hsplit, encode_append, encode_append]
  exact List.mem_append_right _ (List.mem_append_left _ hb)

/-- Bytes that are a name spell a text that is one. -/
theorem Lexical.IsName.decode {b : Bytes} {s : String} (hb : IsName b)
    (h : Text.decode? b = some s) : IsName s.toList := by
  have henc : Text.encode s = b := Text.encode_of_decode? h
  constructor
  · intro hs
    have hempty : s = "" := String.toList_inj.1 hs
    rw [hempty] at henc
    exact hb.ne_nil henc.symm
  · intro hmem
    have hbytes : (0x2F : UInt8) ∈ Text.encode s := Text.mem_encode_of_mem hmem (by decide)
    rw [henc] at hbytes
    exact hb.slash_notMem hbytes
  · intro hs
    have hdot : s = "." := String.toList_inj.1 hs
    rw [hdot] at henc
    exact hb.ne_here henc.symm
  · intro hs
    have hdots : s = ".." := String.toList_inj.1 hs
    rw [hdots] at henc
    exact hb.ne_up henc.symm

/-! ## The extension of a name -/

namespace DirectoryEntry

variable {stem rest : String}

/-- The extension of a name is its last dot with what follows that, if anything stands before. -/
theorem extensionOf_of_last_dot (hn : Lexical.IsName (stem ++ "." ++ rest).toList) (hstem : stem ≠ "")
    (hrest : '.' ∉ rest.toList) : extensionOf (stem ++ "." ++ rest) = "." ++ rest := by
  have hext : Lexical.extension? (stem ++ "." ++ rest).toList = some rest.toList := by
    refine hn.extension?_eq_some_iff.2 ⟨hrest, stem.toList, ?_, ?_⟩
    · intro hempty
      exact hstem (String.toList_inj.1 hempty)
    · rw [String.toList_append, String.toList_append, List.append_assoc]
      rfl
  rw [extensionOf, hext]
  apply String.toList_inj.1
  simp

/-- A name whose only dot is its first character has no extension. -/
theorem extensionOf_of_only_dot (hn : Lexical.IsName ("." ++ rest).toList) (hrest : '.' ∉ rest.toList) :
    extensionOf ("." ++ rest) = "" := by
  cases hext : Lexical.extension? ("." ++ rest).toList with
  | none => rw [extensionOf, hext]
  | some e =>
    obtain ⟨-, stem, hstem, hsplit⟩ := hn.extension?_eq_some_iff.1 hext
    obtain ⟨c, stem, rfl⟩ := List.exists_cons_of_ne_nil hstem
    have htail : rest.toList = stem ++ '.' :: e := by
      rw [String.toList_append] at hsplit
      exact (List.cons.inj hsplit).2
    exact absurd (htail ▸ List.mem_append_right stem List.mem_cons_self) hrest

end DirectoryEntry

/-! ## Filters -/

/-- Whether a text is something followed by one of some extensions. -/
def HasExtension (extensions : List String) (n : String) : Prop :=
  ∃ stem e, stem ≠ "" ∧ e ∈ extensions ∧ n = stem ++ e

/-- A text that is a dot and a segment: something after the dot in which there is no other dot and no
separator. -/
def IsDottedSegment (e : String) : Prop :=
  ∃ rest, e = "." ++ rest ∧ rest ≠ "" ∧ ∀ c ∈ rest.toList, c ≠ '.' ∧ c ≠ '/' ∧ c ≠ '\\'

namespace ExtensionFilter

theorem isExtension_iff {e : String} : isExtension e = true ↔ IsDottedSegment e := by
  unfold isExtension
  split
  · rename_i rest he
    obtain rfl : e = "." ++ .ofList rest := String.toList_inj.1 (by rw [he]; simp)
    constructor
    · intro h
      exact ⟨.ofList rest, rfl, by simpa [and_assoc] using h⟩
    · rintro ⟨rest', heq, hrest⟩
      obtain rfl : .ofList rest = rest' := by simpa using heq
      simpa [and_assoc] using hrest
  · rename_i hne
    simp only [Bool.false_eq_true, false_iff]
    rintro ⟨rest, rfl, -⟩
    exact hne rest.toList (by simp)

/-- A name that ends in an extension after something else has that extension. -/
theorem extensionOf_of_hasExtension {e n : String} (hn : Lexical.IsName n.toList) (he : isExtension e = true)
    (h : HasExtension [e] n) : DirectoryEntry.extensionOf n = e := by
  obtain ⟨stem, e', hstem, he', rfl⟩ := h
  obtain rfl := List.mem_singleton.1 he'
  obtain ⟨rest, rfl, -, hrest⟩ := isExtension_iff.1 he
  rw [← String.append_assoc] at hn ⊢
  exact DirectoryEntry.extensionOf_of_last_dot hn hstem fun hdot => (hrest '.' hdot).1 rfl

/-- The texts inserted one after the other into an ascending list. -/
theorem mem_foldl_insertSorted (extensions sorted : List String) (x : String) :
    x ∈ extensions.foldl (fun sorted e => insertSorted e sorted) sorted ↔
      x ∈ extensions ∨ x ∈ sorted := by
  induction extensions generalizing sorted with
  | nil => simp
  | cons e rest ih =>
    rw [List.foldl_cons, ih, mem_insertSorted, List.mem_cons, or_left_comm, or_assoc]

/-- A filter is made of extensions only, and of all that were given. -/
theorem of_ofList {extensions : List String} {f : ExtensionFilter}
    (h : ofList extensions = .ok f) :
    (∀ e ∈ extensions, isExtension e = true) ∧ ∀ x, x ∈ f.extensions ↔ x ∈ extensions := by
  unfold ofList at h
  split at h
  · cases h
  · rename_i hfind
    split at h
    · cases h
    · cases h
      constructor
      · intro e he
        simpa using List.find?_eq_none.1 hfind e he
      · intro x
        simp [mem_foldl_insertSorted]

theorem accepts_iff_mem {extensions : List String} {f : ExtensionFilter} (hf : ofList extensions = .ok f)
    (x : String) : f.accepts x = true ↔ x ∈ extensions := by
  rw [accepts_iff, (of_ofList hf).2]

/-- A filter accepts a name exactly if that is something followed by one of its extensions. -/
theorem accepts_extensionOf_iff {extensions : List String} {f : ExtensionFilter}
    (hf : ofList extensions = .ok f) {n : String} (hn : Lexical.IsName n.toList) :
    f.accepts (DirectoryEntry.extensionOf n) = true ↔ HasExtension extensions n := by
  have hvalid := (of_ofList hf).1
  rw [accepts_iff_mem hf]
  constructor
  · intro h
    have hsegment := isExtension_iff.1 (hvalid _ h)
    unfold DirectoryEntry.extensionOf at h hsegment
    split at h
    · rename_i e hext
      obtain ⟨-, stem, hstem, hsplit⟩ := hn.extension?_eq_some_iff.1 hext
      refine ⟨.ofList stem, _, ?_, h, ?_⟩
      · intro hempty
        exact hstem (String.ofList_injective hempty)
      · apply String.toList_inj.1
        rw [hsplit]
        simp
        rfl
    · rename_i hnone
      rw [hnone] at hsegment
      obtain ⟨rest, hempty, -, -⟩ := hsegment
      simp at hempty
  · rintro ⟨stem, e, hstem, he, rfl⟩
    rw [extensionOf_of_hasExtension hn (hvalid e he) ⟨stem, e, hstem, List.mem_singleton_self e, rfl⟩]
    exact he

/-- **A filter goes by suffixes.**  It accepts an entry exactly if the name of that is something followed by
one of the given extensions.  So a name that is only a dot and a segment, as every extension is, is not
accepted; of a name with several dots the last segment decides; a name that ends in a dot is not accepted; and
no more than one of the extensions can be the one that a name ends in. -/
theorem accepts_by_suffix {extensions : List String} {f : ExtensionFilter} (hf : ofList extensions = .ok f)
    (entry : DirectoryEntry) (hn : Lexical.IsName entry.name.toList) :
    (f.accepts entry.extension = true ↔ HasExtension extensions entry.name) ∧
      (∀ rest, entry.name = "." ++ rest → '.' ∉ rest.toList → f.accepts entry.extension = false) ∧
      (∀ stem rest, entry.name = stem ++ "." ++ rest → stem ≠ "" → '.' ∉ rest.toList →
        (f.accepts entry.extension = true ↔ "." ++ rest ∈ extensions)) ∧
      (∀ stem, entry.name = stem ++ "." → f.accepts entry.extension = false) ∧
      ∀ x ∈ extensions, ∀ y ∈ extensions, HasExtension [x] entry.name → HasExtension [y] entry.name → x = y := by
  obtain ⟨n, isFile⟩ := entry
  have hvalid := (of_ofList hf).1
  have hlast (stem rest : String) (heq : n = stem ++ "." ++ rest) (hstem : stem ≠ "")
      (hrest : '.' ∉ rest.toList) :
      f.accepts (DirectoryEntry.extensionOf n) = true ↔ "." ++ rest ∈ extensions := by
    subst heq
    rw [accepts_iff_mem hf, DirectoryEntry.extensionOf_of_last_dot hn hstem hrest]
  refine ⟨accepts_extensionOf_iff hf hn, ?_, hlast, ?_, ?_⟩
  · rintro rest rfl hrest
    rw [DirectoryEntry.extension_mk, DirectoryEntry.extensionOf_of_only_dot hn hrest, Bool.eq_false_iff, Ne,
      accepts_iff_mem hf]
    intro hmem
    exact absurd (hvalid "" hmem) (by decide)
  · rintro stem rfl
    have hstem : stem ≠ "" := by
      rintro rfl
      exact hn.ne_here (by simp; rfl)
    rw [Bool.eq_false_iff, Ne, DirectoryEntry.extension_mk, hlast stem "" (by simp) hstem (by simp)]
    intro hmem
    exact absurd (hvalid ("." ++ "") hmem) (by decide)
  · intro x hx y hy hendsx hendsy
    have hofx := extensionOf_of_hasExtension hn (hvalid x hx) hendsx
    exact hofx.symm.trans (extensionOf_of_hasExtension hn (hvalid y hy) hendsy)

/-- Of four names in which an extension stands, only the one that ends in it after something else is accepted.
-/
theorem accepts_by_suffix_notes :
    ofList [".rst", ".md"] = .ok ⟨[".md", ".rst"]⟩ ∧
      accepts ⟨[".md", ".rst"]⟩ (DirectoryEntry.file "notes.rst.md").extension = true ∧
      accepts ⟨[".md", ".rst"]⟩ (DirectoryEntry.file "notes.md.txt").extension = false ∧
      accepts ⟨[".md", ".rst"]⟩ (DirectoryEntry.file ".md").extension = false ∧
      accepts ⟨[".md", ".rst"]⟩ (DirectoryEntry.file "notes.md.").extension = false := by
  have hf : ofList [".rst", ".md"] = .ok ⟨[".md", ".rst"]⟩ := by decide +kernel
  obtain ⟨hsuffix, -⟩ := accepts_by_suffix hf (.file "notes.rst.md") (by decide)
  obtain ⟨-, -, hlast, -⟩ := accepts_by_suffix hf (.file "notes.md.txt") (by decide)
  obtain ⟨-, honly, -⟩ := accepts_by_suffix hf (.file ".md") (by decide)
  obtain ⟨-, -, -, htrailing, -⟩ := accepts_by_suffix hf (.file "notes.md.") (by decide)
  refine ⟨hf, hsuffix.2 ⟨"notes.rst", ".md", by decide, by decide, rfl⟩, ?_, ?_, ?_⟩
  · rw [Bool.eq_false_iff, Ne, hlast "notes.md" "txt" rfl (by decide) (by decide)]
    decide
  · exact honly "md" rfl (by decide)
  · exact htrailing "notes.md" rfl

end ExtensionFilter
end DocPortal
