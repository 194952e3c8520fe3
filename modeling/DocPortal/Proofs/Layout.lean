import DocPortal.Proofs.Build
import DocPortal.Proofs.Encoding

/-!
# Layouts

A site is written on a single line or indented, and the two texts differ in nothing but spaces and newlines
between tokens: with those deleted that stand outside of text literals, the indented text is the other one,
character by character. Both are decoded to the same value. Whichever of the two a build is asked for, it
does the same otherwise.

## Main definitions

* `Json.condensed` — a text without the spaces and newlines outside of its text literals.
* `Json.SameButLayout` — two texts with nothing else between them.
* `FileSystem.SameButLayout` — two trees that differ in the layout of texts at most.
-/

namespace DocPortal
namespace Json

/-! ## Deleting what is outside of text literals -/

/-- Where a character stands in a JSON text. -/
inductive Place where
  | outside
  /-- Within a text literal. -/
  | inside
  /-- Within a text literal, after the backslash that begins an escape. -/
  | escaped
  deriving DecidableEq, Repr

/-- Where the next character stands. -/
def Place.after : Place → Char → Place
  | outside, c => if c = '"' then inside else outside
  | inside, c => if c = '"' then outside else if c = '\\' then escaped else inside
  | escaped, _ => inside

/-- Whether a character is one of those that layouts are made of. -/
def isSpacing (c : Char) : Bool := c = ' ' || c = '\n'

/-- The characters of a text from a place on, without the spacing outside of its text literals. -/
def unspaced : Place → List Char → List Char
  | _, [] => []
  | place, c :: rest =>
    if place = .outside ∧ isSpacing c = true then unspaced place rest
    else c :: unspaced (place.after c) rest

/-- A text without the spaces and newlines outside of its text literals. -/
def condensed (s : String) : String := .ofList (unspaced .outside s.toList)

theorem unspaced_spacing {s : List Char} (h : ∀ c ∈ s, isSpacing c = true) (t : List Char) :
    unspaced .outside (s ++ t) = unspaced .outside t := by
  induction s with
  | nil => rfl
  | cons c s ih =>
    obtain ⟨hc, hs⟩ := List.forall_mem_cons.1 h
    rw [List.cons_append, unspaced, if_pos ⟨rfl, hc⟩, ih hs]

/-- Outside of text literals everything stays but spacing. -/
theorem unspaced_mark {c : Char} (hquote : c ≠ '"') (hspacing : isSpacing c = false) (t : List Char) :
    unspaced .outside (c :: t) = c :: unspaced .outside t := by
  rw [unspaced, if_neg (by simp [hspacing]), Place.after, if_neg hquote]

theorem unspaced_word {w : List Char} (h : ∀ c ∈ w, isWordChar c = true) (t : List Char) :
    unspaced .outside (w ++ t) = w ++ unspaced .outside t := by
  induction w with
  | nil => rfl
  | cons c w ih =>
    obtain ⟨hc, hw⟩ := List.forall_mem_cons.1 h
    have hquote : c ≠ '"' := by
      rintro rfl
      cases hc
    have hspacing : isSpacing c = false := by
      have hblank := isBlank_of_isWordChar hc
      simp only [isBlank, Bool.or_eq_false_iff] at hblank
      simp [isSpacing, hblank]
    rw [List.cons_append, unspaced_mark hquote hspacing, ih hw, List.cons_append]

/-- Within a text literal everything stays up to its closing quote. -/
theorem unspaced_inside {c : Char} (hquote : c ≠ '"') (hbackslash : c ≠ '\\') (t : List Char) :
    unspaced .inside (c :: t) = c :: unspaced .inside t := by
  rw [unspaced, if_neg (by simp), Place.after, if_neg hquote, if_neg hbackslash]

theorem unspaced_escape (c : Char) (t : List Char) :
    unspaced .inside ('\\' :: c :: t) = '\\' :: c :: unspaced .inside t := by
  rw [unspaced, if_neg (by simp)]
  show '\\' :: unspaced .escaped (c :: t) = _
  rw [unspaced, if_neg (by simp)]
  rfl

/-- A character of a text literal does not end the literal, however it is written. -/
theorem unspaced_escapedChar (c : Char) (t : List Char) :
    unspaced .inside (escapedChar c ++ t) = escapedChar c ++ unspaced .inside t := by
  obtain ⟨hplain, heq⟩ | ⟨e, -, heq⟩ | ⟨hcontrol, heq⟩ := cases_escapedChar c
  · simp only [isPlain, Bool.and_eq_true, decide_eq_true_eq] at hplain
    rw [heq]
    exact unspaced_inside hplain.1.1 hplain.1.2 t
  · rw [heq]
    exact unspaced_escape e t
  · have hdigit : ∀ n < 0x20, hexDigit n ≠ '"' ∧ hexDigit n ≠ '\\' := by decide
    have hzero := unspaced_inside (c := '0') (by decide) (by decide)
    have hhigh := hdigit (c.toNat / 16) (by omega)
    have hlow := hdigit c.toNat hcontrol
    rw [heq]
    show unspaced .inside ('\\' :: 'u' :: '0' :: '0' :: _ :: _ :: t) = _
    rw [unspaced_escape, hzero, hzero, unspaced_inside hhigh.1 hhigh.2, unspaced_inside hlow.1 hlow.2]
    rfl

/-- A text literal stays as it is, whatever its characters. -/
theorem unspaced_literal (s : String) (t : List Char) :
    unspaced .outside (literal s ++ t) = literal s ++ unspaced .outside t := by
  have hchars : ∀ cs : List Char, unspaced .inside (cs.flatMap escapedChar ++ '"' :: t) =
      cs.flatMap escapedChar ++ '"' :: unspaced .outside t := by
    intro cs
    induction cs with
    | nil =>
      show unspaced .inside ('"' :: t) = '"' :: unspaced .outside t
      rw [unspaced, if_neg (by simp)]
      rfl
    | cons c cs ih => rw [List.flatMap_cons, List.append_assoc, unspaced_escapedChar, ih, List.append_assoc]
  have hopen : unspaced .outside ('"' :: (s.toList.flatMap escapedChar ++ '"' :: t)) =
      '"' :: unspaced .inside (s.toList.flatMap escapedChar ++ '"' :: t) := by
    rw [unspaced, if_neg (by simp [isSpacing])]
    rfl
  simp [literal, hopen, hchars]

/-! ## Values -/

/-- A layout is made of spaces and newlines. -/
structure Layout.IsSpacing (l : Layout) : Prop where
  lineBreak : ∀ depth, ∀ c ∈ l.lineBreak depth, isSpacing c = true
  afterColon : ∀ c ∈ l.afterColon, isSpacing c = true

theorem Layout.isSpacing_compact : compact.IsSpacing where
  lineBreak _ _ hc := absurd hc List.not_mem_nil
  afterColon _ hc := absurd hc List.not_mem_nil

theorem Layout.isSpacing_indented : indented.IsSpacing where
  lineBreak depth c hc := by
    rcases List.mem_cons.1 hc with rfl | hc
    · decide
    · rw [List.eq_of_mem_replicate hc]
      decide
  afterColon c hc := by
    rw [List.mem_singleton.1 hc]
    decide

section

variable {l : Layout}

theorem Layout.IsSpacing.unspaced_lineBreak (hl : l.IsSpacing) (depth : Nat) (t : List Char) :
    unspaced .outside (l.lineBreak depth ++ t) = unspaced .outside t :=
  unspaced_spacing (hl.lineBreak depth) t

theorem Layout.IsSpacing.unspaced_afterColon (hl : l.IsSpacing) (t : List Char) :
    unspaced .outside (l.afterColon ++ t) = unspaced .outside t :=
  unspaced_spacing hl.afterColon t

mutual

/-- Whatever the layout, what is left of a value is its text without a layout. -/
theorem unspaced_render (hl : l.IsSpacing) (depth : Nat) (t : List Char) : ∀ j : Json,
    unspaced .outside (render l depth j ++ t) = render .compact depth j ++ unspaced .outside t
  | .null => unspaced_word (w := "null".toList) (List.all_eq_true.1 (by decide)) t
  | .boolean true => unspaced_word (w := "true".toList) (List.all_eq_true.1 (by decide)) t
  | .boolean false => unspaced_word (w := "false".toList) (List.all_eq_true.1 (by decide)) t
  | .number n => unspaced_word (isWordChar_of_isNumeral n.isNumeral).2 t
  | .text s => unspaced_literal s t
  | .array [] => by simp [render, unspaced_mark, isSpacing]
  | .array (x :: xs) => by
    have hopen := unspaced_mark (c := '[') (by decide) (by decide)
    have hclose := unspaced_mark (c := ']') (by decide) (by decide)
    simp only [render, List.cons_append, List.append_assoc, List.nil_append, hopen, hclose,
      hl.unspaced_lineBreak, unspaced_render hl (depth + 1), unspaced_renderItems hl (depth + 1)]
    rfl
  | .object [] => by simp [render, unspaced_mark, isSpacing]
  | .object ((k, v) :: ms) => by
    have hopen := unspaced_mark (c := '\x7b') (by decide) (by decide)
    have hclose := unspaced_mark (c := '\x7d') (by decide) (by decide)
    have hcolon := unspaced_mark (c := ':') (by decide) (by decide)
    simp only [render, List.cons_append, List.append_assoc, List.nil_append, hopen, hclose, hcolon,
      unspaced_literal, hl.unspaced_lineBreak, hl.unspaced_afterColon, unspaced_render hl (depth + 1),
      unspaced_renderMembers hl (depth + 1)]
    rfl

/-- What is left of further items. -/
theorem unspaced_renderItems (hl : l.IsSpacing) (depth : Nat) (t : List Char) : ∀ xs : List Json,
    unspaced .outside (renderItems l depth xs ++ t) =
      renderItems .compact depth xs ++ unspaced .outside t
  | [] => rfl
  | x :: xs => by
    have hcomma := unspaced_mark (c := ',') (by decide) (by decide)
    simp only [renderItems, List.cons_append, List.append_assoc, hcomma, hl.unspaced_lineBreak,
      unspaced_render hl depth, unspaced_renderItems hl depth]
    rfl

/-- What is left of further members. -/
theorem unspaced_renderMembers (hl : l.IsSpacing) (depth : Nat) (t : List Char) :
    ∀ ms : List (String × Json), unspaced .outside (renderMembers l depth ms ++ t) =
      renderMembers .compact depth ms ++ unspaced .outside t
  | [] => rfl
  | (k, v) :: ms => by
    have hcomma := unspaced_mark (c := ',') (by decide) (by decide)
    have hcolon := unspaced_mark (c := ':') (by decide) (by decide)
    simp only [renderMembers, List.cons_append, List.append_assoc, hcomma, hcolon, unspaced_literal,
      hl.unspaced_lineBreak, hl.unspaced_afterColon, unspaced_render hl depth,
      unspaced_renderMembers hl depth]
    rfl

end

end

/-- Without its spacing, every layout of a value is its text without blanks. -/
theorem condensed_render {l : Layout} (hl : l.IsSpacing) (depth : Nat) (j : Json) {spacing : List Char}
    (h : ∀ c ∈ spacing, isSpacing c = true) :
    condensed (.ofList (render l depth j ++ spacing)) = .ofList (render .compact depth j) := by
  have hend : unspaced .outside spacing = [] := by
    rw [← List.append_nil spacing, unspaced_spacing h]
    rfl
  rw [condensed, String.toList_ofList, unspaced_render hl, hend, List.append_nil]

theorem condensed_pretty (j : Json) : condensed j.pretty = j.compact := by
  have hcondensed := condensed_render Layout.isSpacing_indented 0 j (List.forall_mem_nil _)
  rwa [List.append_nil] at hcondensed

example : condensed "\x7b \"a \\\" b\" :\n[ ] \x7d\n" = "\x7b\"a \\\" b\":[]\x7d" := by decide +kernel

/-- Two texts differ in spaces and newlines outside of text literals at most, and they are decoded to the same
value, if to any. -/
structure SameButLayout (s s' : String) : Prop where
  condensed : condensed s = condensed s'
  decode : decode s = decode s'

theorem SameButLayout.refl (s : String) : SameButLayout s s := ⟨rfl, rfl⟩

end Json

/-! ## Trees -/

/-- Two nodes are the same, or they are files whose texts differ in their layout at most. -/
def Node.SameButLayout (node node' : Node) : Prop :=
  node = node' ∨ ∃ s s', node = .file (Text.encode s) ∧ node' = .file (Text.encode s') ∧
    Json.SameButLayout s s'

namespace FileSystem

/-- Two trees have the same places in the same order, and the nodes there differ in the layout of texts at
most. -/
def SameButLayout (fs fs' : FileSystem) : Prop :=
  List.Forall₂ (fun e e' => e.1 = e'.1 ∧ e.2.SameButLayout e'.2) fs.nodes fs'.nodes

theorem SameButLayout.refl (fs : FileSystem) : fs.SameButLayout fs :=
  List.forall₂_same.2 fun _ _ => ⟨rfl, .inl rfl⟩

variable {s s' : String}

theorem sameButLayout_put (fs : FileSystem) (loc : Location) (h : Json.SameButLayout s s') :
    (fs.put loc (.file (Text.encode s))).SameButLayout (fs.put loc (.file (Text.encode s'))) := by
  have hnode : Node.SameButLayout (.file (Text.encode s)) (.file (Text.encode s')) :=
    .inr ⟨s, s', rfl, rfl, h⟩
  rw [put, put]
  split
  · show List.Forall₂ _ (fs.nodes.map _) (fs.nodes.map _)
    rw [List.forall₂_map_left_iff, List.forall₂_map_right_iff, List.forall₂_same]
    intro e _
    split
    · exact ⟨rfl, hnode⟩
    · exact ⟨rfl, .inl rfl⟩
  · exact List.rel_append (SameButLayout.refl fs) (.cons ⟨rfl, hnode⟩ .nil)

/-- Whether a text can be written does not depend on its layout. -/
theorem sameButLayout_write (fs : FileSystem) (cwd : Location) (p : Path) (h : Json.SameButLayout s s') :
    (∃ fault, fs.write cwd p (Text.encode s) = .error fault ∧
      fs.write cwd p (Text.encode s') = .error fault) ∨
    ∃ files files', fs.write cwd p (Text.encode s) = .ok files ∧
      fs.write cwd p (Text.encode s') = .ok files' ∧ files.SameButLayout files' := by
  cases hreach : fs.reach cwd .create p with
  | error fault =>
    refine .inl ⟨fault, ?_, ?_⟩ <;> rw [write, hreach] <;> rfl
  | ok loc =>
    rw [write, write, hreach]
    dsimp only [bind, Except.bind]
    split
    · exact .inl ⟨_, rfl, rfl⟩
    · exact .inl ⟨_, rfl, rfl⟩
    · exact .inr ⟨fs, fs, rfl, rfl, .refl fs⟩
    · exact .inr ⟨_, _, rfl, rfl, fs.sameButLayout_put loc h⟩

end FileSystem

/-! ## Builds -/

/-- Two outcomes differ in the layout of texts at most, be they printed or written to a file. -/
structure Outcome.SameButLayout (o o' : Outcome) : Prop where
  result : o.result = o'.result
  notices : o.notices = o'.notices
  stdout : Json.SameButLayout o.stdout o'.stdout
  files : o.files.SameButLayout o'.files

namespace Outcome

theorem SameButLayout.refl (o : Outcome) : o.SameButLayout o := ⟨rfl, rfl, .refl _, .refl _⟩

theorem sameButLayout_printed (m : Machine) (notices : List Notice) {s s' : String}
    (h : Json.SameButLayout s s') : (printed m s notices).SameButLayout (printed m s' notices) :=
  ⟨rfl, rfl, h, .refl _⟩

end Outcome

namespace Command

theorem condensed_siteText (compact : Bool) (site : SiteConfig) :
    Json.condensed (siteText compact site) = site.toJson.compact := by
  have hnewline : ∀ c ∈ ['\n'], Json.isSpacing c = true := List.forall_mem_singleton.2 (by decide)
  cases compact with
  | true =>
    have hcondensed := Json.condensed_render Json.Layout.isSpacing_compact 0 site.toJson hnewline
    rwa [String.ofList_append] at hcondensed
  | false =>
    have hcondensed := Json.condensed_render Json.Layout.isSpacing_indented 0 site.toJson hnewline
    rwa [String.ofList_append] at hcondensed

theorem sameButLayout_siteText (site : SiteConfig) :
    Json.SameButLayout (siteText false site) (siteText true site) where
  condensed := by rw [condensed_siteText, condensed_siteText]
  decode := by rw [decode_siteText, decode_siteText]

theorem sameButLayout_writeOutput (m : Machine) (file : Path) (notices : List Notice) {s s' : String}
    (h : Json.SameButLayout s s') :
    (writeOutput m file s notices).SameButLayout (writeOutput m file s' notices) := by
  rw [writeOutput, writeOutput]
  split
  · exact .refl _
  · rename_i ready _
    obtain ⟨fault, hs, hs'⟩ | ⟨files, files', hs, hs', hfiles⟩ :=
      ready.sameButLayout_write m.cwd file h
    · rw [hs, hs']
      exact .refl _
    · rw [hs, hs']
      exact ⟨rfl, rfl, .refl _, hfiles⟩

/-- What a build does apart from the layout of its text is the same in both layouts. -/
theorem sameButLayout_build (m : Machine) (a : BuildArguments) :
    (build m { a with compact := false }).SameButLayout (build m { a with compact := true }) := by
  obtain ⟨e, notices, hbuild⟩ | ⟨c, site, -, -, hbuild⟩ := build_stages m a
  · rw [hbuild, hbuild]
    exact .refl _
  · have hsite := sameButLayout_siteText site
    rw [hbuild, hbuild]
    cases a.output? with
    | none => exact Outcome.sameButLayout_printed m (configNotices c) hsite
    | some file => exact sameButLayout_writeOutput m file (configNotices c) hsite

/-- **Both layouts carry the same site.**  The indented text of a site, without the spaces and newlines outside
of its text literals, is the text on a single line; both are decoded to the tree of the site, by the grammar
of JSON.  Builds that are asked for either layout come to the same result with the same notices, and what
they print and the trees that they leave differ in nothing but such spaces and newlines. -/
theorem layouts_carry_same_site :
    (∀ site : SiteConfig, Json.condensed site.toJson.pretty = site.toJson.compact ∧
      Json.decode site.toJson.pretty = some site.toJson ∧
      Json.decode site.toJson.compact = some site.toJson) ∧
    (∀ (s : String) (j : Json), Json.decode s = some j ↔ Json.IsText s.toList j) ∧
    ∀ (m : Machine) (a : BuildArguments),
      (build m { a with compact := false }).SameButLayout (build m { a with compact := true }) := by
  refine ⟨fun site => ?_, fun s j => Json.decode_eq_some_iff, sameButLayout_build⟩
  exact ⟨Json.condensed_pretty site.toJson, Json.decode_pretty site.toJson, Json.decode_compact site.toJson⟩

end Command
end DocPortal
