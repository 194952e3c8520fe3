import DocPortal.Proofs.Parts
import DocPortal.Proofs.References

/-!
# Replacing references

A template is read once, from left to right, and each part of it is replaced by what it stands for. Where a
text is put together from literals and references, these are the parts that are found again, whatever the
fallbacks hold, and what has been put in is not read again.

## Main definitions

* `Template.joinValues` — what parts stand for, one after the other.
* `Template.Piece` — a piece that a text is put together from, as it is written.
* `Template.Piece.Stands` — what a piece stands for.
-/

namespace DocPortal
namespace Template

/-! ## What parts stand for -/

/-- What parts stand for, one after the other. -/
def joinValues (env : Environment) (ps : List Part) : Except VariableFault String :=
  (ps.mapM (Part.value env)).map String.join

theorem expand_eq_joinValues (env : Environment) {s : String} (h : Refers s) :
    expand env s = joinValues env (parts s.toList) := by
  rw [expand, if_pos (isTemplate_iff.2 h)]
  rfl

theorem joinValues_append (env : Environment) (ps qs : List Part) :
    joinValues env (ps ++ qs) = do
      let s ← joinValues env ps
      let t ← joinValues env qs
      return s ++ t := by
  rw [joinValues, joinValues, joinValues, List.mapM_append]
  cases ps.mapM (Part.value env) with
  | error e => rfl
  | ok xs =>
    cases qs.mapM (Part.value env) with
    | error e => rfl
    | ok ys =>
      show Except.ok (String.join (xs ++ ys)) = .ok (String.join xs ++ String.join ys)
      rw [String.join_append]

theorem joinValues_append_of_ok {env : Environment} {ps qs : List Part} {s t : String}
    (hs : joinValues env ps = .ok s) (ht : joinValues env qs = .ok t) :
    joinValues env (ps ++ qs) = .ok (s ++ t) := by
  rw [joinValues_append, hs, ht]
  rfl

/-- What stands behind a part that fails does not matter. -/
theorem joinValues_append_of_error {env : Environment} {ps qs : List Part} {s : String} {fault : VariableFault}
    (hs : joinValues env ps = .ok s) (hq : joinValues env qs = .error fault) :
    joinValues env (ps ++ qs) = .error fault := by
  rw [joinValues_append, hs, hq]
  rfl

theorem joinValues_append_of_first_error {env : Environment} {ps qs : List Part} {fault : VariableFault}
    (h : joinValues env ps = .error fault) : joinValues env (ps ++ qs) = .error fault := by
  rw [joinValues_append, h]
  rfl

theorem joinValues_literals (env : Environment) (s : List Char) :
    joinValues env (s.map .literal) = .ok (.ofList s) := by
  induction s with
  | nil => rfl
  | cons c s ih =>
    have hc : joinValues env [.literal c] = .ok (.singleton c) := rfl
    rw [List.map_cons, ← List.singleton_append, joinValues_append_of_ok hc ih]
    congr 1
    apply String.toList_inj.1
    simp

theorem joinValues_cons_of_error {env : Environment} {p : Part} {fault : VariableFault}
    (h : p.value env = .error fault) (ps : List Part) : joinValues env (p :: ps) = .error fault := by
  rw [joinValues, List.mapM_cons, h]
  rfl

theorem joinValues_singleton {env : Environment} {p : Part} {s : String} (h : p.value env = .ok s) :
    joinValues env [p] = .ok s := by
  rw [joinValues, List.mapM_cons, h]
  show Except.ok (String.join [s]) = _
  simp

theorem joinValues_append_ok_iff {env : Environment} {ps qs : List Part} {r : String} :
    joinValues env (ps ++ qs) = .ok r ↔
      ∃ u, joinValues env ps = .ok u ∧ ∃ v, joinValues env qs = .ok v ∧ u ++ v = r := by
  rw [joinValues_append]
  simp only [Result.bind_ok_iff, Result.pure_ok_iff]

theorem joinValues_cons_ok_iff {env : Environment} {p : Part} {ps : List Part} {r : String} :
    joinValues env (p :: ps) = .ok r ↔
      ∃ u, p.value env = .ok u ∧ ∃ v, joinValues env ps = .ok v ∧ u ++ v = r := by
  have hp {u : String} : joinValues env [p] = .ok u ↔ p.value env = .ok u := by
    cases h : p.value env with
    | error fault => rw [joinValues_cons_of_error h]
    | ok w => rw [joinValues_singleton h]
  rw [← List.singleton_append, joinValues_append_ok_iff]
  simp only [hp]

theorem joinValues_literal_ok_iff {env : Environment} {c : Char} {ps : List Part} {r : String} :
    joinValues env (.literal c :: ps) = .ok r ↔ ∃ v, joinValues env ps = .ok v ∧ .singleton c ++ v = r := by
  rw [joinValues_cons_ok_iff]
  simp [Part.value]

end Template

theorem Environment.text_ok_iff {env : Environment} {name v : String} :
    env.text name = .ok v ↔ env.bytes? name = some (Text.encode v) := by
  constructor
  · intro h
    rw [text] at h
    cases hb : env.bytes? name with
    | none =>
      rw [hb] at h
      cases h
    | some b =>
      rw [hb] at h
      cases hv : Text.decode? b with
      | none => simp [hv] at h
      | some u =>
        simp only [hv, Except.ok.injEq] at h
        rw [← h, Text.encode_of_decode? hv]
  · intro h
    rw [text, h]
    simp

theorem Environment.text_of_unset {env : Environment} {name : String} (h : env.bytes? name = none) :
    env.text name = .error (.unset name) := by
  rw [text, h]

namespace Template

/-! ## Texts that are put together from pieces -/

/-- A piece that a text is put together from. -/
inductive Piece where
  | literal (s : String)
  /-- A reference between braces. -/
  | reference (name : String) (fallback? : Option String)
  deriving DecidableEq, Repr

namespace Piece

/-- A piece as it is written. -/
def written : Piece → String
  | literal s => s
  | reference name none => "$\x7b" ++ name ++ "\x7d"
  | reference name (some fallback) => "$\x7b" ++ name ++ ":-" ++ fallback ++ "\x7d"

/-- A piece as it can be told from its neighbours: no dollar sign is in a literal, a reference is to a name,
and its fallback does not hold the brace that ends it. -/
def Sound : Piece → Prop
  | literal s => '$' ∉ s.toList
  | reference name fallback? => IsVariableName name ∧ ∀ fallback ∈ fallback?, '\x7d' ∉ fallback.toList

instance : DecidablePred Sound
  | literal s => inferInstanceAs (Decidable ('$' ∉ s.toList))
  | reference name fallback? =>
    inferInstanceAs (Decidable (IsVariableName name ∧ ∀ fallback ∈ fallback?, '\x7d' ∉ fallback.toList))

/-- What a piece stands for. -/
inductive Stands (env : Environment) : Piece → String → Prop
  | literal (s : String) : Stands env (.literal s) s
  | set {name v : String} {fallback? : Option String} (value : env.bytes? name = some (Text.encode v)) :
      Stands env (.reference name fallback?) v
  | fallback {name fallback : String} (unset : env.bytes? name = none) :
      Stands env (.reference name (some fallback)) fallback

/-- The parts that a piece is read as. -/
def parts : Piece → List Part
  | literal s => s.toList.map .literal
  | reference name fallback? => [.braced name fallback?]

variable {env : Environment} {p : Piece} {text : String}

theorem exists_toList_written_eq (name : String) (fallback? : Option String) :
    ∃ rest, (written (.reference name fallback?)).toList = '$' :: '\x7b' :: rest := by
  cases fallback? with
  | none => exact ⟨name.toList ++ ['\x7d'], by simp [written]⟩
  | some fallback => exact ⟨name.toList ++ ':' :: '-' :: (fallback.toList ++ ['\x7d']), by simp [written]⟩

/-- A piece is read as it was written, whatever follows. -/
theorem parts_written_append (h : p.Sound) (rest : List Char) :
    Template.parts (p.written.toList ++ rest) = p.parts ++ Template.parts rest := by
  cases p with
  | literal s => exact parts_append_of_notMem h rest
  | reference name fallback? =>
    obtain ⟨hname, hfallback⟩ := h
    have hbrace := hname.notMem '\x7d' (by decide)
    cases fallback? with
    | none =>
      have hwritten : (written (.reference name none)).toList ++ rest =
          '$' :: '\x7b' :: (name.toList ++ '\x7d' :: rest) := by simp [written]
      rw [hwritten, parts_reference hbrace, reference_name hname]
      rfl
    | some fallback =>
      have hwritten : (written (.reference name (some fallback))).toList ++ rest =
          '$' :: '\x7b' :: ((name.toList ++ ':' :: '-' :: fallback.toList) ++ '\x7d' :: rest) := by
        simp [written]
      have hbody : '\x7d' ∉ name.toList ++ ':' :: '-' :: fallback.toList := by
        simp [hbrace, hfallback fallback rfl]
      rw [hwritten, parts_reference hbody, reference_fallback hname]
      rfl

theorem Stands.joinValues_eq (h : p.Stands env text) : joinValues env p.parts = .ok text := by
  cases h with
  | literal s => rw [parts, joinValues_literals, String.ofList_toList]
  | set hvalue =>
    have htext := Environment.text_ok_iff.2 hvalue
    exact joinValues_singleton (by simp only [Part.value, htext])
  | fallback hunset =>
    have htext := Environment.text_of_unset hunset
    exact joinValues_singleton (by simp only [Part.value, htext])

/-- A reference without a fallback to a variable that is unset stands for nothing. -/
theorem joinValues_of_unset {name : String} (h : env.bytes? name = none) :
    joinValues env (parts (.reference name none)) = .error (.unset name) := by
  have htext := Environment.text_of_unset h
  exact joinValues_cons_of_error (by simp only [Part.value, htext]) []

/-- With all variables unset or set to a text, a piece stands for something unless it has to have a value. -/
theorem exists_stands
    (hset : ∀ name fallback?, p = .reference name fallback? →
      env.bytes? name = none ∨ ∃ v, env.bytes? name = some (Text.encode v))
    (hvalue : ∀ name, p = .reference name none → env.bytes? name ≠ none) : ∃ text, p.Stands env text := by
  cases p with
  | literal s => exact ⟨s, .literal s⟩
  | reference name fallback? =>
    obtain hunset | ⟨v, hv⟩ := hset name fallback? rfl
    · cases fallback? with
      | none => exact absurd hunset (hvalue name rfl)
      | some fallback => exact ⟨fallback, .fallback hunset⟩
    · exact ⟨v, .set hv⟩

end Piece

variable {env : Environment} {pieces : List Piece} {texts : List String}

/-- The text that is put together from pieces. -/
def written (pieces : List Piece) : String := .join (pieces.map Piece.written)

theorem toList_written_cons (p : Piece) (pieces : List Piece) :
    (written (p :: pieces)).toList = p.written.toList ++ (written pieces).toList := by
  simp [written]

theorem parts_written (h : ∀ p ∈ pieces, p.Sound) :
    parts (written pieces).toList = pieces.flatMap Piece.parts := by
  induction pieces with
  | nil => simp [written]
  | cons p pieces ih =>
    obtain ⟨hp, hpieces⟩ := List.forall_mem_cons.1 h
    rw [toList_written_cons, Piece.parts_written_append hp, ih hpieces, List.flatMap_cons]

/-- A text that is put together refers, or it has no dollar sign at all. -/
theorem refers_or_notMem (h : ∀ p ∈ pieces, p.Sound) :
    Refers (written pieces) ∨ '$' ∉ (written pieces).toList := by
  induction pieces with
  | nil => exact .inr (by simp [written])
  | cons p pieces ih =>
    obtain ⟨hp, hpieces⟩ := List.forall_mem_cons.1 h
    rw [Refers, toList_written_cons]
    cases p with
    | literal s =>
      obtain hrefers | hno := ih hpieces
      · exact .inl (hrefers.trans (List.suffix_append _ _).isInfix)
      · exact .inr fun hmem => (List.mem_append.1 hmem).elim hp hno
    | reference name fallback? =>
      obtain ⟨rest, hrest⟩ := Piece.exists_toList_written_eq name fallback?
      rw [hrest]
      exact .inl (List.prefix_append ['$', '\x7b'] (rest ++ _)).isInfix

/-- Pieces are what a text that is put together from them expands to, one after the other. -/
theorem expand_written (h : ∀ p ∈ pieces, p.Sound) :
    expand env (written pieces) = joinValues env (pieces.flatMap Piece.parts) := by
  rw [← parts_written h]
  obtain hrefers | hno := refers_or_notMem h
  · exact expand_eq_joinValues env hrefers
  · have hplain : ¬ Refers (written pieces) := fun hrefers => hno (hrefers.subset (by simp))
    have hparts := parts_append_of_notMem hno []
    rw [List.append_nil] at hparts
    have hnil : parts [] = [] := by rw [parts]
    rw [expand_of_not_refers hplain, hparts, hnil, List.append_nil, joinValues_literals, String.ofList_toList]

theorem joinValues_of_stands (h : List.Forall₂ (Piece.Stands env) pieces texts) :
    joinValues env (pieces.flatMap Piece.parts) = .ok (.join texts) := by
  induction h with
  | nil => rfl
  | cons head _ ih =>
    rw [List.flatMap_cons, String.join_cons]
    exact joinValues_append_of_ok head.joinValues_eq ih

theorem exists_texts (hset : ∀ name fallback?, .reference name fallback? ∈ pieces →
      env.bytes? name = none ∨ ∃ v, env.bytes? name = some (Text.encode v))
    (hvalue : ∀ name, .reference name none ∈ pieces → env.bytes? name ≠ none) :
    ∃ texts, List.Forall₂ (Piece.Stands env) pieces texts := by
  induction pieces with
  | nil => exact ⟨[], .nil⟩
  | cons p pieces ih =>
    obtain ⟨text, htext⟩ : ∃ text, p.Stands env text := by
      refine Piece.exists_stands ?_ ?_
      · rintro name fallback? rfl
        exact hset name fallback? List.mem_cons_self
      · rintro name rfl
        exact hvalue name List.mem_cons_self
    obtain ⟨texts, htexts⟩ := ih (fun name fallback? h => hset name fallback? (List.mem_cons_of_mem p h))
      fun name h => hvalue name (List.mem_cons_of_mem p h)
    exact ⟨text :: texts, .cons htext htexts⟩

end Template

/-- What a field holds after its text was to be expanded: what the text stands for, or the text as it was if
that has failed. -/
def afterExpansion (env : Environment) (field : Field) (s : String) : String :=
  (expandField env field s).toOption.getD s

/-- **References are replaced from the left, once.**  Of a text that is put together from literals and
references, where each variable is unset or set to a text, every piece is replaced by what it stands for: a
literal by itself, a reference by the value of its variable or, where that is unset, by its fallback.  What is
put in is not read again.  If a reference without a fallback is to a variable that is unset, the first of these
is reported with the field, and the text stays. -/
theorem references_replaced_from_left (env : Environment) (field : Field) (pieces : List Template.Piece)
    (hsound : ∀ p ∈ pieces, p.Sound)
    (hset : ∀ name fallback?, .reference name fallback? ∈ pieces →
      env.bytes? name = none ∨ ∃ v, v ≠ "" ∧ env.bytes? name = some (Text.encode v)) :
    ((∀ name, .reference name none ∈ pieces → env.bytes? name ≠ none) →
      ∃ texts, List.Forall₂ (Template.Piece.Stands env) pieces texts ∧
        expandField env field (Template.written pieces) = .ok (.join texts)) ∧
    ∀ before name after, pieces = before ++ .reference name none :: after →
      (∀ n, .reference n none ∈ before → env.bytes? n ≠ none) → env.bytes? name = none →
        expandField env field (Template.written pieces) = .error ⟨field, .unset name⟩ ∧
        afterExpansion env field (Template.written pieces) = Template.written pieces := by
  have hset' : ∀ name fallback?, .reference name fallback? ∈ pieces →
      env.bytes? name = none ∨ ∃ v, env.bytes? name = some (Text.encode v) :=
    fun name fallback? h => (hset name fallback? h).imp_right fun ⟨v, _, hv⟩ => ⟨v, hv⟩
  constructor
  · intro hvalue
    obtain ⟨texts, htexts⟩ := Template.exists_texts hset' hvalue
    refine ⟨texts, htexts, ?_⟩
    rw [expandField, Template.expand_written hsound, Template.joinValues_of_stands htexts]
    rfl
  · rintro before name after rfl hvalue hunset
    obtain ⟨texts, htexts⟩ := Template.exists_texts
      (fun n fallback? h => hset' n fallback? (List.mem_append_left _ h)) hvalue
    have hfails : expandField env field (Template.written (before ++ .reference name none :: after)) =
        .error ⟨field, .unset name⟩ := by
      rw [expandField, Template.expand_written hsound, List.flatMap_append, List.flatMap_cons,
        Template.joinValues_append_of_error (Template.joinValues_of_stands htexts)
          (Template.joinValues_append_of_first_error (Template.Piece.joinValues_of_unset hunset))]
      rfl
    refine ⟨hfails, ?_⟩
    rw [afterExpansion, hfails]
    rfl

/-- A text between whose literals stand a reference with a value and one with a fallback. -/
def ferryPieces : List Template.Piece :=
  [.literal "a/", .reference "A" none, .literal "\x7d", .reference "B" (some "$A:-$\x7bA"), .literal "\x7bz"]

/-- References in a row of which the third and the fourth have no value. -/
def strandedPieces : List Template.Piece :=
  [.reference "A" none, .reference "B" (some ""), .reference "C" none, .reference "D" none]

/-- An environment in which a value looks like a reference. -/
def ferryEnvironment : Environment := [("A", Text.encode "$\x7bB\x7d")]

/-- What looks like a reference in a value or a fallback is put in as it is, and the first reference without a
value is the one that is reported. -/
theorem references_replaced_from_left_ferry :
    (∃ texts, List.Forall₂ (Template.Piece.Stands ferryEnvironment) ferryPieces texts ∧
      String.join texts = "a/$\x7bB\x7d\x7d$A:-$\x7bA\x7bz") ∧
    expandField ferryEnvironment .siteBase (Template.written strandedPieces) =
        .error ⟨.siteBase, .unset "C"⟩ ∧
      afterExpansion ferryEnvironment .siteBase (Template.written strandedPieces) =
        Template.written strandedPieces := by
  have hset : ∀ name ∈ ["A", "B", "C", "D"], ferryEnvironment.bytes? name = none ∨
      ∃ v, v ≠ "" ∧ ferryEnvironment.bytes? name = some (Text.encode v) := by
    intro name hname
    by_cases hA : name = "A"
    · exact .inr ⟨"$\x7bB\x7d", by decide, by rw [hA]; decide +kernel⟩
    · have hunset : ∀ name ∈ ["A", "B", "C", "D"], name ≠ "A" → ferryEnvironment.bytes? name = none := by
        decide +kernel
      exact .inl (hunset name hname hA)
  have hA : ferryEnvironment.bytes? "A" ≠ none := by decide +kernel
  constructor
  · obtain ⟨hvalue, -⟩ := references_replaced_from_left ferryEnvironment .siteBase ferryPieces
      (by decide +kernel) fun name fallback? h => by
        have hname : name = "A" ∧ fallback? = none ∨ name = "B" ∧ fallback? = some "$A:-$\x7bA" := by
          simpa [ferryPieces] using h
        obtain ⟨rfl, -⟩ | ⟨rfl, -⟩ := hname
        · exact hset "A" (by decide)
        · exact hset "B" (by decide)
    obtain ⟨texts, htexts, hexpand⟩ := hvalue fun name h => by
      obtain rfl : name = "A" := by simpa [ferryPieces] using h
      exact hA
    have hjoin : expandField ferryEnvironment .siteBase (Template.written ferryPieces) =
        .ok "a/$\x7bB\x7d\x7d$A:-$\x7bA\x7bz" := by decide +kernel
    exact ⟨texts, htexts, Except.ok.inj (hexpand.symm.trans hjoin)⟩
  · obtain ⟨-, hfails⟩ := references_replaced_from_left ferryEnvironment .siteBase strandedPieces
      (by decide +kernel) fun name fallback? h => by
        have hname : name = "A" ∧ fallback? = none ∨ name = "B" ∧ fallback? = some "" ∨
            name = "C" ∧ fallback? = none ∨ name = "D" ∧ fallback? = none := by
          simpa [strandedPieces] using h
        exact hset name (by obtain ⟨rfl, -⟩ | ⟨rfl, -⟩ | ⟨rfl, -⟩ | ⟨rfl, -⟩ := hname <;> decide)
    refine hfails [.reference "A" none, .reference "B" (some "")] "C" [.reference "D" none] rfl
      (fun name h => ?_) (by decide +kernel)
    obtain rfl : name = "A" := by simpa using h
    exact hA

end DocPortal
