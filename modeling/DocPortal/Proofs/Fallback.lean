import DocPortal.Proofs.Substitution

/-!
# Values, fallbacks and faults

What a reference stands for is decided by its variable alone. One that is set to a text, be it empty, gives that
text with or without a fallback. One that is unset gives the fallback, or a fault where there is none. One that is
set to bytes that are no text is a fault of its own where there is no fallback; where there is one, that is what
it gives, as if the variable were unset.
-/

namespace DocPortal

theorem Environment.text_of_notText {env : Environment} {name : String} {b : Bytes}
    (h : env.bytes? name = some b) (hb : Text.decode? b = none) : env.text name = .error (.notText name) := by
  rw [text, h]
  simp only [hb]

namespace Template

variable {env : Environment} {name fallback v before after : String} {fallback? : Option String}
  {fault : VariableFault}

/-! ## What a reference stands for -/

/-- A variable that is a text gives it, whether or not there is a fallback. -/
theorem Part.value_of_text (h : env.text name = .ok v) :
    Part.value env (.braced name fallback?) = .ok v := by
  simp only [Part.value, h]

/-- Of a variable that is no text only the fallback counts. -/
theorem Part.value_fallback (h : env.text name = .error fault) :
    Part.value env (.braced name (some fallback)) = .ok fallback := by
  simp only [Part.value, h]

theorem Part.value_error (h : env.text name = .error fault) :
    Part.value env (.braced name none) = .error fault := by
  simp only [Part.value, h]

/-- Between literals a reference is replaced by what it stands for, or its fault is that of the whole text. -/
theorem expand_between (env : Environment) (name : String) (fallback? : Option String)
    (hsound : (Piece.reference name fallback?).Sound) (hbefore : '$' ∉ before.toList) (hafter : '$' ∉ after.toList) :
    expand env (before ++ Piece.written (.reference name fallback?) ++ after) =
      (Part.value env (.braced name fallback?)).map fun s => before ++ s ++ after := by
  have hpieces : ∀ p ∈ [Piece.literal before, .reference name fallback?, .literal after], p.Sound := by
    simpa [hsound] using ⟨hbefore, hafter⟩
  have hwritten : written [.literal before, .reference name fallback?, .literal after] =
      before ++ Piece.written (.reference name fallback?) ++ after := by
    simp [written, Piece.written, String.append_assoc]
  have hbeforeValue : joinValues env (Piece.parts (.literal before)) = .ok before :=
    (Piece.Stands.literal before).joinValues_eq
  have hafterValue : joinValues env (Piece.parts (.literal after)) = .ok after :=
    (Piece.Stands.literal after).joinValues_eq
  rw [← hwritten, expand_written hpieces, List.flatMap_cons, List.flatMap_cons, List.flatMap_singleton]
  cases hvalue : Part.value env (.braced name fallback?) with
  | error fault =>
    have hfails := joinValues_cons_of_error hvalue (Piece.parts (.literal after))
    exact joinValues_append_of_error hbeforeValue hfails
  | ok s =>
    have hreference : joinValues env (Piece.parts (.reference name fallback?)) = .ok s := joinValues_singleton hvalue
    rw [joinValues_append_of_ok hbeforeValue (joinValues_append_of_ok hreference hafterValue),
      ← String.append_assoc]
    rfl

end Template

open Template in
/-- **A variable decides between value, fallback and fault.**  Between literals stands a reference to a variable,
without a fallback or with one.  If the variable is set to a text, which may be empty, both forms give that text.
If it is unset, the fallback is given, and without one the message says that it is not set.  If it is set to bytes
that are no text, the fallback is given all the same, and without one the message says that they are not UTF-8. -/
theorem value_fallback_or_fault (env : Environment) (field : Field) (name fallback before after : String)
    (hname : IsVariableName name) (hfallback : '\x7d' ∉ fallback.toList) (hbefore : '$' ∉ before.toList)
    (hafter : '$' ∉ after.toList) :
    (∀ v, env.bytes? name = some (Text.encode v) →
      expandField env field (before ++ ("$\x7b" ++ name ++ "\x7d") ++ after) = .ok (before ++ v ++ after) ∧
      expandField env field (before ++ ("$\x7b" ++ name ++ ":-" ++ fallback ++ "\x7d") ++ after) =
        .ok (before ++ v ++ after)) ∧
    (env.bytes? name = none →
      expandField env field (before ++ ("$\x7b" ++ name ++ ":-" ++ fallback ++ "\x7d") ++ after) =
        .ok (before ++ fallback ++ after) ∧
      expandField env field (before ++ ("$\x7b" ++ name ++ "\x7d") ++ after) = .error ⟨field, .unset name⟩ ∧
      (VariableFault.unset name).message = "$\x7b" ++ name ++ "\x7d not set") ∧
    ∀ b, env.bytes? name = some b → Text.decode? b = none →
      expandField env field (before ++ ("$\x7b" ++ name ++ ":-" ++ fallback ++ "\x7d") ++ after) =
        .ok (before ++ fallback ++ after) ∧
      expandField env field (before ++ ("$\x7b" ++ name ++ "\x7d") ++ after) = .error ⟨field, .notText name⟩ ∧
      (VariableFault.notText name).message = "$\x7b" ++ name ++ "\x7d is not valid UTF-8" := by
  have hplain : expand env (before ++ ("$\x7b" ++ name ++ "\x7d") ++ after) =
      (Part.value env (.braced name none)).map fun s => before ++ s ++ after :=
    expand_between env name none ⟨hname, nofun⟩ hbefore hafter
  have hbacked : expand env (before ++ ("$\x7b" ++ name ++ ":-" ++ fallback ++ "\x7d") ++ after) =
      (Part.value env (.braced name (some fallback))).map fun s => before ++ s ++ after :=
    expand_between env name (some fallback) ⟨hname, fun f hf => Option.some.inj hf ▸ hfallback⟩ hbefore hafter
  simp only [expandField, hplain, hbacked]
  refine ⟨fun v hv => ?_, fun hunset => ?_, fun b hb hdecode => ?_⟩
  · have htext := Environment.text_ok_iff.2 hv
    rw [Part.value_of_text htext, Part.value_of_text htext]
    exact ⟨rfl, rfl⟩
  · have htext := Environment.text_of_unset hunset
    rw [Part.value_fallback htext, Part.value_error htext]
    exact ⟨rfl, rfl, rfl⟩
  · have htext := Environment.text_of_notText hb hdecode
    rw [Part.value_fallback htext, Part.value_error htext]
    exact ⟨rfl, rfl, rfl⟩

/-- An environment with a variable that is empty and one that is no text. -/
def quayEnvironment : Environment := [("EMPTY", []), ("NOISE", [0x66, 0xFF])]

/-- A variable that is empty, one that is unset and one that is no text. -/
theorem value_fallback_or_fault_quay :
    expandField quayEnvironment .themeLogo ("a/" ++ ("$\x7b" ++ "EMPTY" ++ ":-" ++ "dock" ++ "\x7d") ++ ".svg") =
        .ok ("a/" ++ "" ++ ".svg") ∧
      expandField quayEnvironment .themeLogo ("a/" ++ ("$\x7b" ++ "UNSET" ++ ":-" ++ "dock" ++ "\x7d") ++ ".svg") =
        .ok ("a/" ++ "dock" ++ ".svg") ∧
      expandField quayEnvironment .themeLogo ("a/" ++ ("$\x7b" ++ "NOISE" ++ ":-" ++ "dock" ++ "\x7d") ++ ".svg") =
        .ok ("a/" ++ "dock" ++ ".svg") ∧
      expandField quayEnvironment .themeLogo ("a/" ++ ("$\x7b" ++ "NOISE" ++ "\x7d") ++ ".svg") =
        .error ⟨.themeLogo, .notText "NOISE"⟩ := by
  have hstates (name : String) (hname : Template.IsVariableName name) :=
    value_fallback_or_fault quayEnvironment .themeLogo name "dock" "a/" ".svg" hname (by decide) (by decide)
      (by decide)
  obtain ⟨hempty, -, -⟩ := hstates "EMPTY" (by decide)
  obtain ⟨-, hunset, -⟩ := hstates "UNSET" (by decide)
  obtain ⟨-, -, hnoise⟩ := hstates "NOISE" (by decide)
  obtain ⟨-, hbacked⟩ := hempty "" (by decide +kernel)
  obtain ⟨hfallback, -⟩ := hunset (by decide +kernel)
  obtain ⟨hhidden, hfault, -⟩ := hnoise [0x66, 0xFF] (by decide +kernel) (by decide +kernel)
  exact ⟨hbacked, hfallback, hhidden, hfault⟩

/-- A fallback hides that a variable is no text. -/
theorem not_forall_fault_of_notText :
    ¬ ∀ (env : Environment) (field : Field) (name fallback before after : String) (b : Bytes),
      Template.IsVariableName name → '\x7d' ∉ fallback.toList → '$' ∉ before.toList → '$' ∉ after.toList →
      env.bytes? name = some b → Text.decode? b = none →
      expandField env field (before ++ ("$\x7b" ++ name ++ ":-" ++ fallback ++ "\x7d") ++ after) =
        .error ⟨field, .notText name⟩ := by
  intro h
  have hnoise := h quayEnvironment .themeLogo "NOISE" "dock" "" "" [0x66, 0xFF] (by decide) (by decide) (by decide)
    (by decide) (by decide +kernel) (by decide +kernel)
  revert hnoise
  decide +kernel

end DocPortal
