import DocPortal.Proofs.Substitution
import DocPortal.Proofs.Utf8
import Mathlib.Data.List.Chain

/-!
# The text around a reference

A text with a reference between braces is read as a template as a whole, so its other dollar signs are read
too: two in a row stand for one, and one before a letter, a digit or an underscore starts a reference of its
own. The text around a reference is kept in every environment exactly if it has no such dollar sign; a dollar
sign right before the reference makes two in a row.

## Main definitions

* `Template.Inert` — no dollar sign in a text starts anything.
* `Template.KeptOrLess` — a text has been kept, or it has lost dollar signs.
-/

namespace DocPortal
namespace Template

/-- No dollar sign stands before another one or before a character of a name. -/
def Inert (s : List Char) : Prop :=
  s.IsChain fun c d => c = '$' → d ≠ '$' ∧ Text.isWord d = false

instance (s : List Char) : Decidable (Inert s) :=
  inferInstanceAs (Decidable (s.IsChain _))

theorem Inert.cons_of_ne {c : Char} {s : List Char} (h : Inert s) (hc : c ≠ '$') : Inert (c :: s) :=
  List.isChain_cons.2 ⟨fun _ _ hdollar => absurd hdollar hc, h⟩

theorem Inert.cons_cons {c : Char} {s : List Char} (h : Inert (c :: s)) (hdollar : c ≠ '$')
    (hword : Text.isWord c = false) : Inert ('$' :: c :: s) :=
  List.isChain_cons_cons.2 ⟨fun _ => ⟨hdollar, hword⟩, h⟩

/-! ## Reading text without braces -/

/-- The dollar sign and the brace that start a reference. -/
abbrev opening : List Char := ['$', '\x7b']

theorem not_opening_of_cons {c : Char} {s : List Char} (h : ¬ opening <:+: c :: s) : ¬ opening <:+: s :=
  fun hs => h (List.infix_cons hs)

theorem ne_brace_of_not_opening {c : Char} {s : List Char} (h : ¬ opening <:+: '$' :: c :: s) : c ≠ '\x7b' := by
  rintro rfl
  exact h (List.prefix_append opening s).isInfix

/-- Text in which no dollar sign starts anything is read as it is, if none does with what follows either. -/
theorem parts_append_of_inert {s t : List Char} (h : Inert (s ++ t.take 1))
    (hopening : ¬ opening <:+: s ++ t.take 1) : parts (s ++ t) = s.map .literal ++ parts t := by
  induction s with
  | nil => rfl
  | cons c s ih =>
    have hs := ih (List.IsChain.tail h) (not_opening_of_cons hopening)
    rw [List.cons_append, List.map_cons, List.cons_append, ← hs]
    by_cases hc : c = '$'
    · subst hc
      cases hrest : s ++ t with
      | nil => rw [parts_nil, parts_end]
      | cons d rest =>
        obtain ⟨later, hlater⟩ : ∃ later, s ++ t.take 1 = d :: later := by
          cases s with
          | nil => exact ⟨[], by rw [List.nil_append] at hrest ⊢; rw [hrest]; rfl⟩
          | cons e s => exact ⟨s ++ t.take 1, by rw [(List.cons.inj hrest).1]; rfl⟩
        rw [List.cons_append, hlater] at h hopening
        obtain ⟨hdollar, hword⟩ := (List.isChain_cons_cons.1 h).1 rfl
        exact parts_lone hdollar (ne_brace_of_not_opening hopening) hword
    · exact parts_cons_of_ne hc

/-- What has come of a text: it is kept, and then something is so of it, or it has lost dollar signs. -/
def KeptOrLess (s : List Char) (u : String) (p : Prop) : Prop :=
  u.toList = s ∧ p ∨ u.toList.count '$' < s.count '$'

namespace KeptOrLess

variable {s s' : List Char} {u x : String} {p q : Prop}

theorem count_le (h : KeptOrLess s u p) : u.toList.count '$' ≤ s.count '$' :=
  h.elim (fun ⟨hu, _⟩ => hu ▸ le_rfl) Nat.le_of_lt

/-- A character that stands for itself is kept with the rest. -/
theorem literal (h : KeptOrLess s u p) (c : Char) (hpq : p → q) : KeptOrLess (c :: s) (.singleton c ++ u) q := by
  obtain ⟨hu, hp⟩ | hcount := h
  · exact .inl ⟨by simp [hu], hpq hp⟩
  · refine .inr ?_
    simp only [String.toList_append, String.toList_singleton, List.singleton_append, List.count_cons]
    omega

/-- What takes the place of more dollar signs than it has itself loses some. -/
theorem less (h : KeptOrLess s u p) (hcount : x.toList.count '$' + s.count '$' < s'.count '$') :
    KeptOrLess s' (x ++ u) q := by
  have hle := h.count_le
  refine .inr ?_
  rw [String.toList_append, List.count_append]
  omega

end KeptOrLess

/-- What a text without braces is read as, before the end or a dollar sign, by an environment whose values have
no dollar signs: the text is kept, or it has lost dollar signs. -/
theorem exists_of_joinValues_append {env : Environment} (henv : ∀ name u, env.text name = .ok u → '$' ∉ u.toList)
    {s t : List Char} (hs : ¬ opening <:+: s) (ht : ∀ c ∈ t.head?, c = '$') {r : String}
    (h : joinValues env (parts (s ++ t)) = .ok r) :
    ∃ u v t', joinValues env (parts t') = .ok v ∧ r = u ++ v ∧ (t' = t ∨ t = '$' :: t') ∧
      KeptOrLess s u (t' = t → Inert (s ++ t.take 1)) := by
  have hword : ∀ c ∈ t.head?, Text.isWord c = false := fun c hc => ht c hc ▸ isWord_dollar
  fun_induction parts s generalizing r with
  | case1 =>
    refine ⟨"", r, t, h, (String.empty_append).symm, .inl rfl, .inl ⟨rfl, fun _ => ?_⟩⟩
    cases t with
    | nil => exact .nil
    | cons c t => exact .singleton c
  | case2 rest ih =>
    rw [List.cons_append, List.cons_append, parts_dollars] at h
    obtain ⟨w, hw, rfl⟩ := joinValues_literal_ok_iff.1 h
    obtain ⟨u, v, t', hv, rfl, ht', hkept⟩ := ih (not_opening_of_cons (not_opening_of_cons hs)) hw
    refine ⟨.singleton '$' ++ u, v, t', hv, by rw [String.append_assoc], ht', hkept.less ?_⟩
    simp only [String.toList_singleton, List.count_cons_self, List.count_nil]
    omega
  | case3 rest => exact absurd rfl (ne_brace_of_not_opening hs)
  | case4 rest => exact absurd rfl (ne_brace_of_not_opening hs)
  | case5 c rest hdollar hbrace _ hc ih =>
    rw [List.cons_append, List.cons_append, parts_word hc, splitWord_append hword] at h
    obtain ⟨x, hx, w, hw, rfl⟩ := joinValues_cons_ok_iff.1 h
    have hsuffix := splitWord_isSuffix rest
    obtain ⟨u, v, t', hv, rfl, ht', hkept⟩ := ih
      (fun hrest => not_opening_of_cons (not_opening_of_cons hs) (hrest.trans hsuffix.isInfix)) hw
    refine ⟨x ++ u, v, t', hv, by rw [String.append_assoc], ht', hkept.less ?_⟩
    have hword := hsuffix.sublist.count_le '$'
    have hrest := (List.sublist_cons_self c rest).count_le '$'
    rw [List.count_eq_zero.2 (henv _ _ hx), List.count_cons_self]
    omega
  | case6 c rest hdollar hbrace _ hc ih =>
    rw [List.cons_append, List.cons_append, parts_lone hdollar hbrace (by simpa using hc)] at h
    obtain ⟨w, hw, rfl⟩ := joinValues_literal_ok_iff.1 h
    obtain ⟨u, v, t', hv, rfl, ht', hkept⟩ := ih (not_opening_of_cons hs) hw
    refine ⟨.singleton '$' ++ u, v, t', hv, by rw [String.append_assoc], ht', ?_⟩
    exact hkept.literal '$' fun hinert heq => (hinert heq).cons_cons hdollar (by simpa using hc)
  | case7 c rest hdollars hbraces hcons ih =>
    by_cases hc : c = '$'
    · subst hc
      obtain rfl : rest = [] := by
        cases rest with
        | nil => rfl
        | cons d rest => exact (hcons d rest rfl rfl).elim
      cases t with
      | nil =>
        rw [List.append_nil, parts_end] at h
        obtain ⟨w, hw, rfl⟩ := joinValues_literal_ok_iff.1 h
        exact ⟨.singleton '$', w, [], by rwa [parts_nil], rfl, .inl rfl, .inl ⟨by simp, fun _ => .singleton _⟩⟩
      | cons d t =>
        obtain rfl := ht d rfl
        rw [List.singleton_append, parts_dollars] at h
        obtain ⟨w, hw, rfl⟩ := joinValues_literal_ok_iff.1 h
        exact ⟨.singleton '$', w, t, hw, rfl, .inr rfl, .inl ⟨by simp, fun heq => by simp at heq⟩⟩
    · rw [List.cons_append, parts_cons_of_ne hc] at h
      obtain ⟨w, hw, rfl⟩ := joinValues_literal_ok_iff.1 h
      obtain ⟨u, v, t', hv, rfl, ht', hkept⟩ := ih (not_opening_of_cons hs) hw
      refine ⟨.singleton c ++ u, v, t', hv, by rw [String.append_assoc], ht', ?_⟩
      exact hkept.literal c fun hinert heq => (hinert heq).cons_of_ne hc

/-! ## One variable -/

end Template

namespace Environment

theorem bytes?_single {name : String} (h : Template.IsVariableName name) (b : Bytes) :
    bytes? [(name, b)] name = some b := by
  have hzero := h.notMem '\x00' (by decide)
  have hempty : name ≠ "" := by
    rintro rfl
    obtain ⟨c, rest, hname, -⟩ := h
    cases hname
  have hafter : after? (assignment name []) (assignment name b) = some b := by
    simp [after?, assignment]
  rw [bytes?, if_neg (not_or.2 ⟨hempty, hzero⟩), List.findSome?_singleton]
  exact hafter

/-- What is found is the end of an assignment. -/
theorem exists_suffix_of_bytes? {env : Environment} {name : String} {b : Bytes} (h : env.bytes? name = some b) :
    ∃ e ∈ env, b <:+ assignment e.1 e.2 := by
  rw [bytes?] at h
  split at h
  · cases h
  · obtain ⟨e, he, hafter⟩ := List.exists_of_findSome?_eq_some h
    refine ⟨e, he, ?_⟩
    simp only [after?] at hafter
    split at hafter
    · cases hafter
      exact List.drop_suffix _ _
    · cases hafter

/-- A mark that is in neither the name nor the value of a variable is in nothing that is found. -/
theorem notMem_of_text_single {name v : String} {mark : Char} (hmark : mark.toNat < 0x80) (heq : mark ≠ '=')
    (hname : mark ∉ name.toList) (hv : mark ∉ v.toList) {other u : String}
    (h : text [(name, Text.encode v)] other = .ok u) : mark ∉ u.toList := by
  obtain ⟨e, he, hsuffix⟩ := exists_suffix_of_bytes? (text_ok_iff.1 h)
  obtain rfl := List.mem_singleton.1 he
  intro hmem
  have hbyte := hsuffix.subset ((Text.mem_encode_iff hmark).2 hmem)
  rw [assignment, List.mem_append, List.mem_cons] at hbyte
  obtain hbyte | hbyte | hbyte := hbyte
  · exact hname ((Text.mem_encode_iff hmark).1 hbyte)
  · apply heq
    rw [← UInt8.toNat_inj, UInt8.toNat_ofNat'] at hbyte
    apply Char.toNat_inj.1
    have hsign : UInt8.toNat 0x3D = '='.toNat := rfl
    omega
  · exact hv ((Text.mem_encode_iff hmark).1 hbyte)

end Environment

namespace Template

/-- Text that does not end in a brace is not opened by a dollar sign at its end. -/
theorem not_opening_concat {s : List Char} (h : ¬ opening <:+: s) : ¬ opening <:+: s ++ ['$'] := by
  rw [List.infix_concat_iff]
  rintro (⟨start, hstart⟩ | hs)
  · have hlast := congrArg List.getLast? hstart
    simp [opening] at hlast
  · exact h hs

/-- The text after a reference that is expanded with no dollar signs in any value is kept, or it has lost dollar
signs. -/
theorem exists_of_joinValues_rest {env : Environment} (henv : ∀ name u, env.text name = .ok u → '$' ∉ u.toList)
    {s : List Char} (hs : ¬ opening <:+: s) {r : String} (h : joinValues env (parts s) = .ok r) :
    KeptOrLess s r (Inert s) := by
  rw [← List.append_nil s] at h
  obtain ⟨u, v, t', hv, rfl, ht', hkept⟩ := exists_of_joinValues_append henv hs (by simp) h
  obtain rfl : t' = [] := ht'.elim id nofun
  rw [parts_nil] at hv
  cases hv
  simpa [KeptOrLess] using hkept

section

variable {name before after : String}

theorem toList_surrounded (name before after : String) :
    (before ++ ("$\x7b" ++ name ++ "\x7d") ++ after).toList =
      before.toList ++ '$' :: '\x7b' :: (name.toList ++ '\x7d' :: after.toList) := by
  simp

theorem refers_surrounded (name before after : String) :
    Refers (before ++ ("$\x7b" ++ name ++ "\x7d") ++ after) := by
  rw [Refers, toList_surrounded]
  exact ⟨before.toList, name.toList ++ '\x7d' :: after.toList, by simp⟩

theorem parts_of_name (hname : IsVariableName name) (after : List Char) :
    parts ('$' :: '\x7b' :: (name.toList ++ '\x7d' :: after)) = .braced name none :: parts after := by
  rw [parts_reference (hname.notMem '\x7d' (by decide)), reference_name hname]

theorem expand_of_inert {env : Environment} {v : String} (hname : IsVariableName name)
    (hbefore : ¬ Refers before) (hafter : ¬ Refers after) (hinert : Inert (before.toList ++ ['$']))
    (hinert' : Inert after.toList) (hv : env.bytes? name = some (Text.encode v)) :
    expand env (before ++ ("$\x7b" ++ name ++ "\x7d") ++ after) = .ok (before ++ v ++ after) := by
  have hrest : parts after.toList = after.toList.map .literal := by
    have hparts := parts_append_of_inert (s := after.toList) (t := [])
    rw [List.take_nil, List.append_nil, parts_nil, List.append_nil] at hparts
    exact hparts hinert' hafter
  have hparts : parts (before ++ ("$\x7b" ++ name ++ "\x7d") ++ after).toList =
      before.toList.map .literal ++ ([.braced name none] ++ after.toList.map .literal) := by
    rw [toList_surrounded, parts_append_of_inert hinert (not_opening_concat hbefore), parts_of_name hname, hrest]
    rfl
  have hstands : Piece.Stands env (.reference name none) v := .set hv
  have hvalue : joinValues env [.braced name none] = .ok v := hstands.joinValues_eq
  rw [expand_eq_joinValues env (refers_surrounded name before after), hparts,
    joinValues_append_of_ok (joinValues_literals env _)
      (joinValues_append_of_ok hvalue (joinValues_literals env _)),
    String.ofList_toList, String.ofList_toList, String.append_assoc]

/-- A variable whose value has no dollar sign shows which of the others start something: these are lost. -/
theorem inert_of_expand (hname : IsVariableName name) (hbefore : ¬ Refers before) (hafter : ¬ Refers after)
    (h : expand [(name, Text.encode "x")] (before ++ ("$\x7b" ++ name ++ "\x7d") ++ after) =
      .ok (before ++ "x" ++ after)) :
    Inert (before.toList ++ ['$']) ∧ Inert after.toList := by
  have hset := Environment.bytes?_single hname (Text.encode "x")
  have henv (other u : String) (hu : Environment.text [(name, Text.encode "x")] other = .ok u) :
      '$' ∉ u.toList :=
    Environment.notMem_of_text_single (by decide) (by decide) (hname.notMem '$' (by decide)) (by decide) hu
  rw [expand_eq_joinValues _ (refers_surrounded name before after), toList_surrounded] at h
  obtain ⟨u, w, t', hw, heq, ht', hkept⟩ := exists_of_joinValues_append henv hbefore (by simp) h
  have hcount := congrArg (fun s : String => s.toList.count '$') heq
  have hdollar := hname.notMem '$' (by decide)
  have hu := hkept.count_le
  obtain rfl | htwo := ht'
  · rw [parts_of_name hname, joinValues_cons_ok_iff] at hw
    obtain ⟨x, hx, z, hz, rfl⟩ := hw
    obtain rfl : x = "x" := by
      simp only [Part.value, Environment.text_ok_iff.2 hset] at hx
      cases hx
      rfl
    have hlost := exists_of_joinValues_rest henv hafter hz
    have hz' := hlost.count_le
    have hsum : before.toList.count '$' + after.toList.count '$' = u.toList.count '$' + z.toList.count '$' := by
      simpa using hcount
    exact ⟨(hkept.resolve_right (by omega)).2 rfl, (hlost.resolve_right (by omega)).2⟩
  · -- The dollar sign of the reference went with the one before it, so the braces are still there.
    have hbraces : '$' ∉ '\x7b' :: (name.toList ++ ['\x7d']) := by
      simpa using hdollar
    have hrest : t' = ('\x7b' :: (name.toList ++ ['\x7d'])) ++ after.toList := by
      rw [← (List.cons.inj htwo).2]
      simp
    rw [hrest, parts_append_of_notMem hbraces, joinValues_append_ok_iff] at hw
    obtain ⟨y, hy, z, hz, rfl⟩ := hw
    rw [joinValues_literals] at hy
    cases hy
    have hz' := (exists_of_joinValues_rest henv hafter hz).count_le
    have hsum : before.toList.count '$' + after.toList.count '$' = u.toList.count '$' + z.toList.count '$' := by
      simpa [List.count_eq_zero.2 hdollar] using hcount
    have hkeep := (hkept.resolve_right (by omega)).1
    have hchars := congrArg String.toList heq
    simp [hkeep] at hchars

end

end Template

open Template in
/-- **The text around a reference is kept if its dollar signs start nothing.**  A text has a reference to a
variable between braces, and no dollar sign before a brace apart from that.  In every environment it expands to
the same text with the value of the variable for the reference exactly if no other dollar sign in it stands
before a dollar sign or before a character of a name.  Elsewhere such a dollar sign is a reference of its own,
or the first of two that stand for one. -/
theorem surroundings_kept_iff {name before after : String} (hname : IsVariableName name)
    (hbefore : ¬ Refers before) (hafter : ¬ Refers after) :
    (∀ env v field, v ≠ "" → env.bytes? name = some (Text.encode v) →
      expandField env field (before ++ ("$\x7b" ++ name ++ "\x7d") ++ after) = .ok (before ++ v ++ after)) ↔
    Inert (before.toList ++ ['$']) ∧ Inert after.toList := by
  constructor
  · intro h
    have hx := h [(name, Text.encode "x")] "x" .siteBase (by decide) (Environment.bytes?_single hname _)
    exact inert_of_expand hname hbefore hafter (Result.mapError_ok_iff.1 hx)
  · rintro ⟨hinert, hinert'⟩ env v field - hv
    exact Result.mapError_ok_iff.2 (expand_of_inert hname hbefore hafter hinert hinert' hv)

/-- Dollar signs before other marks are kept, one before a name is not. -/
theorem surroundings_kept_iff_price :
    (∀ field, expandField [("A", Text.encode "40")] field ("$-" ++ ("$\x7b" ++ "A" ++ "\x7d") ++ "/$.$") =
      .ok ("$-" ++ "40" ++ "/$.$")) ∧
    ¬ ∀ env v field, v ≠ "" → env.bytes? "A" = some (Text.encode v) →
      expandField env field ("$name/" ++ ("$\x7b" ++ "A" ++ "\x7d") ++ "") = .ok ("$name/" ++ v ++ "") := by
  constructor
  · intro field
    exact (surroundings_kept_iff (by decide) (by decide) (by decide)).2 (by decide +kernel) _ _ field (by decide)
      (by decide +kernel)
  · intro h
    have hinert := (surroundings_kept_iff (by decide) (by decide) (by decide)).1 h
    revert hinert
    decide +kernel

/-- A dollar sign before a name is a reference of its own. -/
theorem not_forall_surroundings_kept :
    ¬ ∀ (env : Environment) (field : Field) (name v before after : String), Template.IsVariableName name →
      v ≠ "" → env.bytes? name = some (Text.encode v) → ¬ Refers before → ¬ Refers after →
      expandField env field (before ++ ("$\x7b" ++ name ++ "\x7d") ++ after) = .ok (before ++ v ++ after) := by
  intro h
  have hname := h [("A", Text.encode "v")] .themeLogo "A" "v" "$name/" "" (by decide) (by decide)
    (by decide +kernel) (by decide) (by decide)
  revert hname
  decide +kernel

end DocPortal
