import DocPortal.Environment
import DocPortal.Text.Word

/-!
# Texts with variable references

A text that has a dollar sign before an opening brace somewhere is a template. In a template a reference is a name
between braces, with or without a fallback, or a bare name of word characters; two dollar signs stand for one. All
other texts stand for themselves. What a reference stands for is not read again.
-/

namespace DocPortal
namespace Template

/-- A part of a template. -/
inductive Part where
  | literal (c : Char)
  /-- A reference between braces. The fallback serves for a variable that is unset or no text. -/
  | braced (name : String) (fallback : Option String)
  /-- A reference without braces. -/
  | bare (name : String)
  deriving DecidableEq, Repr

/-- Splits a reference at the first mark of a fallback. -/
def splitFallback : List Char → List Char × Option (List Char)
  | [] => ([], none)
  | ':' :: '-' :: rest => ([], some rest)
  | c :: rest => ((splitFallback rest).map (c :: ·) id)

/-- The reference that stands between braces. A fallback needs a name in front. -/
def reference (body : List Char) : Part :=
  match splitFallback body with
  | (c :: name, some fallback) => .braced (.ofList (c :: name)) (some (.ofList fallback))
  | _ => .braced (.ofList body) none

/-- The characters up to a closing brace and those after it, if there is one. -/
def splitBrace? : List Char → Option (List Char × List Char)
  | [] => none
  | c :: rest => if c = '\x7d' then some ([], rest) else (splitBrace? rest).map (·.map (c :: ·) id)

theorem length_of_splitBrace? {s body after : List Char} (h : splitBrace? s = some (body, after)) :
    after.length < s.length := by
  induction s generalizing body with
  | nil => simp [splitBrace?] at h
  | cons c rest ih =>
    simp only [splitBrace?] at h
    split at h
    · simp_all
    · obtain ⟨⟨b, a⟩, hb, he⟩ := Option.map_eq_some_iff.1 h
      simp only [Prod.map, id_eq, Prod.mk.injEq] at he
      have := ih (he.2 ▸ hb)
      simp only [List.length_cons]
      omega

/-- The word at the front of a text, and the rest. -/
def splitWord : List Char → List Char × List Char
  | [] => ([], [])
  | c :: rest => if Text.isWord c then (splitWord rest).map (c :: ·) id else ([], c :: rest)

theorem length_splitWord_le (s : List Char) : (splitWord s).2.length ≤ s.length := by
  induction s with
  | nil => simp [splitWord]
  | cons c rest ih =>
    simp only [splitWord]
    split
    · simpa using Nat.le_succ_of_le ih
    · simp

/-- The parts of a template, from left to right. A dollar sign that starts no reference is a literal. -/
def parts : List Char → List Part
  | [] => []
  | '$' :: '$' :: rest => .literal '$' :: parts rest
  | '$' :: '\x7b' :: rest =>
    match h : splitBrace? rest with
    | some (body, after) =>
      have := length_of_splitBrace? h
      reference body :: parts after
    | none => .literal '$' :: .literal '\x7b' :: parts rest
  | '$' :: c :: rest =>
    have := length_splitWord_le rest
    if Text.isWord c then .bare (.ofList (c :: (splitWord rest).1)) :: parts (splitWord rest).2
    else .literal '$' :: parts (c :: rest)
  | c :: rest => .literal c :: parts rest
termination_by s => s.length
decreasing_by all_goals simp only [List.length_cons]; omega

@[simp] theorem parts_nil : parts [] = [] := by rw [parts]

/-- What a part stands for. -/
def Part.value (env : Environment) : Part → Except VariableFault String
  | literal c => .ok (.singleton c)
  | bare name => env.text name
  | braced name fallback => match env.text name, fallback with
    | .ok s, _ => .ok s
    | .error _, some f => .ok f
    | .error fault, none => .error fault

/-- Whether a text is a template. -/
def isTemplate : List Char → Bool
  | '$' :: '\x7b' :: _ => true
  | _ :: rest => isTemplate rest
  | [] => false

/-- What a text stands for; the first reference that fails is reported. -/
def expand (env : Environment) (s : String) : Except VariableFault String :=
  if isTemplate s.toList then ((parts s.toList).mapM (Part.value env)).map String.join else .ok s

end Template
end DocPortal
