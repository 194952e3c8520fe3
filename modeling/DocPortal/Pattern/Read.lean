import DocPortal.Pattern.Basic
import DocPortal.Text.Blank
import DocPortal.Text.Digit
import DocPortal.Text.Word

/-!
# The notation of patterns

Patterns are written in the usual notation: brackets for sets, parentheses for groups, bars for choices, a question
mark, an asterisk or a plus sign for repetitions, and a backslash for escapes. Such a pattern stands in braces where
the program reads one, so it has no closing brace, and what would need one cannot be completed: a repetition with
counts, or a number in braces.
-/

namespace DocPortal
namespace Pattern

/-- A text without the blanks and comments at its front; a comment goes from a number sign to the end of the
line. -/
def dropBlanks : (comment : Bool) → List Char → List Char
  | _, [] => []
  | true, c :: rest => dropBlanks (c ≠ '\n') rest
  | false, c :: rest =>
    if c = '#' then dropBlanks true rest
    else if Text.isBlank c then dropBlanks false rest
    else c :: rest

/-- A text without what counts for nothing at its front. -/
def skip (spaced : Bool) (s : List Char) : List Char := if spaced then dropBlanks false s else s

/-! ## Escapes -/

/-- The number that exactly `n` digits in base sixteen spell, and what follows. -/
def readHex (spaced : Bool) : (n : Nat) → (digits : List Char) → List Char → Option (Nat × List Char)
  | 0, digits, s => some (Text.ofDigits 16 digits, s)
  | n + 1, digits, s => match skip spaced s with
    | [] => none
    | c :: rest => if Text.isDigitIn 16 c then readHex spaced n (digits ++ [c]) rest else none

/-- The character with a number of exactly `n` digits. -/
def readCode (spaced : Bool) (n : Nat) (asByte : Bool) (s : List Char) : Option (Leaf × List Char) :=
  (readHex spaced n [] s).bind fun (code, rest) =>
    if code.isValidChar then some (.character (.ofNat code) asByte, rest) else none

/-- The characters of the control escapes. -/
def controlEscapes : List (Char × Char) :=
  [('a', '\x07'), ('f', '\x0c'), ('t', '\t'), ('n', '\n'), ('r', '\r'), ('v', '\x0b')]

/-- What an escape stands for, from the character after the backslash on. A character that is no letter and no
digit stands for itself. -/
def readEscape (spaced : Bool) : List Char → Option (Leaf × List Char)
  | [] => none
  | 'x' :: rest => readCode spaced 2 true rest
  | 'u' :: rest => readCode spaced 4 false rest
  | 'U' :: rest => readCode spaced 8 false rest
  | c :: rest =>
    if c ∈ ['d', 's', 'w'] then some (.shorthand false, rest)
    else if c ∈ ['D', 'S', 'W'] then some (.shorthand true, rest)
    else if c ∈ ['A', 'z'] then some (.anchor, rest)
    else if c ∈ ['b', 'B', '<', '>'] then some (.boundary, rest)
    else match controlEscapes.lookup c with
      | some control => some (.character control false, rest)
      | none => if c.toNat < 0x80 && !c.isAlphanum then some (.character c false, rest) else none

/-! ## Sets -/

/-- The names of the classes of ASCII characters. -/
def classNames : List String :=
  ["alnum", "alpha", "ascii", "blank", "cntrl", "digit", "graph", "lower", "print", "punct", "space", "upper",
    "word", "xdigit"]

/-- The class of ASCII characters between colons, from the character after the bracket on. -/
def readNamed? : List Char → Option (SetPart × List Char)
  | ':' :: s =>
    let negated := s.head? = some '^'
    let s := if negated then s.drop 1 else s
    match s.dropWhile (· ≠ ':') with
    | ':' :: ']' :: rest =>
      if .ofList (s.takeWhile (· ≠ ':')) ∈ classNames then some (.named negated, rest) else none
    | _ => none
  | _ => none

/-- One character of a set, or an escape. -/
def readMember (spaced : Bool) : List Char → Option (Leaf × List Char)
  | [] => none
  | '\\' :: rest => readEscape spaced rest
  | c :: rest => some (.character c false, rest)

/-- A leaf as a part of a set. Places are no parts. -/
def Leaf.setPart? : Leaf → Option SetPart
  | character c _ => some (.range c c)
  | shorthand negated => some (.shorthand negated)
  | _ => none

/-- One part of a set: a range, or what stands alone. A hyphen before the closing bracket or before another hyphen
makes no range. -/
def readPart (spaced : Bool) (s : List Char) : Option (SetPart × List Char) := do
  let (first, rest) ← readMember spaced s
  match skip spaced rest with
  | '-' :: after =>
    let next := skip spaced after
    if next.head? = some ']' ∨ next.head? = some '-' then return (← first.setPart?, '-' :: after)
    else match first, ← readMember spaced next with
      | .character c _, (.character d _, rest) => if c ≤ d then some (.range c d, rest) else none
      | _, _ => none
  | rest => return (← first.setPart?, rest)

/-- Takes hyphens off the front. -/
def takeHyphens (spaced : Bool) : (n : Nat) → List Char → List CharSet × List Char
  | n + 1, '-' :: rest =>
    let (hyphens, rest) := takeHyphens spaced n (skip spaced rest)
    (.part (.range '-' '-') :: hyphens, rest)
  | _, s => ([], s)

/-- The front of a set, from the character after the bracket on: whether its complement is meant, and the hyphens
or the closing bracket that stand for themselves. -/
def openSet (spaced : Bool) (s : List Char) : Bool × List CharSet × List Char :=
  let s := skip spaced s
  let negated := s.head? = some '^'
  let s := if negated then skip spaced (s.drop 1) else s
  match takeHyphens spaced s.length s with
  | ([], ']' :: rest) => (negated, [.part (.range ']' ']')], rest)
  | (hyphens, rest) => (negated, hyphens, rest)

/-- The set that is made of some members, after an operation if there is one. -/
def joinSets (left? : Option CharSet) (members : List CharSet) : CharSet :=
  match left? with
  | none => .ofList members
  | some left => .operation left (.ofList members)

/-- The rest of a set up to its closing bracket, in at most `n` steps, after what stands left of the last operation
and the members since. Two ampersands, hyphens or tildes make an operation. -/
def readSet (spaced : Bool) :
    (n : Nat) → (left? : Option CharSet) → (members : List CharSet) → List Char → Option (CharSet × List Char)
  | 0, _, _, _ => none
  | n + 1, left?, members, s => match skip spaced s with
    | [] => none
    | ']' :: rest => some (joinSets left? members, rest)
    | '&' :: '&' :: rest => readSet spaced n (some (joinSets left? members)) [] rest
    | '-' :: '-' :: rest => readSet spaced n (some (joinSets left? members)) [] rest
    | '~' :: '~' :: rest => readSet spaced n (some (joinSets left? members)) [] rest
    | '[' :: rest => match readNamed? rest with
      | some (named, rest) => readSet spaced n left? (members ++ [.part named]) rest
      | none => do
        let (negated, front, rest) := openSet spaced rest
        let (inner, rest) ← readSet spaced n none front rest
        readSet spaced n left? (members ++ [.bracket negated inner]) rest
    | s => do
      let (part, rest) ← readPart spaced s
      readSet spaced n left? (members ++ [.part part]) rest

/-! ## Groups -/

/-- The letters of the flags, and the hyphen in front of those that are put out. -/
def flagLetters : List Char := ['i', 'm', 's', 'U', 'u', 'R', 'x', '-']

/-- What flags change. None stands twice, and the hyphen is not the last. -/
def Change.ofFlags? (flags : List Char) : Option Change :=
  let state (letter : Char) : Option Bool :=
    if letter ∈ flags.takeWhile (· ≠ '-') then some true else if letter ∈ flags then some false else none
  if flags.all (· ∈ flagLetters) ∧ flags.Nodup ∧ flags.getLast? ≠ some '-' then
    some ⟨state 'x', state 'i', state 'u'⟩
  else none

/-- Whether a text may be the name of a group. -/
def isName : List Char → Bool
  | [] => false
  | c :: rest => (c = '_' || Text.isAlphabetic c) && rest.all fun c => Text.isWord c || c ∈ ['.', '[', ']']

/-- What an opening parenthesis starts. -/
inductive Opener where
  | flags (change : Change)
  | group (change : Change) (name? : Option String)

/-- The name of a group up to the angle bracket that closes it. -/
def readName (s : List Char) : Option (Opener × List Char) :=
  let name := s.takeWhile (· ≠ '>')
  match s.dropWhile (· ≠ '>') with
  | [] => none
  | _ :: rest => if isName name then some (.group {} (some (.ofList name)), rest) else none

/-- What stands after an opening parenthesis: the name of a group, flags, or nothing of its own. -/
def readOpener (spaced : Bool) (s : List Char) : Option (Opener × List Char) :=
  match skip spaced s with
  | '?' :: 'P' :: '<' :: rest => readName rest
  | '?' :: '<' :: rest => readName rest
  | '?' :: rest => do
    let flags := rest.takeWhile fun c => c ≠ ':' ∧ c ≠ ')'
    let change ← Change.ofFlags? flags
    match rest.drop flags.length with
    | ':' :: rest => some (.group change none, rest)
    | ')' :: rest => if flags = [] then none else some (.flags change, rest)
    | _ => none
  | rest => some (.group {} none, rest)

/-! ## Patterns -/

/-- The leaf at the front. -/
def readLeaf (spaced : Bool) : List Char → Option (Leaf × List Char)
  | [] => none
  | '\\' :: rest => readEscape spaced rest
  | '.' :: rest => some (.any, rest)
  | '^' :: rest => some (.anchor, rest)
  | '$' :: rest => some (.anchor, rest)
  | '\x7b' :: _ => none
  | c :: rest => some (.character c false, rest)

/-- Repeats the last of some patterns, which are given from the last to the first. Flags cannot be repeated. -/
def repeatLast : List Pattern → Option (List Pattern)
  | [] => none
  | flags _ :: _ => none
  | p :: before => some (repeated p :: before)

/-- The pattern that is made of the finished alternatives and the patterns of the last one, from the last to the
first. -/
def joinPatterns (finished before : List Pattern) : Pattern :=
  if finished = [] then ofList before.reverse else choice (finished ++ [ofList before.reverse])

/-- A pattern up to the parenthesis that closes its group or to the end, in at most `n` steps. -/
def readPattern : (n : Nat) → (spaced : Bool) → (finished before : List Pattern) → List Char →
    Option (Pattern × List Char)
  | 0, _, _, _, _ => none
  | n + 1, spaced, finished, before, s => match skip spaced s with
    | [] => some (joinPatterns finished before, [])
    | ')' :: rest => some (joinPatterns finished before, ')' :: rest)
    | '|' :: rest => readPattern n spaced (finished ++ [ofList before.reverse]) [] rest
    | '(' :: rest => do
      match ← readOpener spaced rest with
      | (.flags change, rest) =>
        readPattern n (change.spaced?.getD spaced) finished (flags change :: before) rest
      | (.group change name?, rest) =>
        match ← readPattern n (change.spaced?.getD spaced) [] [] rest with
        | (body, ')' :: rest) => readPattern n spaced finished (group change name? body :: before) rest
        | _ => none
    | '[' :: rest => do
      let (negated, front, rest) := openSet spaced rest
      let (inner, rest) ← readSet spaced n none front rest
      readPattern n spaced finished (leaf (.set negated inner) :: before) rest
    | c :: rest =>
      if c ∈ ['?', '*', '+'] then do
        let before ← repeatLast before
        readPattern n spaced finished before (if rest.head? = some '?' then rest.drop 1 else rest)
      else do
        let (l, rest) ← readLeaf spaced (c :: rest)
        readPattern n spaced finished (leaf l :: before) rest

/-- The pattern that a text spells. -/
def read? (s : List Char) : Option Pattern :=
  match readPattern (s.length + 1) false [] [] s with
  | some (p, []) => some p
  | _ => none

end Pattern
end DocPortal
