import DocPortal.Text.Utf8

/-!
# Options on a command line

The words of a command line are read from left to right. A word that starts with two dashes is a long option,
which may have its value after an equals sign; a word that starts with one dash is a cluster of short options, of
which the last may have its value attached. An option without an attached value takes the next word, unless that
starts with a dash. A word of two dashes makes all later words operands, and a lone dash is an operand. Reading
stops at the first word that is a fault or asks for help.
-/

namespace DocPortal
namespace Command

/-- What ends the reading of a command line early. -/
inductive Interruption where
  /-- The words are no command. -/
  | usage
  | help
  | version
  deriving DecidableEq, Repr

/-- The effect of a value on what has been read, unless the value is refused. -/
abbrev Setter (α : Type) := Bytes → α → Option α

/-- What an option does. -/
inductive Action (α : Type) where
  | flag (set : α → Option α)
  | value (set : Setter α)
  | interrupt (why : Interruption)

/-- An option. -/
structure OptionForm (α : Type) where
  long : String
  short : Option Char := none
  action : Action α

/-- The same action on the first half of a pair. -/
def Action.onFirst {α β : Type} : Action α → Action (α × β)
  | flag set => .flag fun (a, b) => (set a).map (·, b)
  | value set => .value fun v (a, b) => (set v a).map (·, b)
  | interrupt why => .interrupt why

/-- The same action on the second half of a pair. -/
def Action.onSecond {α β : Type} : Action β → Action (α × β)
  | flag set => .flag fun (a, b) => (set b).map (a, ·)
  | value set => .value fun v (a, b) => (set v b).map (a, ·)
  | interrupt why => .interrupt why

/-- The options that act on the two halves of a pair. -/
def pairForms {α β : Type} (first : List (OptionForm α)) (second : List (OptionForm β)) :
    List (OptionForm (α × β)) :=
  first.map (fun form => ⟨form.long, form.short, form.action.onFirst⟩)
    ++ second.map fun form => ⟨form.long, form.short, form.action.onSecond⟩

/-- The two dashes. -/
def dashes : Bytes := [0x2D, 0x2D]

/-- Whether a word is made of options or is the two dashes. -/
def isDashed : Bytes → Bool
  | 0x2D :: _ :: _ => true
  | _ => false

/-- What has been read, or why reading stops. -/
def accept {α : Type} : Option α → Except Interruption α
  | some a => .ok a
  | none => .error .usage

/-- What has been read up to some point, and the setter that waits for the next word, if one does. -/
structure Pending (α : Type) where
  state : α
  waiting : Option (Setter α) := none

variable {α : Type}

/-- Takes an option with the value that is attached to it, if one is. -/
def Action.take (action : Action α) (attached : Option Bytes) (a : α) : Except Interruption (Pending α) :=
  match action, attached with
  | .interrupt why, none => .error why
  | .flag set, none => (accept (set a)).map fun a => ⟨a, none⟩
  | .value set, some v => (accept (set v a)).map fun a => ⟨a, none⟩
  | .value set, none => .ok ⟨a, some set⟩
  | _, some _ => .error .usage

/-- Splits a word at its first equals sign. -/
def splitEquals (word : Bytes) : Bytes × Option Bytes :=
  let name := word.takeWhile (· ≠ 0x3D)
  (name, if name = word then none else some (word.drop (name.length + 1)))

/-- Takes a long option, given without its dashes. -/
def takeLong (forms : List (OptionForm α)) (word : Bytes) (a : α) : Except Interruption (Pending α) :=
  let (name, attached) := splitEquals word
  match forms.find? (fun form => Text.encode form.long = name) with
  | none => .error .usage
  | some form => form.action.take attached a

/-- The value attached to a short option; an equals sign in front does not belong to it. -/
def attachedValue : Bytes → Option Bytes
  | [] => none
  | 0x3D :: v => some v
  | v => some v

/-- Takes a cluster of short options, given without its dash. -/
def takeCluster (forms : List (OptionForm α)) : Bytes → α → Except Interruption (Pending α)
  | [], a => .ok ⟨a, none⟩
  | b :: rest, a =>
    match forms.find? (fun form => form.short.any (·.toNat = b.toNat)) with
    | none => .error .usage
    | some form => match form.action with
      | .value set => (Action.value set).take (attachedValue rest) a
      | action => do
        let p ← action.take none a
        takeCluster forms rest p.state

/-- Takes a word that starts with a dash. -/
def takeDashed (forms : List (OptionForm α)) (word : Bytes) (a : α) : Except Interruption (Pending α) :=
  match word with
  | 0x2D :: 0x2D :: name => takeLong forms name a
  | _ :: cluster => takeCluster forms cluster a
  | [] => .error .usage

/-- Reads all words of a command, of which the operands go to a setter of their own. -/
def readWords (forms : List (OptionForm α)) (operand : Setter α) :
    List Bytes → Pending α → Except Interruption α
  | [], ⟨a, none⟩ => .ok a
  | [], ⟨_, some _⟩ => .error .usage
  | word :: rest, ⟨a, some set⟩ =>
    if isDashed word then .error .usage
    else do
      let a ← accept (set word a)
      readWords forms operand rest ⟨a, none⟩
  | word :: rest, ⟨a, none⟩ =>
    if word = dashes then rest.foldlM (fun a w => accept (operand w a)) a
    else if isDashed word then do
      let p ← takeDashed forms word a
      readWords forms operand rest p
    else do
      let a ← accept (operand word a)
      readWords forms operand rest ⟨a, none⟩

end Command
end DocPortal
