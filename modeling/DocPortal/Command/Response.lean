import DocPortal.Command.Outcome

/-!
# Responses of a program

What the user of a program sees of an outcome: an exit code and two texts. An error is told after all other
notices.
-/

namespace DocPortal

/-- What a program answers, and the tree that it leaves. -/
structure Response where
  code : Nat
  stdout : String
  stderr : String
  files : FileSystem

/-- The response to an outcome: zero for a success, one for a failure. -/
def Outcome.response (o : Outcome) (coloured : Bool) : Response :=
  match o.result with
  | .ok () => ⟨0, o.stdout, Notice.renderAll coloured o.notices, o.files⟩
  | .error e =>
    let told := o.notices ++ [.failure s!"Error: {e.message}"]
    ⟨1, o.stdout, Notice.renderAll coloured told, o.files⟩

end DocPortal
