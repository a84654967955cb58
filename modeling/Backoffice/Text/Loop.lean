import Backoffice.Text.Basic

/-!
# Loops over a text

A loop takes one step at a time off the front of a text, until a step says that it
is done, and collects what the steps yield. It recurses on a number that bounds the
steps; where every step reads a character, one more than the length of the text is
enough, and the loop never gets to the end of its fuel.
-/

namespace Backoffice.Text

/-- One step of a loop: it ends before `rest`, or yields an item. -/
inductive Step (α : Type) where
  | done (rest : Text)
  | item (a : α) (rest : Text)

/-- The items of a loop of at most `fuel` steps, and what follows it. A loop that
    is not done by then fails as `ended` says. -/
def collect {ε α : Type} (ended : ε) (step : Text → Except ε (Step α)) :
    (fuel : Nat) → Text → Except ε (List α × Text)
  | 0, _ => .error ended
  | fuel + 1, cs =>
    match step cs with
    | .error e => .error e
    | .ok (.done rest) => .ok ([], rest)
    | .ok (.item a rest) =>
      match collect ended step fuel rest with
      | .error e => .error e
      | .ok (as, rest) => .ok (a :: as, rest)

/-- The items of a loop that reads a character with every step. -/
def collectAll {ε α : Type} (ended : ε) (step : Text → Except ε (Step α)) (cs : Text) :
    Except ε (List α × Text) :=
  collect ended step (cs.length + 1) cs

end Backoffice.Text
