import Backoffice.Failure
import Backoffice.Log

/-!
# Acts

An act goes on, one step after the other, until it is done or a step fails. On the way
it reports and prints. A step that fails is the last one, but what was printed before
it stays printed.

* `Act.print`, `Act.orFail`: a step that prints a line, and one that may fail;
* `Act.PrintsLast`: an act that prints nothing when it fails.
-/

namespace Backoffice

/-- How something ended, and what was printed and reported on the way. -/
structure Act (α : Type) where
  ending : Except Failure α
  printed : Text
  reports : List Text

namespace Act

variable {ε α β : Type}

/-- An act that is done at once. -/
def done (a : α) : Act α :=
  ⟨.ok a, [], []⟩

/-- An act that goes on after another one, unless that fails. -/
def andThen (x : Act α) (f : α → Act β) : Act β :=
  match x.ending with
  | .ok a => ⟨(f a).ending, x.printed ++ (f a).printed, x.reports ++ (f a).reports⟩
  | .error e => ⟨.error e, x.printed, x.reports⟩

instance : Monad Act where
  pure := done
  bind := andThen

/-- What is only reported about is an act that cannot fail. -/
def ofLogged (x : Logged α) : Act α :=
  ⟨.ok x.value, [], x.reports⟩

instance : MonadLift Logged Act :=
  ⟨ofLogged⟩

/-- A step that fails. -/
def fail (e : Failure) : Act α :=
  ⟨.error e, [], []⟩

/-- A step that fails where there is a fault. -/
def orFail (failure : ε → Failure) (r : Except ε α) : Act α :=
  match r with
  | .ok a => done a
  | .error fault => fail (failure fault)

/-- Prints texts as they are. -/
def put (t : Text) : Act Unit :=
  ⟨.ok (), t, []⟩

/-- Prints a text on a line of its own. -/
def print (t : Text) : Act Unit :=
  put (t ++ "\n")

/-! ### Acts that print nothing when they fail -/

/-- If the act fails, it has printed nothing. -/
def PrintsLast (x : Act α) : Prop :=
  ∀ e, x.ending = .error e → x.printed = []

/-- A step that prints nothing may come before. -/
theorem PrintsLast.bind {x : Act α} {f : α → Act β} (hx : x.printed = [])
    (hf : ∀ a, (f a).PrintsLast) : (x >>= f).PrintsLast := by
  intro e he
  change (x.andThen f).ending = .error e at he
  change (x.andThen f).printed = []
  cases h : x.ending with
  | error fault => simp [andThen, h, hx]
  | ok a =>
    simp only [andThen, h] at he ⊢
    rw [hx, hf a e he, List.append_nil]

end Act

end Backoffice
