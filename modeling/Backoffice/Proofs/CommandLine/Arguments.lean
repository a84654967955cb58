import Backoffice.CommandLine.Scan
import Backoffice.Proofs.Text.Numeral

/-!
# Arguments that say a command

Every command can be asked for: its words lead to its place, its options are taken there one by
one, and behind two dashes its operands are taken as they are, whether they look like options, like
words or like two dashes. A flag before the words holds for whatever command follows. All this holds
unless the environment gives something for a directory that is no text.

* `scan_follow`, `scan_separator`, `scan_operands`: what becomes of words, dashes and operands,
  whatever follows them;
* `read_arguments`: the arguments of a command are read as this command.
-/

namespace Backoffice

namespace CommandLine

variable {inherited : Inherited} {p q : Place} {s : Scan} {w v : Text}
  {ws vs rest taken : List Text} {given : List (Switch × Text)}

/-- Where a text or nothing is inherited, a place is complete when all is settled. -/
theorem complete_eq (hi : inherited ≠ .noText) (p : Place) (s : Scan) :
    s.complete inherited p = s.settle p := by
  rw [Scan.complete]
  cases s.settle p with
  | error r => rfl
  | ok s => exact if_neg fun h => hi h.1

/-! ### Words -/

/-- The place that words lead to one after the other. -/
def Place.follow? (p : Place) : (words : List Text) → Option Place
  | [] => some p
  | w :: ws => (p.next? w).bind fun q => q.follow? ws

/-- What was taken at an outer place is added to the invocation of the inner one. -/
theorem scan_word (ha : s.awaited? = none) (hw : p.next? w = some q) :
    scan inherited p s false (w :: rest) =
      (scan inherited q .empty false rest).bind (s.surround inherited p) := by
  rw [scan]
  simp only [ha, hw, Option.isSome_none, Bool.false_eq_true, if_false]
  cases scan inherited q .empty false rest <;> rfl

theorem surround_empty (hi : inherited ≠ .noText) (p : Place) (i : Invocation) :
    Scan.empty.surround inherited p i = .ok i := by
  simp [Scan.surround, complete_eq hi, Scan.settle, Scan.empty, Scan.has, Scan.value?]

/-- Words lead on, and nothing is taken on the way. -/
theorem scan_follow (hi : inherited ≠ .noText) (h : p.follow? ws = some q) :
    scan inherited p .empty false (ws ++ rest) = scan inherited q .empty false rest := by
  induction ws generalizing p with
  | nil =>
    cases h
    rfl
  | cons w ws ih =>
    obtain ⟨p', hw, h⟩ := Option.bind_eq_some_iff.1 h
    rw [List.cons_append, scan_word rfl hw, ih h]
    cases scan inherited q .empty false rest with
    | error r => rfl
    | ok i => exact surround_empty hi p i

/-! ### Options -/

/-- No word leads on from a place where a command ends. -/
theorem next?_of_isLeaf (h : p.isLeaf = true) (w : Text) : p.next? w = none := by
  rw [Place.next?, List.isEmpty_iff.1 h]
  rfl

/-- An argument that is not two dashes is taken. -/
theorem scan_argument {a : Text} {after : Scan} (hl : p.isLeaf = true) (ha : s.awaited? = none)
    (hne : a ≠ ("--" : Text)) (h : s.argument p a = .ok after) :
    scan inherited p s false (a :: rest) = scan inherited p after false rest := by
  rw [scan]
  simp only [ha, next?_of_isLeaf hl, hl, hne, h, Option.isSome_none, Bool.false_eq_true, if_false,
    Bool.not_true, false_and, and_false]

/-- Two dashes make operands of what follows. -/
theorem scan_separator (hl : p.isLeaf = true) :
    scan inherited p s false (("--" : Text) :: rest) = scan inherited p s true rest := by
  rw [scan]
  simp [next?_of_isLeaf hl, hl]

/-! ### Operands -/

/-- An operand is pending until the next one. -/
theorem scan_operand (ht : taken.length < p.operands) :
    scan inherited p ⟨given, taken, none⟩ true (v :: rest) =
      scan inherited p ⟨given, taken, some (.operand v)⟩ true rest := by
  rw [scan]
  simp [Scan.operand, Scan.taken, Scan.settle, ht]

/-- A pending operand that fits the place is as good as settled. -/
theorem scan_pending (ha : p.accepts taken.length v = true) :
    scan inherited p ⟨given, taken, some (.operand v)⟩ true rest =
      scan inherited p ⟨given, taken ++ [v], none⟩ true rest := by
  have hs : Scan.settle p ⟨given, taken, some (.operand v)⟩ =
      Scan.settle p ⟨given, taken ++ [v], none⟩ := by simp [Scan.settle, ha]
  cases rest with
  | nil => rw [scan, scan, Scan.finish, Scan.finish, Scan.complete, Scan.complete, hs]
  | cons a rest => simp [scan, Scan.operand, Scan.taken, hs]

/-- Operands that fit the place are taken in order. -/
theorem scan_operands (hl : (taken ++ vs).length ≤ p.operands)
    (ha : ∀ i v, (taken ++ vs)[i]? = some v → p.accepts i v = true) :
    scan inherited p ⟨given, taken, none⟩ true vs =
      Scan.finish inherited p ⟨given, taken ++ vs, none⟩ := by
  -- Each operand is settled by the next one, or by the end; until then it is pending.
  induction vs generalizing taken with
  | nil => rw [scan, List.append_nil]
  | cons v vs ih =>
    have hv : p.accepts taken.length v = true := ha _ _ (by simp)
    rw [List.append_cons] at hl ha
    rw [scan_operand (by simp at hl; omega), scan_pending hv, ih hl ha, ← List.append_cons]

end CommandLine

namespace Command

open CommandLine

variable {inherited : Inherited} {rest : List Text}

/-- The place that the words of a command lead to. -/
def place : Command → Place
  | snake _ => .snake
  | normalize _ => .normalize
  | coerce .. => .coerce
  | formatDate _ => .dateFormat
  | parseDate _ => .dateParse
  | env _ => .env
  | listErrors _ => .errorsList
  | showError .. => .errorsShow
  | checkUpload .. => .uploadCheck
  | showSettings => .configShow
  | setSetting .. => .configSet

/-- The options of a command with their values. -/
def given : Command → List (Switch × Text)
  | coerce _ fallback => [(.fallback, fallback)]
  | listErrors json | showError _ json => if json then [(.json, [])] else []
  | _ => []

/-- The words of a command lead from the root to its place. -/
theorem exists_words_eq (c : Command) : ∃ w ws q,
    c.words = w :: ws ∧ Place.root.next? w = some q ∧ q.follow? ws = some c.place := by
  cases c <;> exact ⟨_, _, _, rfl, rfl, rfl⟩

theorem isLeaf_place (c : Command) : c.place.isLeaf = true := by
  cases c <;> rfl

/-- At its place the options of a command are taken. -/
theorem scan_options (c : Command) : scan inherited c.place .empty false (c.options ++ rest) =
    scan inherited c.place ⟨c.given, [], none⟩ false rest := by
  cases c with
  | coerce value fallback => exact scan_argument rfl rfl (by simp) rfl
  | listErrors json =>
    cases json with
    | false => rfl
    | true => exact scan_argument rfl rfl (by decide) rfl
  | showError code json =>
    cases json with
    | false => rfl
    | true => exact scan_argument rfl rfl (by decide) rfl
  | _ => rfl

theorem length_operands_le (c : Command) : c.operands.length ≤ c.place.operands := by
  cases c <;> exact Nat.le_refl _

theorem accepts_operands (c : Command) (i : Nat) (v : Text) (h : c.operands[i]? = some v) :
    c.place.accepts i v = true := by
  cases c with
  | checkUpload fileName size =>
    match i, h with
    | 0, _ => rfl
    | 1, h =>
      obtain rfl : Numeral.ofSize size = v := Option.some.inj h
      rw [place, Place.accepts, Numeral.size?_ofSize]
      rfl
  | _ => rfl

/-- With its options and operands at its place, a command is the one that was asked for. -/
theorem command?_eq (c : Command) :
    Scan.command? c.place ⟨c.given, c.operands, none⟩ = some c := by
  cases c with
  | checkUpload fileName size => simp [Scan.command?, place, operands, Numeral.size?_ofSize]
  | listErrors json => cases json <;> rfl
  | showError code json => cases json <;> rfl
  | _ => rfl

/-- No option of a single command is one of all commands. -/
theorem finish_eq (hi : inherited ≠ .noText) (c : Command) :
    Scan.finish inherited c.place ⟨c.given, c.operands, none⟩ = .ok ⟨false, none, c⟩ := by
  have hnone : Scan.has ⟨c.given, c.operands, none⟩ .verbose = false ∧
      Scan.value? ⟨c.given, c.operands, none⟩ .configDir = none := by
    cases c with
    | listErrors json => cases json <;> exact ⟨rfl, rfl⟩
    | showError code json => cases json <;> exact ⟨rfl, rfl⟩
    | _ => exact ⟨rfl, rfl⟩
  simp [Scan.finish, complete_eq hi, Scan.settle, isLeaf_place, command?_eq, hnone]

/-- At its place a command is read from its options and operands. -/
theorem scan_place (hi : inherited ≠ .noText) (c : Command) :
    scan inherited c.place .empty false
      (c.options ++ if c.operands.isEmpty then [] else ("--" : Text) :: c.operands) =
      .ok ⟨false, none, c⟩ := by
  rw [scan_options]
  split_ifs with h
  · rw [scan, ← finish_eq hi c, List.isEmpty_iff.1 h]
  · have hrun : scan inherited c.place ⟨c.given, [], none⟩ true c.operands =
        Scan.finish inherited c.place ⟨c.given, c.operands, none⟩ :=
      scan_operands c.length_operands_le c.accepts_operands
    rw [scan_separator c.isLeaf_place, hrun, finish_eq hi]

/-- The arguments of a command are read as this command, and behind the flag for it as the same
    command with every report shown. The directory of the settings is that of the environment. -/
theorem read_arguments (c : Command) (inherited : Option Text) :
    CommandLine.read inherited c.arguments = .ok ⟨false, inherited, c⟩ ∧
      CommandLine.read inherited (("--verbose" : Text) :: c.arguments) =
        .ok ⟨true, inherited, c⟩ := by
  obtain ⟨w, ws, q, hwords, hw, hws⟩ := c.exists_words_eq
  have hi : (inherited : Inherited) ≠ .noText := Inherited.ofText?_ne_noText inherited
  have hinner : ∀ s : Scan, s.awaited? = none → scan inherited .root s false c.arguments =
      s.surround inherited .root ⟨false, none, c⟩ := fun s hs => by
    rw [arguments, hwords, List.append_assoc, List.cons_append, scan_word hs hw, scan_follow hi hws,
      scan_place hi]
    rfl
  constructor
  · rw [CommandLine.read, hinner .empty rfl, surround_empty hi]
    simp [Except.map]
  · have hflag : scan inherited .root .empty false (("--verbose" : Text) :: c.arguments) =
        scan inherited .root ⟨[(.verbose, [])], [], none⟩ false c.arguments := rfl
    rw [CommandLine.read, hflag, hinner _ rfl, Scan.surround, complete_eq hi]
    simp [Scan.settle, Scan.has, Scan.value?, Except.map]

example : (setSetting "--" "--verbose").arguments = ["config", "set", "--", "--", "--verbose"] :=
  rfl

end Command

end Backoffice
