import Backoffice.CommandLine.Grammar

/-!
# Reading a command line

Arguments are taken from left to right, place by place. An option or operand is only
*settled*, that is checked against what came before, when the next one begins or the
arguments end; until then it is pending. So the mistakes at an inner place come before
those pending further out.

After two dashes everything is an operand. A dash alone is a value like any other.

The environment may give a directory as well. It is looked at where a place is complete
and no option gives one there, and it must be a text then, even if an option at another
place overrides it.

* `CommandLine.Inherited`: what the environment gives;
* `CommandLine.read`: the invocation that arguments stand for.
-/

namespace Backoffice.CommandLine

/-- What the environment gives for the directory of the settings. -/
inductive Inherited where
  | nothing
  | directory (d : Text)
  | noText
  deriving DecidableEq, Repr

namespace Inherited

/-- What is given by a text, or by none. -/
def ofText? : Option Text → Inherited
  | some d => directory d
  | none => nothing

/-- A text, or none, is taken for what the environment gives. -/
instance : Coe (Option Text) Inherited :=
  ⟨ofText?⟩

/-- The directory that is given. -/
def text? : Inherited → Option Text
  | directory d => some d
  | _ => none

@[simp]
theorem text?_ofText? (d : Option Text) : (ofText? d).text? = d := by
  cases d <;> rfl

@[simp]
theorem ofText?_ne_noText (d : Option Text) : ofText? d ≠ noText := by
  cases d <;> exact nofun

end Inherited

/-- What has been taken but not settled. -/
inductive Pending where
  | switch (s : Switch) (value : Option Text)
  | operand (value : Text)
  deriving DecidableEq, Repr

/-- What has been taken at a place. -/
structure Scan where
  /-- The options that are settled, with their values. -/
  given : List (Switch × Text)
  /-- The operands that are settled, in order. -/
  operands : List Text
  /-- What is not settled yet. -/
  pending : Option Pending
  deriving DecidableEq, Repr

namespace Scan

/-- Nothing has been taken. -/
def empty : Scan :=
  ⟨[], [], none⟩

/-- The value of an option that is settled. -/
def value? (s : Scan) (switch : Switch) : Option Text :=
  s.given.findSome? fun g => if g.1 = switch then some g.2 else none

/-- Whether an option is settled. -/
def has (s : Scan) (switch : Switch) : Bool :=
  (s.value? switch).isSome

/-- Whether the value of an option comes next. -/
def awaited? (s : Scan) : Option Switch :=
  match s.pending with
  | some (.switch switch none) => some switch
  | _ => none

/-- The number of operands that have been taken. -/
def taken (s : Scan) : Nat :=
  match s.pending with
  | some (.operand _) => s.operands.length + 1
  | _ => s.operands.length

/-- An option with its value, which must not be there already. -/
def give (s : Scan) (switch : Switch) (value : Text) : Except Refusal Scan :=
  if s.has switch then .error .repeated
  else .ok { s with given := s.given ++ [(switch, value)] }

/-- Settles what is pending. -/
def settle (p : Place) (s : Scan) : Except Refusal Scan :=
  let settled := { s with pending := none }
  match s.pending with
  | none => .ok settled
  | some (.switch _ none) => .error .missingValue
  | some (.switch switch (some value)) => settled.give switch value
  | some (.operand value) =>
    if p.accepts s.operands.length value then
      .ok { settled with operands := s.operands ++ [value] }
    else .error .badOperand

/-- Settles what is pending where a place is complete. -/
def complete (inherited : Inherited) (p : Place) (s : Scan) : Except Refusal Scan :=
  match s.settle p with
  | .error r => .error r
  | .ok s =>
    if inherited = .noText ∧ !s.has .configDir then .error .badOperand else .ok s

/-- Takes an option that has no value. Help and the version end everything. -/
def flag (p : Place) (s : Scan) (switch : Switch) : Except Refusal Scan :=
  match s.settle p with
  | .error r => .error r
  | .ok s =>
    match switch with
    | .help => .error .help
    | .version => .error .version
    | _ => s.give switch []

/-- Takes an option by its long name, with the value that is attached to it. -/
def long (p : Place) (s : Scan) (name : Text) (attached : Option Text) : Except Refusal Scan :=
  match p.long? name with
  | none => .error .unknownArgument
  | some switch =>
    if switch.takesValue then
      match s.settle p, attached with
      | .error r, _ => .error r
      | .ok s, some value => s.give switch value
      | .ok s, none => .ok { s with pending := some (.switch switch none) }
    else if attached.isSome then .error .needlessValue
    else s.flag p switch

/-- Takes options by their short names. -/
def shorts (p : Place) (s : Scan) : Text → Except Refusal Scan
  | [] => .ok s
  | c :: cs =>
    match p.short? c with
    | none => .error .unknownArgument
    | some switch =>
      match s.flag p switch with
      | .error r => .error r
      | .ok s => shorts p s cs

/-- Takes an operand, if there is one more at the place. -/
def operand (p : Place) (s : Scan) (trailing : Bool) (value : Text) : Except Refusal Scan :=
  if s.taken < p.operands then
    match s.settle p with
    | .error r => .error r
    | .ok s => .ok { s with pending := some (.operand value) }
  else if p.isLeaf then .error .unknownArgument
  else if trailing && ((p.next? value).isSome || value = Place.helpWord) then
    .error .unknownArgument
  else .error .unknownCommand

/-- Takes an argument that is not a word leading on. -/
def argument (p : Place) (s : Scan) (a : Text) : Except Refusal Scan :=
  match a with
  | '-' :: '-' :: name =>
    let attached :=
      match name.dropWhile (· ≠ '=') with
      | [] => none
      | _ :: value => some value
    s.long p (name.takeWhile (· ≠ '=')) attached
  | '-' :: c :: cs => s.shorts p (c :: cs)
  | _ =>
    match s.awaited? with
    | some switch => .ok { s with pending := some (.switch switch (some a)) }
    | none => s.operand p false a

/-- The command of a leaf, if the operands are all there. -/
def command? (p : Place) (s : Scan) : Option Command :=
  match p, s.operands with
  | .snake, [input] => some (.snake input)
  | .normalize, [path] => some (.normalize path)
  | .coerce, [value] => some (.coerce value ((s.value? .fallback).getD []))
  | .dateFormat, [value] => some (.formatDate value)
  | .dateParse, [value] => some (.parseDate value)
  | .env, [name] => some (.env name)
  | .errorsList, [] => some (.listErrors (s.has .json))
  | .errorsShow, [code] => some (.showError code (s.has .json))
  | .uploadCheck, [fileName, size] =>
    match Numeral.size? size with
    | .ok n => some (.checkUpload fileName n)
    | .error _ => none
  | .configShow, [] => some .showSettings
  | .configSet, [key, value] => some (.setSetting key value)
  | _, _ => none

/-- The invocation when the arguments end at a place. A directory that the
    environment gives counts as something given. -/
def finish (inherited : Inherited) (p : Place) (s : Scan) : Except Refusal Invocation :=
  match s.complete inherited p with
  | .error r => .error r
  | .ok s =>
    if p.isLeaf then
      match s.command? p with
      | some command => .ok ⟨s.has .verbose, s.value? .configDir, command⟩
      | none => .error .missingOperand
    else if s.given.isEmpty && inherited = .nothing then .error .nothingGiven
    else .error .missingCommand

/-- The invocation of an inner place, with the options of an outer one. -/
def surround (inherited : Inherited) (p : Place) (s : Scan) (inner : Invocation) :
    Except Refusal Invocation :=
  match s.complete inherited p with
  | .error r => .error r
  | .ok s =>
    .ok { inner with
      verbose := inner.verbose || s.has .verbose
      directory := inner.directory <|> s.value? .configDir }

end Scan

/-- What asking for help about words comes to: the words must lead somewhere. -/
def helpAbout (p : Place) : List Text → Refusal
  | [] => .help
  | w :: ws =>
    match p.next? w with
    | some q => helpAbout q ws
    | none =>
      if w = Place.helpWord ∧ !p.isLeaf ∧ ws.isEmpty then .help else .unknownCommand

/-- Takes the arguments one by one at a place. -/
def scan (inherited : Inherited) (p : Place) (s : Scan) (trailing : Bool) :
    List Text → Except Refusal Invocation
  | [] => s.finish inherited p
  | a :: rest =>
    if trailing then
      match s.operand p true a with
      | .error r => .error r
      | .ok s => scan inherited p s true rest
    else
      match (if s.awaited?.isSome then none else p.next? a) with
      | some q =>
        match scan inherited q .empty false rest with
        | .error r => .error r
        | .ok inner => s.surround inherited p inner
      | none =>
        if s.awaited?.isNone ∧ !p.isLeaf ∧ a = Place.helpWord then .error (helpAbout p rest)
        else if a = ("--" : Text) then scan inherited p s true rest
        else
          match s.argument p a with
          | .error r => .error r
          | .ok s => scan inherited p s false rest

/-- The invocation that arguments stand for. An option overrides the directory that the
    environment gives. -/
def read (inherited : Inherited) (arguments : List Text) : Except Refusal Invocation :=
  (scan inherited .root .empty false arguments).map fun i =>
    { i with directory := i.directory <|> inherited.text? }

end Backoffice.CommandLine
