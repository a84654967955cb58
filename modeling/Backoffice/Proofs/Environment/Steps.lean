import Backoffice.Proofs.Files.Store
import Backoffice.Proofs.Settings.Placeholder

/-!
# Variables that are set and unset

Variables are set to octets and unset, one step after the other. Of the steps on one variable the
last one counts, or what the variable had before; a required variable that has no octets then, or
none at all, or octets that are no text, is missing.

A name with an equals sign is not one of a variable, but a look-up of it can find something: what
goes on, after one more equals sign, of the octets of the variable before the first sign.

* `latest?`: what some steps leave a variable with (`octets?_applyAll`);
* `lookup?_of_isName`, `lookup?_of_splits`: what a look-up finds;
* `finds_iff`: what is required is what was set last, unless a name with an equals sign finds
  something.
-/

namespace Backoffice.Environment

variable {env : Environment} {v : Text} {b : ByteArray}

/-! ### Steps -/

/-- One step: a variable is set to octets, those of a text or any other, or it is unset. -/
inductive Step where
  | set (name : Text) (value : ByteArray)
  | unset (name : Text)

/-- The variable of a step. -/
def Step.name : Step → Text
  | set name _ | unset name => name

/-- What a step leaves its variable with. -/
def Step.value? : Step → Option ByteArray
  | set _ value => some value
  | unset _ => none

/-- The environment after a step. -/
def apply (env : Environment) : Step → Environment
  | .set name value => env.set name value
  | .unset name => env.unset name

/-- The environment after some steps. -/
def applyAll (env : Environment) (steps : List Step) : Environment :=
  steps.foldl apply env

/-- What the last of some steps on a variable leaves it with, or what it had if there is none. -/
def latest? (env : Environment) (steps : List Step) (name : Text) : Option ByteArray :=
  match (steps.filter fun s => s.name = name).getLast? with
  | some s => s.value?
  | none => env.octets? name

theorem octets?_unset (env : Environment) (n name : Text) :
    (env.unset n).octets? name = if n = name then none else env.octets? name := by
  rw [Environment.unset, octets?]
  split_ifs with h
  · subst h
    simp
  · exact findSome?_filter_ne (Ne.symm h)

/-- A step leaves its variable with its value, and every other one with what it had. -/
theorem octets?_apply (env : Environment) (s : Step) (name : Text) :
    (env.apply s).octets? name = if s.name = name then s.value? else env.octets? name := by
  cases s with
  | set n value =>
    by_cases h : n = name
    · simp [apply, Environment.set, octets?, Step.name, Step.value?, h]
    · rw [apply, Environment.set, octets?, List.findSome?_cons, if_neg h]
      exact (octets?_unset env n name).trans (by simp [Step.name, h])
  | unset n => exact octets?_unset env n name

theorem latest?_append_singleton (env : Environment) (steps : List Step) (s : Step) (name : Text) :
    env.latest? (steps ++ [s]) name = if s.name = name then s.value? else env.latest? steps name := by
  rw [latest?, latest?, List.filter_append, List.getLast?_append]
  by_cases h : s.name = name <;> simp [h]

/-- Some steps leave a variable with what the last of them on it does. -/
theorem octets?_applyAll (env : Environment) (steps : List Step) (name : Text) :
    (env.applyAll steps).octets? name = env.latest? steps name := by
  induction steps using List.reverseRecOn with
  | nil => rfl
  | append_singleton steps s ih =>
    rw [applyAll, List.foldl_concat, octets?_apply, latest?_append_singleton]
    exact if_congr Iff.rfl rfl ih

/-! ### Looking up -/

variable {name before rest : Text}

/-- The name is one that a variable can have. -/
structure IsName (name : Text) : Prop where
  ne_nil : name ≠ []
  no_equals : '=' ∉ name
  no_nul : '\x00' ∉ name

/-- The name goes on behind its first equals sign, and has no NUL. -/
structure Splits (name before rest : Text) : Prop where
  eq : name = before ++ '=' :: rest
  no_equals : '=' ∉ before
  no_nul : '\x00' ∉ name

/-- A name without an equals sign is found as it is. -/
theorem lookup?_of_isName (h : IsName name) (env : Environment) :
    env.lookup? name = env.octets? name := by
  have hd : name.dropWhile (· ≠ '=') = [] :=
    List.dropWhile_eq_nil_iff.2 fun c hc => by
      simpa using fun he : c = '=' => h.no_equals (he ▸ hc)
  rw [lookup?, if_neg (by simp [h.ne_nil, h.no_nul]), hd]

theorem octetsAfter?_eq_some_iff {beginning rest : ByteArray} :
    octetsAfter? beginning b = some rest ↔ b = beginning ++ rest := by
  rw [octetsAfter?]
  constructor
  · intro h
    split_ifs at h with hb
    have hbegins : b.extract 0 beginning.size = beginning := ByteArray.ext hb
    have hsize : beginning.size ≤ b.size := by
      have hs := congrArg ByteArray.size hbegins
      rw [ByteArray.size_extract] at hs
      omega
    calc b = b.extract 0 b.size := ByteArray.extract_zero_size.symm
      _ = b.extract 0 beginning.size ++ b.extract beginning.size b.size :=
        ByteArray.extract_eq_extract_append_extract _ (Nat.zero_le _) hsize
      _ = beginning ++ rest := by rw [hbegins, Option.some.inj h]
  · rintro rfl
    rw [if_pos (by rw [ByteArray.extract_append_eq_left rfl]),
      ByteArray.extract_append_eq_right rfl ByteArray.size_append]

/-- A name with an equals sign finds what goes on after it in a variable. -/
theorem lookup?_of_splits (h : Splits name before rest) :
    env.lookup? name = some b ↔
      env.octets? before = some (Text.toOctets (rest ++ "=") ++ b) := by
  have hne : ∀ c ∈ before, decide (c ≠ '=') = true := fun c hc => by
    simpa using fun he : c = '=' => h.no_equals (he ▸ hc)
  have hname := h.eq
  have hd : name.dropWhile (· ≠ '=') = '=' :: rest := by
    rw [hname, List.dropWhile_append_of_pos hne]
    rfl
  have ht : name.takeWhile (· ≠ '=') = before := by
    rw [hname, List.takeWhile_append_of_pos hne]
    simp
  have hnil : name ≠ [] := by simp [hname]
  rw [lookup?, if_neg (by simp [hnil, h.no_nul]), hd]
  simp only [ht, Option.bind_eq_some_iff, octetsAfter?_eq_some_iff]
  simp

/-- Every other name is empty or has a NUL, and finds nothing. -/
theorem lookup?_eq_none (hn : ¬ IsName name) (hs : ∀ before rest, ¬ Splits name before rest)
    (env : Environment) : env.lookup? name = none := by
  refine if_pos ?_
  by_contra hbad
  obtain ⟨hnil, hnul⟩ : name ≠ [] ∧ '\x00' ∉ name := by simpa [not_or] using hbad
  by_cases heq : '=' ∈ name
  · obtain ⟨before, rest, hname, hb⟩ := List.eq_append_cons_of_mem heq
    exact hs before rest ⟨hname, hb, hnul⟩
  · exact hn ⟨hnil, heq, hnul⟩

/-! ### What is required -/

theorem text?_eq_some_iff :
    env.text? name = some v ↔ v ≠ [] ∧ env.lookup? name = some (Text.toOctets v) := by
  have hbind : (env.lookup? name).bind Text.ofOctets? = some v ↔
      env.lookup? name = some (Text.toOctets v) := by
    rw [Option.bind_eq_some_iff]
    constructor
    · rintro ⟨b, hb, hv⟩
      rw [hb, Text.toOctets_of_ofOctets? hv]
    · exact fun h => ⟨_, h, Text.ofOctets?_toOctets v⟩
  rw [← hbind, text?]
  split
  · next c cs h =>
    rw [h, iff_and_self]
    intro hv
    rw [← Option.some.inj hv]
    exact List.cons_ne_nil c cs
  · next h =>
    constructor
    · intro hv
      cases hv
    · rintro ⟨hne, hv⟩
      obtain ⟨c, cs, rfl⟩ := List.exists_cons_of_ne_nil hne
      exact absurd hv (h c cs)

/-- A name with an equals sign finds what goes on as the name does and has more to it. -/
theorem text?_of_splits (h : Splits name before rest) : env.text? name = some v ↔
    v ≠ [] ∧ env.octets? before = some (Text.toOctets (rest ++ '=' :: v)) := by
  have happ : Text.toOctets (rest ++ '=' :: v) = Text.toOctets (rest ++ "=") ++ Text.toOctets v := by
    rw [Text.toOctets_eq, Text.toOctets_eq, Text.toOctets_eq, ← List.utf8Encode_append,
      List.append_assoc]
    rfl
  rw [text?_eq_some_iff, lookup?_of_splits h, happ]

/-- What is required is found, or missing. -/
theorem value_require (env : Environment) (name : Text) : (env.require name).value =
    match env.text? name with
    | some v => .ok v
    | none => .error .missingEnvVar := by
  rw [require]
  cases env.text? name <;> rfl

/-- The texts that are found under a name are all that it can be required for, and without one it
    is missing. -/
structure Finds (env : Environment) (name : Text) (found : Text → Prop) : Prop where
  ok : ∀ v, (env.require name).value = .ok v ↔ found v
  missing : (∀ v, ¬ found v) → (env.require name).value = .error .missingEnvVar

theorem finds_iff_text? {found : Text → Prop} :
    env.Finds name found ↔ ∀ v, env.text? name = some v ↔ found v := by
  have hok : ∀ v, (env.require name).value = .ok v ↔ env.text? name = some v := fun v => by
    rw [value_require]
    cases env.text? name <;> simp
  refine ⟨fun h v => (hok v).symm.trans (h.ok v), fun h => ⟨fun v => (hok v).trans (h v), ?_⟩⟩
  intro hnot
  have hnone : env.text? name = none :=
    Option.eq_none_iff_forall_ne_some.2 fun v hv => hnot v ((h v).1 hv)
  rw [value_require, hnone]

/-- The name is one of a variable, and the last of some steps on it, or else what it had before,
    set it to a text that is not empty. -/
structure LastSet (env : Environment) (steps : List Step) (name v : Text) : Prop where
  isName : IsName name
  ne_nil : v ≠ []
  latest : env.latest? steps name = some (Text.toOctets v)

/-- The name has an equals sign, and the variable before the sign was last set to a text that goes
    on as the name does, and then with one more equals sign and something behind it. -/
def Strays (env : Environment) (steps : List Step) (name : Text) : Prop :=
  ∃ before rest v, Splits name before rest ∧ v ≠ [] ∧
    env.latest? steps before = some (Text.toOctets (rest ++ '=' :: v))

/-- A name of a variable has no equals sign to stray at. -/
theorem IsName.not_strays (h : IsName name) (env : Environment) (steps : List Step) :
    ¬ env.Strays steps name := by
  rintro ⟨before, rest, v, hs, -⟩
  exact h.no_equals (by rw [hs.eq]; simp)

/-- Under a name that no variable has, there is something to be found only if it strays. -/
theorem exists_text?_iff_strays {steps : List Step} (hn : ¬ IsName name) :
    (∃ v, (env.applyAll steps).text? name = some v) ↔ env.Strays steps name := by
  constructor
  · rintro ⟨v, hv⟩
    by_contra hstray
    have hs : ∀ before rest, ¬ Splits name before rest := fun before rest hs => by
      obtain ⟨hne, ho⟩ := (text?_of_splits hs).1 hv
      exact hstray ⟨before, rest, v, hs, hne, by rwa [← octets?_applyAll]⟩
    have hl := (text?_eq_some_iff.1 hv).2
    rw [lookup?_eq_none hn hs] at hl
    cases hl
  · rintro ⟨before, rest, v, hs, hne, hl⟩
    exact ⟨v, (text?_of_splits hs).2 ⟨hne, by rwa [octets?_applyAll]⟩⟩

/-- The variable is unset, empty, or not the form of any text. -/
inductive Lacks (env : Environment) (name : Text) : Prop
  | unset (h : env.octets? name = none)
  | empty (h : env.octets? name = some .empty)
  | noText (b : ByteArray) (h : env.octets? name = some b) (hb : ∀ t, Text.toOctets t ≠ b)

theorem text?_of_lacks (hn : IsName name) (h : env.Lacks name) : env.text? name = none := by
  refine Option.eq_none_iff_forall_ne_some.2 fun v hv => ?_
  obtain ⟨hne, hl⟩ := text?_eq_some_iff.1 hv
  rw [lookup?_of_isName hn] at hl
  cases h with
  | unset h =>
    rw [h] at hl
    cases hl
  | empty h =>
    -- No octets are the form of the empty text only.
    have hempty : Text.toOctets [] = Text.toOctets v := Option.some.inj (h.symm.trans hl)
    have hread := congrArg Text.ofOctets? hempty
    rw [Text.ofOctets?_toOctets, Text.ofOctets?_toOctets] at hread
    exact hne (Option.some.inj hread).symm
  | noText b h hb => exact hb v (Option.some.inj (hl.symm.trans h))

theorem isName_placeholderVariable : IsName Settings.placeholderVariable :=
  ⟨by decide, by decide, by decide⟩

/-- The placeholder does not tell in which way its variable is missing. -/
theorem placeholder_of_lacks (s : Settings) (h : env.Lacks Settings.placeholderVariable) :
    (s.placeholder env).value = if s.chosenPlaceholder.getD [] = [] then Route.defaultPlaceholder
      else s.chosenPlaceholder.getD [] := by
  rw [Settings.value_placeholder, text?_of_lacks isName_placeholderVariable h, Option.getD_none]

/-- After any steps, a name gives the text that its variable was last set to, and is missing where
    that was empty or no text, exactly if it does not stray into another variable. The placeholder,
    and with it the pattern of a path, is the same whether its variable is unset, empty or no
    text. -/
theorem finds_iff (env : Environment) (steps : List Step) (name : Text) :
    ((env.applyAll steps).Finds name (env.LastSet steps name) ↔ ¬ env.Strays steps name) ∧
    ∀ (s : Settings) (path : Text) (a b : Environment),
      a.Lacks Settings.placeholderVariable → b.Lacks Settings.placeholderVariable →
      (s.placeholder a).value = (s.placeholder b).value ∧
        Route.normalize (s.placeholder a).value path =
          Route.normalize (s.placeholder b).value path := by
  constructor
  · rw [finds_iff_text?]
    by_cases hn : IsName name
    · refine iff_of_true (fun v => ?_) (hn.not_strays env steps)
      rw [text?_eq_some_iff, lookup?_of_isName hn, octets?_applyAll]
      exact ⟨fun ⟨hne, hl⟩ => ⟨hn, hne, hl⟩, fun h => ⟨h.ne_nil, h.latest⟩⟩
    · have hlast : ∀ v, ¬ env.LastSet steps name v := fun v h => hn h.isName
      rw [← exists_text?_iff_strays hn, not_exists]
      exact forall_congr' fun v => iff_false_right (hlast v)
  · intro s path a b ha hb
    rw [placeholder_of_lacks s ha, placeholder_of_lacks s hb]
    exact ⟨rfl, rfl⟩

/-- A variable is found that was set, emptied and set again, and one that was unset is missing. A
    placeholder that is cut off within a character is as good as none. -/
theorem finds_iff_port :
    let steps : List Step := [.set "PORT" (Text.toOctets "80"), .set "HOST" (Text.toOctets "é"),
      .set "PORT" .empty, .set "PORT" (Text.toOctets "81"), .unset "HOST"]
    let cut : Environment := empty.set Settings.placeholderVariable ⟨#[0xC3]⟩
    ((empty.applyAll steps).require "PORT").value = .ok "81" ∧
    ((empty.applyAll steps).require "HOST").value = .error .missingEnvVar ∧
    empty.Lacks Settings.placeholderVariable ∧ cut.Lacks Settings.placeholderVariable ∧
      Route.normalize (Settings.blank.placeholder empty).value "/staff/42" =
        Route.normalize (Settings.blank.placeholder cut).value "/staff/42" := by
  intro steps cut
  have hport : IsName "PORT" := ⟨by decide, by decide, by decide⟩
  have hhost : IsName "HOST" := ⟨by decide, by decide, by decide⟩
  have hunset : empty.Lacks Settings.placeholderVariable := .unset rfl
  have hnone : Text.ofOctets? ⟨#[0xC3]⟩ = none := by decide +kernel
  have hcut : cut.Lacks Settings.placeholderVariable := .noText ⟨#[0xC3]⟩ rfl fun t ht => by
    rw [← ht, Text.ofOctets?_toOctets] at hnone
    cases hnone
  have hfound := (finds_iff empty steps "PORT").1.2 (hport.not_strays _ _)
  have hmissing := (finds_iff empty steps "HOST").1.2 (hhost.not_strays _ _)
  refine ⟨(hfound.ok _).2 ⟨hport, by decide, rfl⟩, hmissing.missing fun v hv => ?_, hunset, hcut,
    ((finds_iff empty steps "PORT").2 Settings.blank "/staff/42" empty cut hunset hcut).2⟩
  cases hv.latest

/-- But a name that no variable has is found in the variable before its equals sign. -/
theorem not_finds_equals :
    let steps : List Step := [.set "A" (Text.toOctets "B=C")]
    ((empty.applyAll steps).require "A=B").value = .ok "C" ∧ ¬ IsName "A=B" ∧
      ¬ (empty.applyAll steps).Finds "A=B" (empty.LastSet steps "A=B") := by
  intro steps
  have hs : Splits "A=B" "A" "B" := ⟨rfl, by decide, by decide⟩
  have htext : (empty.applyAll steps).text? "A=B" = some ("C" : Text) :=
    (text?_of_splits hs).2 ⟨by decide, rfl⟩
  have hn : ¬ IsName "A=B" := fun h => absurd h.no_equals (by decide)
  refine ⟨by rw [value_require, htext], hn, fun h => ?_⟩
  exact hn ((finds_iff_text?.1 h _).1 htext).isName

end Backoffice.Environment
