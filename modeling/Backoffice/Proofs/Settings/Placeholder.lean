import Backoffice.Proofs.Route.Pattern
import Backoffice.Proofs.Settings.Proper
import Backoffice.Proofs.Settings.Storage

/-!
# Where the placeholder comes from

The placeholder is that of the settings, else that of the environment, else the standard
one, and never empty. No key takes a placeholder with a slash, but settings that are loaded
may have one, and so may the environment. Then it is used, until another one is set, and a
path with a number loses its shape.

* `value_placeholder`: the placeholder that is used;
* `slash_mem_placeholder_iff`, `slashed_applyAll_iff`: where a slash comes from, and how
  long it stays;
* `keepsShape_placeholder_iff`: which patterns have the shape of their path.
-/

namespace Backoffice

/-- A variable that is found is not empty. -/
theorem Environment.text?_ne_some_nil (env : Environment) (name : Text) :
    env.text? name ≠ some [] := by
  rw [text?]
  split <;> simp

namespace Settings

variable {s : Settings} {env : Environment} {cs : List Change}

/-- The placeholder of the settings is used unless there is none, or an empty one; then it is
    that of the environment, or else the standard one. -/
theorem value_placeholder (s : Settings) (env : Environment) : (s.placeholder env).value =
    if s.chosenPlaceholder.getD [] = [] then
      (env.text? placeholderVariable).getD Route.defaultPlaceholder
    else s.chosenPlaceholder.getD [] := by
  rw [placeholder]
  split
  · next c cs h => simp [h]
  · next h =>
    -- No text that begins with a character is chosen, so none or the empty one.
    have he : s.chosenPlaceholder.getD [] = [] := by
      cases hp : s.chosenPlaceholder with
      | none => rfl
      | some p =>
        cases p with
        | nil => rfl
        | cons c cs => exact absurd hp (h c cs)
    rw [if_pos he, Logged.value_bind, Environment.require]
    cases env.text? placeholderVariable <;> rfl

theorem placeholder_ne_nil (s : Settings) (env : Environment) : (s.placeholder env).value ≠ [] := by
  rw [value_placeholder]
  split_ifs with h
  · cases ht : env.text? placeholderVariable with
    | none => exact List.cons_ne_nil _ _
    | some t => exact fun hn => env.text?_ne_some_nil _ (ht.trans (congrArg some hn))
  · exact h

/-! ### Slashes in the placeholder -/

/-- The settings have a placeholder with a slash, or they have none, or an empty one, and the
    environment has one with a slash. -/
def Slashed (s : Settings) (env : Environment) : Prop :=
  (∃ p, s.chosenPlaceholder = some p ∧ '/' ∈ p) ∨
    s.chosenPlaceholder.getD [] = [] ∧ ∃ p, env.text? placeholderVariable = some p ∧ '/' ∈ p

theorem slash_mem_placeholder_iff : '/' ∈ (s.placeholder env).value ↔ s.Slashed env := by
  rw [value_placeholder, Slashed]
  split_ifs with h
  · -- Where none is used from the settings, they have none with a slash.
    have hl : ¬ ∃ p, s.chosenPlaceholder = some p ∧ '/' ∈ p := by
      rintro ⟨p, hp, hs⟩
      rw [hp, Option.getD_some] at h
      subst h
      exact List.not_mem_nil hs
    cases env.text? placeholderVariable <;> simp [hl, h, Route.defaultPlaceholder]
  · cases hp : s.chosenPlaceholder with
    | none =>
      rw [hp] at h
      exact absurd rfl h
    | some p =>
      rw [hp, Option.getD_some] at h
      simp [h]

/-- A placeholder with a slash stays until another is accepted, and no change brings one. -/
theorem slashed_applyAll_iff : (s.applyAll cs).Slashed env ↔
    s.Slashed env ∧ ∀ c ∈ cs, Key.placeholder.given? c = none := by
  have hg : (s.applyAll cs).chosenPlaceholder =
      (Key.placeholder.last? cs).or s.chosenPlaceholder := get_applyAll s cs .placeholder
  rw [Slashed, hg]
  cases hl : Key.placeholder.last? cs with
  | none =>
    rw [Option.none_or]
    exact (and_iff_left (Key.last?_eq_none_iff.1 hl)).symm
  | some p =>
    -- What was accepted last is used, whatever was loaded and whatever the environment has.
    obtain ⟨c, hc, hp⟩ := Key.exists_of_last? hl
    obtain ⟨hne, hs⟩ := Key.takes_of_given? hp
    refine iff_of_false ?_ fun h => ?_
    · simp [hne, hs]
    · have hn := h.2 c hc
      rw [hp] at hn
      cases hn

/-- Whatever settings were loaded and whatever changes were asked for since, a pattern has the
    shape of its path, unless there is a number in the path and a slash in the placeholder
    that was loaded, or else in that of the environment, and no placeholder has been
    accepted since. -/
theorem keepsShape_placeholder_iff (s : Settings) (cs : List Change) (env : Environment)
    (path : Text) :
    Route.KeepsShape path (Route.normalize ((s.applyAll cs).placeholder env).value path) ↔
      ¬ ((∃ segment ∈ Route.segments path, Route.isNumber segment = true) ∧
        s.Slashed env ∧ ∀ c ∈ cs, Key.placeholder.given? c = none) := by
  rw [Route.keepsShape_normalize_iff (placeholder_ne_nil _ _), slash_mem_placeholder_iff,
    slashed_applyAll_iff, not_and_or (a := ∃ _, _), or_comm]
  refine or_congr ?_ Iff.rfl
  simp only [not_exists, not_and, Bool.not_eq_true]

/-- A placeholder with a slash is loaded from a file, or taken from the environment, and makes
    two segments out of one. -/
theorem not_keepsShape_placeholder :
    let text : Text := "placeholder = \"a/b\"\n"
    let files : Files := ⟨[(["config.toml"], .file (Text.toOctets text))]⟩
    let loaded : Settings := ⟨some "a/b", none, none⟩
    let env : Environment := Environment.empty.set placeholderVariable (Text.toOctets "a/b")
    let path : Text := "/staff/42"
    (load files [] "config.toml" = .ok loaded ∧ ¬ Route.KeepsShape path
      (Route.normalize ((loaded.applyAll []).placeholder .empty).value path)) ∧
    (load .empty [] "config.toml" = .ok blank ∧ ¬ Route.KeepsShape path
      (Route.normalize ((blank.applyAll []).placeholder env).value path)) := by
  intro text files loaded env path
  have hf : Files.empty.filePath [] "config.toml" = .ok ["config.toml"] := rfl
  have hl : load files [] "config.toml" = .ok loaded := load_of_put rfl hf
  have ht : env.text? placeholderVariable = some "a/b" := by
    have he : env.lookup? placeholderVariable = some (Text.toOctets "a/b") := rfl
    rw [Environment.text?, he, Option.bind_some, Text.ofOctets?_toOctets]
    rfl
  have hv : ((blank.applyAll []).placeholder env).value = "a/b" := by
    rw [value_placeholder, ht]
    rfl
  refine ⟨⟨hl, ?_⟩, rfl, ?_⟩
  · decide
  · rw [hv]
    decide

end Settings

end Backoffice
