import Backoffice.Proofs.Desk.Coerce
import Backoffice.Proofs.Value.Integer

/-!
# The fallback of a coerced value

A fallback stands for null and for nothing else: it shows in what is printed of the word `null`,
with blanks around it, and any other argument is printed as if there were no fallback. An argument
that is no JSON is printed as it is.

* `render_ofJson_of_ne_null`: the fallback does not show in a value that is there;
* `result_coerce_ne_iff`: two fallbacks are told apart by null alone.
-/

namespace Backoffice.Desk

variable {t f g : Text} {v : Json}

/-- No value but that of null is absent. -/
theorem render_ofJson_of_ne_null (hv : v ≠ .null) (f g : Text) :
    (Value.ofJson v).render f = (Value.ofJson v).render g := by
  cases v with
  | null => exact absurd rfl hv
  | number n =>
    cases n with
    | integer n => rw [Value.render_ofJson_integer, Value.render_ofJson_integer]
    | float x => rfl
  | bool _ | string _ | array _ | object _ => rfl

/-- An argument that is no JSON is taken as the text that it is. -/
theorem value_argumentValue_of_error {e : Json.Fault} (h : Json.read t = .error e) :
    (argumentValue t).value = .text t := by
  rw [argumentValue, h]
  rfl

/-- Of two different fallbacks, by whomever and wherever they are asked for, a different line is
    printed exactly if the argument is null, blanks around it apart. Then it is the fallback that is
    printed; and an argument that is no JSON is printed as it is. -/
theorem result_coerce_ne_iff (hfg : f ≠ g) (around around' : Surroundings) (desk desk' : Desk)
    (disk disk' : Disk) :
    let shown := (desk.carryOut around (.coerce t f) disk).value.result
    let shown' := (desk'.carryOut around' (.coerce t g) disk').value.result
    (∃ line line', shown = .ok (line ++ "\n") ∧ shown' = .ok (line' ++ "\n")) ∧
    (shown ≠ shown' ↔ Json.Spaced ["null"] t) ∧
    (Json.Spaced ["null"] t → shown = .ok (f ++ "\n") ∧ shown' = .ok (g ++ "\n")) ∧
    ((∃ e, Json.read t = .error e) → shown = .ok (t ++ "\n") ∧ shown' = .ok (t ++ "\n")) := by
  intro shown shown'
  have hs : shown = .ok ((argumentValue t).value.render f ++ "\n") := result_coerce around desk t f disk
  have hs' : shown' = .ok ((argumentValue t).value.render g ++ "\n") :=
    result_coerce around' desk' t g disk'
  rw [hs, hs', ← Json.read_eq_null_iff]
  refine ⟨⟨_, _, rfl, rfl⟩, ?_, fun h => ?_, fun ⟨_, h⟩ => ?_⟩
  · rw [ne_eq, Except.ok.injEq, List.append_left_inj, ← ne_eq]
    cases h : Json.read t with
    | error e =>
      rw [value_argumentValue_of_error h]
      exact iff_of_false (fun hne => hne rfl) nofun
    | ok v =>
      rw [value_argumentValue_of_ok h, Except.ok.injEq]
      constructor
      · intro hne
        by_contra hv
        exact hne (render_ofJson_of_ne_null hv f g)
      · rintro rfl
        exact hfg
  · rw [value_argumentValue_of_ok h]
    exact ⟨rfl, rfl⟩
  · rw [value_argumentValue_of_error h]
    exact ⟨rfl, rfl⟩

/-- Null between blanks is printed as either fallback, and null before a further value as it is. -/
theorem result_coerce_ne_iff_absent :
    let around : Surroundings := ⟨.empty, []⟩
    let desk : Desk := ⟨.blank, "config.toml", .empty⟩
    let shown (t fallback : Text) := (desk.carryOut around (.coerce t fallback)).value.result
    (("n/a" : Text) ≠ "" ∧ shown " null\n" "n/a" ≠ shown " null\n" "") ∧
      (Json.Spaced ["null"] " null\n" ∧ shown " null\n" "n/a" = .ok "n/a\n".toList) ∧
      (∃ e, Json.read "null 0" = .error e) ∧ shown "null 0" "n/a" = .ok "null 0\n".toList := by
  intro around desk shown
  have hfg : ("n/a" : Text) ≠ "" := by decide
  have hspace : ∀ c ∈ [' '], Json.isBlank c = true := List.forall_mem_singleton.2 rfl
  have hline : ∀ c ∈ ['\n'], Json.isBlank c = true := List.forall_mem_singleton.2 rfl
  have hnull : Json.Spaced ["null"] " null\n" := .cons hspace (.nil hline)
  have hbad : ∃ e, Json.read "null 0" = .error e := by
    have hnot : (Json.read "null 0").isOk = false := by decide +kernel
    cases h : Json.read "null 0" with
    | error e => exact ⟨e, rfl⟩
    | ok v =>
      rw [h] at hnot
      cases hnot
  obtain ⟨-, hne, hshown, -⟩ := result_coerce_ne_iff hfg around around desk desk .sound .sound
  obtain ⟨-, -, -, hkept⟩ := result_coerce_ne_iff hfg around around desk desk .sound .sound
  exact ⟨⟨hfg, hne.2 hnull⟩, ⟨hnull, (hshown hnull).1⟩, hbad, (hkept hbad).1⟩

end Backoffice.Desk
