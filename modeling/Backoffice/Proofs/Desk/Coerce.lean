import Backoffice.Desk
import Backoffice.Proofs.Json.Values

/-!
# Coercing JSON

An array or an object is printed without blanks, with its fields sorted. This form stands for
the same value, and is printed as itself, as long as there is no binary number in it.

* `result_coerce`: what coercing prints of a JSON value;
* `coerce_coerce`: what is printed is printed again.
-/

namespace Backoffice.Desk

variable {t : Text} {v : Json}

/-- A value is printed on a line of its own. -/
theorem result_coerce (around : Surroundings) (desk : Desk) (t fallback : Text) (disk : Disk) :
    (desk.carryOut around (.coerce t fallback) disk).value.result =
      .ok ((argumentValue t).value.render fallback ++ "\n") := by
  rw [carryOut_of_prepared rfl]
  rfl

/-- An argument that is JSON is taken as the value that it stands for. -/
theorem value_argumentValue_of_ok (h : Json.read t = .ok v) :
    (argumentValue t).value = .ofJson v := by
  rw [argumentValue, h]
  rfl

/-- Arrays and objects are printed in their compact form, whatever the fallback. -/
theorem render_ofJson
    (hv : (∃ items, v = .array items) ∨ ∃ fields, v = .object fields) (fallback : Text) :
    (Value.ofJson v).render fallback = v.compact := by
  rcases hv with ⟨items, rfl⟩ | ⟨fields, rfl⟩ <;> rfl

/-- A text that stands for an array or an object, with no binary number in it, is printed as a
    text that stands for the same value and is printed as it is, whatever the fallbacks. -/
theorem coerce_coerce (h : Json.read t = .ok v)
    (hv : (∃ items, v = .array items) ∨ ∃ fields, v = .object fields) (he : v.isExact = true) :
    ∃ c, (∀ fallback, (Value.ofJson v).render fallback = c) ∧ Json.read c = .ok v ∧
      ∀ (around : Surroundings) (desk : Desk) (fallback : Text) (disk : Disk),
        (desk.carryOut around (.coerce t fallback) disk).value.result = .ok (c ++ "\n") ∧
          (desk.carryOut around (.coerce c fallback) disk).value.result = .ok (c ++ "\n") := by
  have hc := Json.read_compact h he
  refine ⟨v.compact, render_ofJson hv, hc, fun around desk fallback disk => ⟨?_, ?_⟩⟩
  · rw [result_coerce, value_argumentValue_of_ok h, render_ofJson hv]
  · rw [result_coerce, value_argumentValue_of_ok hc, render_ofJson hv]

/-- Blanks, the order of keys, a repeated key, escapes, the halves of a pair and the limits of
    64 bits: one value, and one text for it. -/
theorem coerce_coerce_blanks :
    let t : Text := "\n\x7b \"b\" : [1] , \"a\\u002F\\ud83d\\ude00\\n\" : \x7b\"\":null\x7d,\t" ++
      "\"b\":[18446744073709551615, -9223372036854775808,[]] \x7d\r"
    let c : Text := "\x7b\"a/😀\\n\":\x7b\"\":null\x7d," ++
      "\"b\":[18446744073709551615,-9223372036854775808,[]]\x7d"
    ∃ v, Json.read t = .ok v ∧ Json.read c = .ok v ∧
      ∀ (around : Surroundings) (desk : Desk) (fallback : Text) (disk : Disk),
        (desk.carryOut around (.coerce t fallback) disk).value.result = .ok (c ++ "\n") ∧
          (desk.carryOut around (.coerce c fallback) disk).value.result = .ok (c ++ "\n") := by
  intro t c
  have hshown : (Json.read t).map (fun v => (v.compact, v.isExact, v.isObject)) =
      .ok (c, true, true) := by
    decide +kernel
  obtain ⟨v, hr, hv⟩ := exists_of_map_eq_ok hshown
  simp only [Prod.mk.injEq] at hv
  obtain ⟨hc, he, ho⟩ := hv
  obtain ⟨c', hrender, hback, hprint⟩ := coerce_coerce hr (.inr (Json.isObject_iff.1 ho)) he
  have hc' : c' = c := by rw [← hrender [], render_ofJson (.inr (Json.isObject_iff.1 ho)), hc]
  subst hc'
  exact ⟨v, hr, hback, hprint⟩

end Backoffice.Desk
