import Backoffice.Proofs.Value.Day

/-!
# Dates that are lost

Where the zero instant stands for something that was no date, or the first day of 1970 for
something that was no instant, one report should say so, and nothing should be said where nothing
was lost. This is how values are written, and how texts are read. A value of another kind is read
as the zero instant without a word.

* `Logged.Substitutes`: a result that stands for something lost, and says so;
* `Value.Misread`, `Value.Miswritten`: the values that are lost;
* `Value.substitutes_toDateTime_iff`: which values are read, and all values written, like this.
-/

namespace Backoffice

/-- Where something was lost the result is the substitute, and a single record at the debug level
    says so; otherwise there is no record. -/
structure Logged.Substitutes {α : Type} (x : Logged α) (substitute : α) (lost : Prop) : Prop where
  value : lost → x.value = substitute
  told : lost → ∃ message, x.records = [⟨.debug, message⟩]
  quiet : ¬ lost → x.records = []

/-- A text is reported exactly if it is no date, also where it is read as the same instant as one
    that is none. -/
theorem reports_ofDay (t : Text) : (DateTime.ofDay t).reports =
    if IsDay t then [] else ["Could not parse '" ++ t ++ "' as YYYY-MM-DD, using zero time"] := by
  rw [DateTime.ofDay]
  cases hd : Date.ofText? t with
  | none =>
    have hn : ¬ IsDay t := by simp [isDay_iff, hd]
    rw [if_neg hn]
    rfl
  | some d =>
    rw [if_pos (isDay_of_ofText? hd)]
    rfl

theorem substitutes_ofDay (t : Text) : (DateTime.ofDay t).Substitutes .zero (¬ IsDay t) where
  value := value_ofDay_of_not_isDay
  told h := ⟨_, by rw [Logged.records, reports_ofDay, if_neg h]; rfl⟩
  quiet h := by rw [Logged.records, reports_ofDay, if_pos (not_not.1 h)]; rfl

namespace Value

variable {v : Value} {t : Text}

/-- The value is a text that is not absent. -/
inductive Says : Value → Text → Prop
  | text (t : Text) : Says (.text t) t
  | optText (t : Text) : Says (.optText (some t)) t

/-- The value is of a kind that a date can be read from, or there is none. -/
inductive Textual : Value → Prop
  | null : Textual .null
  | text (t : Text) : Textual (.text t)
  | optText (t : Option Text) : Textual (.optText t)

/-- The value is of a kind that can be written as a date, or there is none. -/
inductive Dated : Value → Prop
  | null : Dated .null
  | dateTime (u : DateTime) : Dated (.dateTime u)
  | optDateTime (u : Option DateTime) : Dated (.optDateTime u)

/-- The value is lost when it is read as a date: it is a text that is none, or of another kind. -/
def Misread (v : Value) : Prop :=
  (∃ t, v.Says t ∧ ¬ IsDay t) ∨ ¬ v.Textual

/-- The value is lost when it is written as a date. -/
def Miswritten (v : Value) : Prop :=
  ¬ v.Dated

theorem Says.textual (h : v.Says t) : v.Textual := by
  cases h with
  | text => exact .text t
  | optText => exact .optText (some t)

theorem Says.unique {u : Text} (ht : v.Says t) (hu : v.Says u) : t = u := by
  cases ht <;> cases hu <;> rfl

theorem Says.misread_iff (h : v.Says t) : v.Misread ↔ ¬ IsDay t := by
  constructor
  · rintro (⟨u, hu, hn⟩ | hn)
    · exact h.unique hu ▸ hn
    · exact absurd h.textual hn
  · exact fun hn => .inl ⟨t, h, hn⟩

theorem Says.toDateTime_eq (h : v.Says t) : v.toDateTime = DateTime.ofDay t := by
  cases h <;> rfl

/-- Whatever is no text is read in silence. -/
theorem toDateTime_of_not_says (h : ∀ t, ¬ v.Says t) : v.toDateTime = pure .zero := by
  cases v with
  | text t => exact absurd (.text t) (h t)
  | optText o =>
    cases o with
    | none => rfl
    | some t => exact absurd (.optText t) (h t)
  | _ => rfl

/-- What cannot be written as a date is reported with its kind. -/
theorem toDay_of_not_dated (h : ¬ v.Dated) :
    v.toDay = ⟨fallbackDay, ["format_date got a non-date value " ++ v.describe]⟩ := by
  cases v with
  | null => exact absurd .null h
  | dateTime u => exact absurd (.dateTime u) h
  | optDateTime u => exact absurd (.optDateTime u) h
  | _ => rfl

theorem reports_toDay_of_dated (h : v.Dated) : v.toDay.reports = [] := by
  cases h with
  | optDateTime u => cases u <;> rfl
  | _ => rfl

theorem substitutes_toDay (v : Value) : v.toDay.Substitutes fallbackDay v.Miswritten where
  value h := by rw [toDay_of_not_dated h]
  told h := ⟨_, by rw [toDay_of_not_dated h]; rfl⟩
  quiet h := by rw [Logged.records, reports_toDay_of_dated (not_not.1 h)]; rfl

/-- Reading a value as a date says that it is lost, and says nothing else, exactly if the value is
    a text, or nothing; writing one does so for every value. -/
theorem substitutes_toDateTime_iff (v : Value) :
    (v.toDateTime.Substitutes .zero v.Misread ↔ v.Textual) ∧
      v.toDay.Substitutes fallbackDay v.Miswritten := by
  refine ⟨?_, substitutes_toDay v⟩
  by_cases hs : ∃ t, v.Says t
  · obtain ⟨t, ht⟩ := hs
    rw [ht.toDateTime_eq, ht.misread_iff]
    exact iff_of_true (substitutes_ofDay t) ht.textual
  · -- Nothing is reported, and so nothing should be lost.
    have hsilent : v.toDateTime = pure .zero := toDateTime_of_not_says (not_exists.1 hs)
    have hm : v.Misread ↔ ¬ v.Textual := or_iff_right fun ⟨t, ht, _⟩ => hs ⟨t, ht⟩
    rw [hsilent, hm]
    constructor
    · intro h
      by_contra hn
      obtain ⟨message, hmessage⟩ := h.told hn
      cases hmessage
    · exact fun h => ⟨fun _ => rfl, fun hn => absurd h hn, fun _ => rfl⟩

/-- A number is read as the zero instant without a report, and reported when it is written. -/
theorem not_substitutes_toDateTime_int :
    (int 5).Misread ∧ (int 5).toDateTime.value = .zero ∧ (int 5).toDateTime.records = [] ∧
      ¬ (int 5).toDateTime.Substitutes .zero (int 5).Misread ∧
      (int 5).toDay.records = [⟨.debug, "format_date got a non-date value Int(5)"⟩] := by
  have hm : (int 5).Misread := .inr nofun
  refine ⟨hm, rfl, rfl, fun h => ?_, rfl⟩
  obtain ⟨message, hmessage⟩ := h.told hm
  cases hmessage

end Value

end Backoffice
