import Backoffice.Text.Basic
import Mathlib.Data.List.Basic
import Mathlib.Tactic.SplitIfs

/-!
# Cutting what was joined

A text is cut at every separator, so the pieces of a joined text are the pieces of its parts,
one after the other. Parts without a separator are found again as they were.

* `pieces_append_cons`: a cut at one separator leaves those before and after it;
* `pieces_joined`: the pieces of parts that were joined;
* `joined_inj`: parts without a separator are known from how they look joined;
* `afterLast_eq_some_iff`: the cut at the last separator.
-/

namespace Backoffice.Text

variable {sep : Char} {t u : Text} {ps qs : List Text}

/-- No piece holds the separator. -/
theorem not_mem_of_mem_pieces {p : Text} (h : p ∈ pieces sep t) : sep ∉ p := by
  induction t generalizing p with
  | nil => simp_all [pieces]
  | cons c cs ih =>
    rw [pieces] at h
    split_ifs at h with hc
    · rcases List.mem_cons.1 h with rfl | h
      · exact List.not_mem_nil
      · exact ih h
    · split at h
      · next hp => exact absurd hp (pieces_ne_nil sep cs)
      · next q qs hq =>
        -- A piece is the one that `c` was put before, or one of those after it.
        rw [hq] at ih
        rcases List.mem_cons.1 h with rfl | h
        · exact List.not_mem_cons_of_ne_of_not_mem (Ne.symm hc) (ih List.mem_cons_self)
        · exact ih (List.mem_cons_of_mem _ h)

theorem map_pieces_ne_nil {α : Type} {f : Text → α} : (pieces sep t).map f ≠ [] :=
  fun h => pieces_ne_nil sep t (List.map_eq_nil_iff.1 h)

/-- Cutting at one separator leaves the cuts before it and those after it. -/
theorem pieces_append_cons (t u : Text) :
    pieces sep (t ++ sep :: u) = pieces sep t ++ pieces sep u := by
  -- A character before grows the first piece or ends one, with or without what follows.
  induction t with
  | nil => simp [pieces]
  | cons c cs ih =>
    rw [List.cons_append, pieces, pieces, ih]
    cases hp : pieces sep cs with
    | nil => exact absurd hp (pieces_ne_nil sep cs)
    | cons p ps => split_ifs <;> rfl

/-- A text without the separator is one piece. -/
theorem pieces_of_not_mem (h : sep ∉ t) : pieces sep t = [t] := by
  induction t with
  | nil => rfl
  | cons c cs ih =>
    have hc : c ≠ sep := fun hc => h (hc ▸ List.mem_cons_self)
    rw [pieces, if_neg hc, ih fun hm => h (List.mem_cons_of_mem _ hm)]

/-- A text with the separator is more than one piece. -/
theorem one_lt_length_pieces (h : sep ∈ t) : 1 < (pieces sep t).length := by
  obtain ⟨t, u, rfl⟩ := List.append_of_mem h
  have ht := List.length_pos_iff.2 (pieces_ne_nil sep t)
  have hu := List.length_pos_iff.2 (pieces_ne_nil sep u)
  rw [pieces_append_cons, List.length_append]
  omega

/-- The pieces of a joined text are those of its parts, one after the other. -/
theorem pieces_joined (h : ps ≠ []) : pieces sep (joined [sep] ps) = ps.flatMap (pieces sep) := by
  induction ps with
  | nil => exact absurd rfl h
  | cons p ps ih =>
    cases ps with
    | nil => simp [joined]
    | cons q ps =>
      rw [joined, List.append_assoc, List.singleton_append, pieces_append_cons,
        ih (List.cons_ne_nil _ _)]
      rfl

/-- Parts without the separator are the pieces of what they are joined to. -/
theorem pieces_joined_of_not_mem (h : ps ≠ []) (hs : ∀ p ∈ ps, sep ∉ p) :
    pieces sep (joined [sep] ps) = ps := by
  rw [pieces_joined h]
  calc ps.flatMap (pieces sep) = ps.flatMap fun p => [p] :=
        List.flatMap_congr fun p hp => pieces_of_not_mem (hs p hp)
    _ = ps := List.flatMap_singleton' ps

/-- Parts without the separator look the same joined only if they are the same. -/
theorem joined_inj (hp : ps ≠ []) (hq : qs ≠ []) (hps : ∀ p ∈ ps, sep ∉ p)
    (hqs : ∀ q ∈ qs, sep ∉ q) : joined [sep] ps = joined [sep] qs ↔ ps = qs := by
  refine ⟨fun h => ?_, congrArg _⟩
  rw [← pieces_joined_of_not_mem hp hps, h, pieces_joined_of_not_mem hq hqs]

/-- Behind the first part stand the others, each behind a separator. -/
theorem joined_cons (sep p : Text) (ps : List Text) :
    joined sep (p :: ps) = p ++ ps.flatMap (sep ++ ·) := by
  induction ps generalizing p with
  | nil => simp [joined]
  | cons q ps ih => rw [joined, ih q, List.flatMap_cons, List.append_assoc, List.append_assoc]

/-- Two rows of parts are joined like two parts. -/
theorem joined_append (sep : Text) (hp : ps ≠ []) (hq : qs ≠ []) :
    joined sep (ps ++ qs) = joined sep ps ++ sep ++ joined sep qs := by
  obtain ⟨p, ps, rfl⟩ := List.exists_cons_of_ne_nil hp
  obtain ⟨q, qs, rfl⟩ := List.exists_cons_of_ne_nil hq
  rw [List.cons_append, joined_cons, joined_cons, joined_cons, List.flatMap_append,
    List.flatMap_cons]
  simp only [List.append_assoc]

/-- Parts that are not empty are at most as many as the characters of what they are joined
    to. -/
theorem length_le_joined (sep : Text) (h : ∀ p ∈ ps, p ≠ []) :
    ps.length ≤ (joined sep ps).length := by
  induction ps with
  | nil => exact Nat.zero_le _
  | cons p ps ih =>
    have hp : 0 < p.length := List.length_pos_iff.2 (h p List.mem_cons_self)
    cases ps with
    | nil => exact hp
    | cons q ps =>
      have := ih fun r hr => h r (List.mem_cons_of_mem _ hr)
      simp only [joined, List.length_append, List.length_cons] at this ⊢
      omega

/-! ### The last separator -/

theorem afterLast_of_not_mem (h : sep ∉ t) : afterLast sep t = none := by
  induction t with
  | nil => rfl
  | cons c cs ih =>
    obtain ⟨hc, hcs⟩ := List.ne_and_not_mem_of_not_mem_cons h
    rw [afterLast, ih hcs]
    exact if_neg hc.symm

theorem afterLast_append_cons (h : sep ∉ u) : afterLast sep (t ++ sep :: u) = some (t, u) := by
  induction t with
  | nil =>
    rw [List.nil_append, afterLast, afterLast_of_not_mem h]
    exact if_pos rfl
  | cons c cs ih => rw [List.cons_append, afterLast, ih]

/-- A text with the separator can be cut at the last one. -/
theorem exists_eq_append_cons (h : sep ∈ t) : ∃ u v, t = u ++ sep :: v ∧ sep ∉ v := by
  obtain ⟨v, u, hvu, hv⟩ := List.eq_append_cons_of_mem (List.mem_reverse.2 h)
  refine ⟨u.reverse, v.reverse, ?_, fun hm => hv (List.mem_reverse.1 hm)⟩
  rw [← List.reverse_reverse t, hvu, List.reverse_append, List.reverse_cons, List.append_assoc]
  rfl

/-- The cut is at the last separator: there is none behind it. -/
theorem afterLast_eq_some_iff {before after : Text} :
    afterLast sep t = some (before, after) ↔ t = before ++ sep :: after ∧ sep ∉ after := by
  constructor
  · intro h
    by_cases hs : sep ∈ t
    · obtain ⟨u, v, rfl, hv⟩ := exists_eq_append_cons hs
      rw [afterLast_append_cons hv] at h
      obtain ⟨rfl, rfl⟩ := Prod.mk.inj (Option.some.inj h)
      exact ⟨rfl, hv⟩
    · rw [afterLast_of_not_mem hs] at h
      cases h
  · rintro ⟨rfl, h⟩
    exact afterLast_append_cons h

end Backoffice.Text
