import Backoffice.Proofs.Text.Pieces
import Backoffice.Route
import Mathlib.Algebra.Order.BigOperators.Group.List
import Mathlib.Algebra.Order.Ring.Nat
import Mathlib.Data.List.Forall2

/-!
# Patterns of request paths

The normal form of a path is the *pattern* that its policy is looked up by. A placeholder
without a slash makes a pattern with as many segments as the path, one for each; so two
paths have the same pattern only where they differ in nothing but numbers. A placeholder
with a slash makes more segments wherever there is a number.

* `pieces_normalize`: the segments of a pattern;
* `normalize_eq_normalize_iff`: which paths have the same pattern;
* `keepsShape_normalize_iff`: which patterns have the shape of their path.
-/

namespace Backoffice.Route

variable {placeholder path s t : Text}

/-- What a segment becomes in a pattern. -/
def patternOf (placeholder s : Text) : Text :=
  if isNumber s then placeholder else s

theorem map_segments_ne_nil {α : Type} {f : Text → α} : (segments path).map f ≠ [] :=
  Text.map_pieces_ne_nil

theorem slash_not_mem_of_mem_segments (h : s ∈ segments path) : '/' ∉ s :=
  Text.not_mem_of_mem_pieces h

/-- A pattern is cut where its path is cut, and where a placeholder is. -/
theorem pieces_normalize (placeholder path : Text) :
    Text.pieces '/' (normalize placeholder path) =
      (segments path).flatMap fun s => Text.pieces '/' (patternOf placeholder s) :=
  calc Text.pieces '/' (normalize placeholder path)
      = ((segments path).map (patternOf placeholder)).flatMap (Text.pieces '/') :=
        Text.pieces_joined map_segments_ne_nil
    _ = (segments path).flatMap fun s => Text.pieces '/' (patternOf placeholder s) :=
        List.flatMap_map _ _ _

/-! ### Paths with the same pattern -/

/-- A segment that becomes the placeholder: decimal digits, and at least one, or the
    placeholder itself. -/
def Stands (placeholder s : Text) : Prop :=
  (s ≠ [] ∧ ∀ c ∈ s, c.isDigit = true) ∨ s = placeholder

theorem isNumber_iff : isNumber s = true ↔ s ≠ [] ∧ ∀ c ∈ s, c.isDigit = true := by
  simp [isNumber]

instance : Decidable (Stands placeholder s) :=
  decidable_of_iff (isNumber s = true ∨ s = placeholder) (or_congr isNumber_iff Iff.rfl)

/-- Segments that no pattern tells apart. -/
def Alike (placeholder s t : Text) : Prop :=
  s = t ∨ Stands placeholder s ∧ Stands placeholder t

instance : Decidable (Alike placeholder s t) :=
  inferInstanceAs (Decidable (_ ∨ _))

theorem patternOf_eq_placeholder_iff : patternOf placeholder s = placeholder ↔
    Stands placeholder s := by
  rw [patternOf, Stands, ← isNumber_iff]
  split_ifs with h
  · exact iff_of_true rfl (.inl h)
  · simp [h]

theorem patternOf_eq_patternOf_iff : patternOf placeholder s = patternOf placeholder t ↔
    Alike placeholder s t := by
  constructor
  · intro h
    by_cases hs : Stands placeholder s
    · -- Then both are the placeholder.
      have hp := patternOf_eq_placeholder_iff.2 hs
      exact .inr ⟨hs, patternOf_eq_placeholder_iff.1 (h ▸ hp)⟩
    · have hs' : isNumber s = false :=
        Bool.eq_false_iff.2 fun hn => hs (.inl (isNumber_iff.1 hn))
      have ht' : isNumber t = false := by
        refine Bool.eq_false_iff.2 fun hn => hs (patternOf_eq_placeholder_iff.1 ?_)
        rw [h, patternOf, if_pos hn]
      left
      simpa [patternOf, hs', ht'] using h
  · rintro (rfl | ⟨hs, ht⟩)
    · rfl
    · rw [patternOf_eq_placeholder_iff.2 hs, patternOf_eq_placeholder_iff.2 ht]

theorem slash_not_mem_patternOf (hp : '/' ∉ placeholder) (hs : '/' ∉ s) :
    '/' ∉ patternOf placeholder s := by
  rw [patternOf]
  split_ifs
  · exact hp
  · exact hs

/-- Where the placeholder has no slash, two paths have the same pattern if and only if they
    have equally many segments, and these are the same or stand for the placeholder both. -/
theorem normalize_eq_normalize_iff (h : '/' ∉ placeholder) (p q : Text) :
    normalize placeholder p = normalize placeholder q ↔
      List.Forall₂ (Alike placeholder) (segments p) (segments q) := by
  -- No part of a pattern has a slash, so the parts are known from the pattern.
  have hs (path : Text) : ∀ s ∈ (segments path).map (patternOf placeholder), '/' ∉ s := by
    rintro _ ha
    obtain ⟨s, hm, rfl⟩ := List.mem_map.1 ha
    exact slash_not_mem_patternOf h (slash_not_mem_of_mem_segments hm)
  calc normalize placeholder p = normalize placeholder q
      ↔ (segments p).map (patternOf placeholder) = (segments q).map (patternOf placeholder) :=
        Text.joined_inj map_segments_ne_nil map_segments_ne_nil (hs p) (hs q)
    _ ↔ List.Forall₂ (Alike placeholder) (segments p) (segments q) := by
        rw [← List.forall₂_eq_eq_eq, List.forall₂_map_left_iff, List.forall₂_map_right_iff]
        simp only [patternOf_eq_patternOf_iff]

/-- A number, the placeholder and a slash at the end make no difference; a slash in the
    middle and a letter do. -/
theorem normalize_eq_normalize_iff_id :
    '/' ∉ (":id" : Text) ∧
      normalize ":id" "/staff/630/:id/" = normalize ":id" "/staff/:id/7" ∧
      normalize ":id" "/staff/630" ≠ normalize ":id" "/staff//630" ∧
      normalize ":id" "/staff/630" ≠ normalize ":id" "/staff/63O" := by
  have h : '/' ∉ (":id" : Text) := by decide
  refine ⟨h, (normalize_eq_normalize_iff h _ _).2 (by decide), fun he => ?_, fun he => ?_⟩
  · exact absurd ((normalize_eq_normalize_iff h _ _).1 he) (by decide)
  · exact absurd ((normalize_eq_normalize_iff h _ _).1 he) (by decide)

/-! ### Patterns with the shape of their path -/

/-- A pattern has the shape of a path: it has as many segments, and none of them is empty
    that is not empty in the path. -/
def KeepsShape (path pattern : Text) : Prop :=
  List.Forall₂ (fun s t => s ≠ [] → t ≠ []) (segments path) (Text.pieces '/' pattern)

instance {pattern : Text} : Decidable (KeepsShape path pattern) :=
  inferInstanceAs (Decidable (List.Forall₂ _ _ _))

/-- Without a slash in the placeholder, or a number in the path, a pattern has one segment for
    each of the path. -/
theorem pieces_normalize_of_not_mem
    (h : '/' ∉ placeholder ∨ ∀ s ∈ segments path, isNumber s = false) :
    Text.pieces '/' (normalize placeholder path) =
      (segments path).map (patternOf placeholder) := by
  have hp : ∀ s ∈ segments path,
      Text.pieces '/' (patternOf placeholder s) = [patternOf placeholder s] := by
    intro s hs
    refine Text.pieces_of_not_mem ?_
    rcases h with h | h
    · exact slash_not_mem_patternOf h (slash_not_mem_of_mem_segments hs)
    · rw [patternOf, if_neg (by simp [h s hs])]
      exact slash_not_mem_of_mem_segments hs
  rw [pieces_normalize, List.flatMap_congr hp, ← List.map_eq_flatMap]

/-- With both, a pattern has more segments than the path. -/
theorem length_segments_lt (h : '/' ∈ placeholder) (hs : s ∈ segments path)
    (hn : isNumber s = true) :
    (segments path).length < (Text.pieces '/' (normalize placeholder path)).length := by
  -- No segment is lost, and the number is cut further.
  have hlt : ((segments path).map fun _ => 1).sum <
      ((segments path).map fun t => (Text.pieces '/' (patternOf placeholder t)).length).sum := by
    refine List.sum_lt_sum _ _ (fun t _ => ?_) ⟨s, hs, ?_⟩
    · exact List.length_pos_iff.2 (Text.pieces_ne_nil _ _)
    · rw [patternOf, if_pos hn]
      exact Text.one_lt_length_pieces h
  rw [pieces_normalize, List.length_flatMap]
  simpa using hlt

/-- A pattern has the shape of its path unless there is a slash in the placeholder and a
    number in the path. -/
theorem keepsShape_normalize_iff (hp : placeholder ≠ []) :
    KeepsShape path (normalize placeholder path) ↔
      '/' ∉ placeholder ∨ ∀ s ∈ segments path, isNumber s = false := by
  constructor
  · intro h
    by_contra hc
    push Not at hc
    obtain ⟨hslash, s, hs, hn⟩ := hc
    exact Nat.ne_of_lt (length_segments_lt hslash hs (by simpa using hn)) h.length_eq
  · intro h
    rw [KeepsShape, pieces_normalize_of_not_mem h, List.forall₂_map_right_iff, List.forall₂_same]
    intro s _ hs
    rw [patternOf]
    split_ifs
    · exact hp
    · exact hs

end Backoffice.Route
