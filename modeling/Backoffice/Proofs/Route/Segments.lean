import Backoffice.Proofs.Route.Pattern

/-!
# Patterns, segment by segment

A path counts without one slash at its end. Cut at its slashes, a pattern has at each place what
the path has there, or the placeholder where that is a number; so a pattern stays as it is when
numbers are replaced again, also where the placeholder is a number itself. The only thing that a
second normal form can change is a slash that two of them at the end have left.

* `trimmed_eq_iff`: a path without the slash at its end;
* `replaced_append_cons`: numbers are replaced on both sides of a slash apart;
* `getElem?_pieces_normalize`: the segments of a pattern, place by place;
* `normalize_normalize_iff`: which patterns are their own, and what one more slash does.
-/

namespace Backoffice.Route

variable {placeholder path rest s t u : Text}

/-! ### The slash at the end -/

/-- `rest` is the path without the slash at its end, if there is one. -/
def Unslashed (path rest : Text) : Prop :=
  path = rest ++ ['/'] ∨ path = rest ∧ ¬ ['/'] <:+ path

instance : Decidable (Unslashed path rest) :=
  inferInstanceAs (Decidable (_ ∨ _))

theorem trimmed_append_slash (t : Text) : trimmed (t ++ ['/']) = t := by
  rw [trimmed, if_pos List.getLast?_concat, List.dropLast_concat]

theorem trimmed_of_not_suffix (h : ¬ ['/'] <:+ path) : trimmed path = path :=
  if_neg (mt List.singleton_suffix_iff_getLast?_eq_some.2 h)

theorem unslashed_trimmed (path : Text) : Unslashed path (trimmed path) := by
  by_cases h : ['/'] <:+ path
  · obtain ⟨t, rfl⟩ := h
    exact .inl (by rw [trimmed_append_slash])
  · exact .inr ⟨(trimmed_of_not_suffix h).symm, h⟩

theorem trimmed_eq_iff : trimmed path = rest ↔ Unslashed path rest := by
  constructor
  · rintro rfl
    exact unslashed_trimmed path
  · rintro (rfl | ⟨rfl, h⟩)
    · exact trimmed_append_slash rest
    · exact trimmed_of_not_suffix h

/-- Two slashes at the end leave one. -/
theorem slash_suffix_trimmed_iff : ['/'] <:+ trimmed path ↔ ['/', '/'] <:+ path := by
  rcases unslashed_trimmed path with h | ⟨h, hs⟩
  · have hsplit : ['/', '/'] = ['/'] ++ ['/'] := rfl
    conv_rhs => rw [h, hsplit, List.suffix_append_self_iff]
  · rw [← h]
    exact iff_of_false hs fun hss => hs (List.IsSuffix.trans ⟨['/'], rfl⟩ hss)

/-! ### Numbers replaced -/

/-- A text with the placeholder for every number, a slash at its end counted. -/
def replaced (placeholder t : Text) : Text :=
  Text.joined "/" ((Text.pieces '/' t).map (patternOf placeholder))

theorem normalize_eq_replaced (placeholder path : Text) :
    normalize placeholder path = replaced placeholder (trimmed path) := rfl

theorem patternOf_patternOf (placeholder s : Text) :
    patternOf placeholder (patternOf placeholder s) = patternOf placeholder s := by
  rw [patternOf_eq_patternOf_iff]
  by_cases h : isNumber s = true
  · rw [patternOf, if_pos h]
    exact .inr ⟨.inr rfl, .inl (isNumber_iff.1 h)⟩
  · rw [patternOf, if_neg h]
    exact .inl rfl

theorem patternOf_eq_nil_iff (hp : placeholder ≠ []) : patternOf placeholder s = [] ↔ s = [] := by
  rw [patternOf]
  split_ifs with h
  · exact iff_of_false hp (isNumber_iff.1 h).1
  · exact Iff.rfl

/-- Numbers are replaced before a slash and behind it, each side for itself. -/
theorem replaced_append_cons (placeholder t u : Text) :
    replaced placeholder (t ++ '/' :: u) =
      replaced placeholder t ++ '/' :: replaced placeholder u := by
  rw [replaced, Text.pieces_append_cons, List.map_append,
    Text.joined_append _ Text.map_pieces_ne_nil Text.map_pieces_ne_nil, List.append_assoc]
  rfl

theorem replaced_append_slash (placeholder t : Text) :
    replaced placeholder (t ++ ['/']) = replaced placeholder t ++ ['/'] :=
  replaced_append_cons placeholder t []

theorem replaced_of_not_mem (h : '/' ∉ s) : replaced placeholder s = patternOf placeholder s := by
  rw [replaced, Text.pieces_of_not_mem h]
  rfl

/-- Without a slash in the placeholder, the cuts stay where they are. -/
theorem pieces_replaced (h : '/' ∉ placeholder) (t : Text) :
    Text.pieces '/' (replaced placeholder t) = (Text.pieces '/' t).map (patternOf placeholder) :=
  calc Text.pieces '/' (replaced placeholder t)
      = Text.pieces '/' (normalize placeholder (t ++ ['/'])) := by
        rw [normalize_eq_replaced, trimmed_append_slash]
    _ = (segments (t ++ ['/'])).map (patternOf placeholder) :=
        pieces_normalize_of_not_mem (.inl h)
    _ = (Text.pieces '/' t).map (patternOf placeholder) := by
        rw [segments, trimmed_append_slash]

/-- What was replaced stays as it is. -/
theorem replaced_replaced (h : '/' ∉ placeholder) (t : Text) :
    replaced placeholder (replaced placeholder t) = replaced placeholder t := by
  rw [replaced, pieces_replaced h, List.map_map, replaced]
  exact congrArg _ (List.map_congr_left fun s _ => patternOf_patternOf placeholder s)

theorem slash_suffix_append_cons_iff (h : '/' ∉ u) : ['/'] <:+ t ++ '/' :: u ↔ u = [] := by
  constructor
  · intro hs
    by_contra hu
    -- The last character stands in `u`.
    rw [List.singleton_suffix_iff_getLast?_eq_some, List.getLast?_append_cons,
      List.getLast?_cons, List.getLast?_eq_some_getLast hu] at hs
    exact h (Option.some.inj hs ▸ List.getLast_mem hu)
  · rintro rfl
    exact List.suffix_append _ _

/-- Replacing numbers keeps what is behind the last slash from being empty or becoming so. -/
theorem slash_suffix_replaced_iff (hp : placeholder ≠ []) (h : '/' ∉ placeholder) :
    ['/'] <:+ replaced placeholder t ↔ ['/'] <:+ t := by
  by_cases ht : '/' ∈ t
  · obtain ⟨u, v, rfl, hv⟩ := Text.exists_eq_append_cons ht
    rw [replaced_append_cons, replaced_of_not_mem hv,
      slash_suffix_append_cons_iff (slash_not_mem_patternOf h hv),
      slash_suffix_append_cons_iff hv, patternOf_eq_nil_iff hp]
  · rw [replaced_of_not_mem ht]
    have hs {s : Text} (hs : '/' ∉ s) : ¬ ['/'] <:+ s := fun hsuffix =>
      hs (hsuffix.subset List.mem_cons_self)
    exact iff_of_false (hs (slash_not_mem_patternOf h ht)) (hs ht)

/-! ### Place by place -/

/-- Where the placeholder has no slash, a pattern has a segment at the places where the path
    has one, without the slash at its end, and no others; there it has the placeholder if the
    path has decimal digits, at least one, and else what the path has. -/
theorem getElem?_pieces_normalize (h : '/' ∉ placeholder) (hr : Unslashed path rest) :
    (Text.pieces '/' (normalize placeholder path)).length = (Text.pieces '/' rest).length ∧
      ∀ (i : Nat) (s : Text), (Text.pieces '/' rest)[i]? = some s →
        ((s ≠ [] ∧ ∀ c ∈ s, c.isDigit = true) →
            (Text.pieces '/' (normalize placeholder path))[i]? = some placeholder) ∧
          (¬ (s ≠ [] ∧ ∀ c ∈ s, c.isDigit = true) →
            (Text.pieces '/' (normalize placeholder path))[i]? = some s) := by
  have hmap : Text.pieces '/' (normalize placeholder path) =
      (Text.pieces '/' rest).map (patternOf placeholder) := by
    rw [normalize_eq_replaced, trimmed_eq_iff.2 hr, pieces_replaced h]
  refine ⟨by rw [hmap, List.length_map], fun i s hs => ?_⟩
  rw [hmap, List.getElem?_map, hs, Option.map_some, patternOf, ← isNumber_iff]
  exact ⟨fun hn => by rw [if_pos hn], fun hn => by rw [if_neg hn]⟩

/-- A doubled slash makes an empty segment, and a number before the slash at the end is
    replaced. -/
theorem getElem?_pieces_normalize_staff :
    '/' ∉ (":id" : Text) ∧ Unslashed "/staff//7a/42/" "/staff//7a/42" ∧
      (Text.pieces '/' "/staff//7a/42")[2]? = some [] ∧
      (Text.pieces '/' "/staff//7a/42")[3]? = some ("7a" : Text) ∧
      (Text.pieces '/' "/staff//7a/42")[4]? = some ("42" : Text) ∧
      (Text.pieces '/' (normalize ":id" "/staff//7a/42/")).length = 5 ∧
      (Text.pieces '/' (normalize ":id" "/staff//7a/42/"))[2]? = some [] ∧
      (Text.pieces '/' (normalize ":id" "/staff//7a/42/"))[3]? = some ("7a" : Text) ∧
      (Text.pieces '/' (normalize ":id" "/staff//7a/42/"))[4]? = some (":id" : Text) := by
  have h : '/' ∉ (":id" : Text) := by decide
  have hr : Unslashed "/staff//7a/42/" "/staff//7a/42" := by decide
  have hs := getElem?_pieces_normalize h hr
  have hletter : isNumber "7a" = false := rfl
  refine ⟨h, hr, rfl, rfl, rfl, hs.1, ?_, ?_, ?_⟩
  · exact (hs.2 2 [] rfl).2 fun hn => hn.1 rfl
  · exact (hs.2 3 "7a" rfl).2 (mt isNumber_iff.2 (by rw [hletter]; exact Bool.false_ne_true))
  · exact (hs.2 4 "42" rfl).1 (isNumber_iff.1 rfl)

/-! ### Normal forms of normal forms -/

theorem append_slash_ne (t : Text) : t ≠ t ++ ['/'] :=
  fun h => List.cons_ne_nil _ _ (List.self_eq_append_right.1 h)

theorem normalize_replaced_iff (hp : placeholder ≠ []) (h : '/' ∉ placeholder) :
    normalize placeholder (replaced placeholder t) = replaced placeholder t ↔
      ¬ ['/'] <:+ t := by
  rw [normalize_eq_replaced]
  by_cases hs : ['/'] <:+ t
  · -- The slash goes, and nothing else.
    obtain ⟨u, rfl⟩ := hs
    rw [replaced_append_slash, trimmed_append_slash, replaced_replaced h]
    exact iff_of_false (append_slash_ne _) (not_not.2 (List.suffix_append _ _))
  · rw [trimmed_of_not_suffix (mt (slash_suffix_replaced_iff hp h).1 hs), replaced_replaced h]
    exact iff_of_true rfl hs

/-- For a placeholder that is not empty and has no slash, the normal form of a path is its own
    exactly if the path does not end with two slashes, and one more slash at the end of a path
    leaves its normal form exactly if there was none. -/
theorem normalize_normalize_iff (hp : placeholder ≠ []) (h : '/' ∉ placeholder) (path : Text) :
    (normalize placeholder (normalize placeholder path) = normalize placeholder path ↔
        ¬ ("//" : Text) <:+ path) ∧
      (normalize placeholder (path ++ "/") = normalize placeholder path ↔
        ¬ ("/" : Text) <:+ path) := by
  refine ⟨?_, ?_⟩
  · rw [normalize_eq_replaced placeholder path, normalize_replaced_iff hp h]
    exact not_congr slash_suffix_trimmed_iff
  · have hslash : normalize placeholder (path ++ "/") = replaced placeholder path :=
      congrArg (replaced placeholder) (trimmed_append_slash path)
    rw [hslash, normalize_eq_replaced placeholder path]
    by_cases hs : ['/'] <:+ path
    · obtain ⟨t, rfl⟩ := hs
      rw [replaced_append_slash, trimmed_append_slash]
      exact iff_of_false (append_slash_ne _).symm (not_not.2 (List.suffix_append _ _))
    · rw [trimmed_of_not_suffix hs]
      exact iff_of_true rfl hs

/-- With a number for the placeholder, a pattern is its own as well; two slashes at the end of a
    path make one that is not, and a slash behind a slash makes a difference. -/
theorem normalize_normalize_iff_zero :
    ("0" : Text) ≠ [] ∧ '/' ∉ ("0" : Text) ∧
      normalize "0" (normalize "0" "/staff/42/") = normalize "0" "/staff/42/" ∧
      normalize "0" (normalize "0" "/staff/42//") ≠ normalize "0" "/staff/42//" ∧
      normalize "0" ("/staff/42" ++ "/") = normalize "0" "/staff/42" ∧
      normalize "0" ("/" ++ "/") ≠ normalize "0" "/" := by
  have hp : ("0" : Text) ≠ [] := by decide
  have h : '/' ∉ ("0" : Text) := by decide
  refine ⟨hp, h, (normalize_normalize_iff hp h _).1.2 (by decide), fun he => ?_,
    (normalize_normalize_iff hp h _).2.2 (by decide), fun he => ?_⟩
  · exact absurd (by decide) ((normalize_normalize_iff hp h _).1.1 he)
  · exact absurd (by decide) ((normalize_normalize_iff hp h _).2.1 he)

end Backoffice.Route
