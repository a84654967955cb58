import Backoffice.Identifier
import Backoffice.Proofs.Text.Letters
import Mathlib.Data.List.Basic
import Mathlib.Data.List.TakeWhile

/-!
# Snake case, letter by letter

An identifier is cut into words only to find its capitals: each of them begins a word, and the
rest of a word stays as it is. So the marks are put letter by letter, and leaving out the one
before a first capital comes to making this capital small beforehand. A mark and the letter
behind it are read back as a capital; where there was no underscore before, nothing is lost.

* `marked_eq_flatMap`: words are marked letter by letter;
* `append_snakeCase`: snake case, but for the mark of a first capital;
* `camelCase_flatMap`: the capitals are found again;
* `snakeCase_eq_snakeCase_iff`: which identifiers are the same in snake case;
* `snakeCase_snakeCase`: what is in snake case stays as it is.
-/

namespace Backoffice.Identifier

variable {c : Char} {a b t : Text}

/-- A letter as it is marked: a capital is made small and put behind an underscore. -/
def markedLetter (c : Char) : Text :=
  if c.isUpper then ['_', c.toLower] else [c]

/-- The identifier with its first letter made small. -/
def uncapitalized : Text → Text
  | [] => []
  | c :: cs => c.toLower :: cs

/-! ### Words and letters -/

theorem markedLetter_of_not_isUpper (h : ¬ c.isUpper = true) : markedLetter c = [c] :=
  if_neg h

/-- Without capitals nothing is marked. -/
theorem flatMap_markedLetter (h : ∀ c ∈ t, ¬ c.isUpper = true) : t.flatMap markedLetter = t :=
  calc t.flatMap markedLetter
      = t.flatMap fun c => [c] :=
        List.flatMap_congr fun c hc => markedLetter_of_not_isUpper (h c hc)
    _ = t := List.flatMap_singleton' t

theorem not_isUpper_of_continuesWord (h : continuesWord c = true) : ¬ c.isUpper = true := by
  have h9 : '9'.toNat = 57 := rfl
  rw [continuesWord, Bool.or_eq_true, Text.isLower_iff, Char.isDigit_iff_toNat] at h
  rw [Text.isUpper_iff]
  omega

/-- What goes on with a word is not changed by making the word small. -/
theorem lowered_of_continuesWord (h : ∀ c ∈ t, continuesWord c = true) : Text.lowered t = t := by
  have hc : ∀ c ∈ t, c.toLower = id c := fun c hc =>
    Text.toLower_of_not_isUpper (not_isUpper_of_continuesWord (h c hc))
  rw [Text.lowered, List.map_congr_left hc, List.map_id]

/-- Words are marked letter by letter. -/
theorem marked_eq_flatMap (t : Text) : marked t = t.flatMap markedLetter := by
  -- Along the words: the letters that go on with one are neither capitals nor changed.
  induction t using marked.induct with
  | case1 => rw [marked, List.flatMap_nil]
  | case2 c cs hc ih =>
    have hword : ∀ d ∈ cs.takeWhile continuesWord, continuesWord d = true := fun d hd =>
      List.mem_takeWhile_imp hd
    have hmarked : (cs.takeWhile continuesWord).flatMap markedLetter =
        Text.lowered (cs.takeWhile continuesWord) := by
      rw [lowered_of_continuesWord hword]
      exact flatMap_markedLetter fun d hd => not_isUpper_of_continuesWord (hword d hd)
    calc marked (c :: cs)
        = '_' :: c.toLower :: Text.lowered (cs.takeWhile continuesWord) ++
            marked (cs.dropWhile continuesWord) := by rw [marked, if_pos hc]; rfl
      _ = markedLetter c ++ ((cs.takeWhile continuesWord).flatMap markedLetter ++
            (cs.dropWhile continuesWord).flatMap markedLetter) := by
          rw [ih, hmarked, markedLetter, if_pos hc]
          rfl
      _ = (c :: cs).flatMap markedLetter := by
          rw [← List.flatMap_append, List.takeWhile_append_dropWhile, List.flatMap_cons]
  | case3 c cs hc ih =>
    rw [marked, if_neg hc, ih, List.flatMap_cons, markedLetter_of_not_isUpper hc]
    rfl

/-! ### The first letter -/

theorem uncapitalized_of_not_beginsCapital (h : beginsCapital t = false) :
    uncapitalized t = t := by
  cases t with
  | nil => rfl
  | cons c cs =>
    have hc : ¬ c.isUpper = true := by simpa [beginsCapital] using h
    rw [uncapitalized, Text.toLower_of_not_isUpper hc]

/-- A first capital differs from its small letter by the mark before it only. -/
theorem append_flatMap_uncapitalized (t : Text) :
    (if beginsCapital t then ['_'] else []) ++ (uncapitalized t).flatMap markedLetter =
      t.flatMap markedLetter := by
  cases hb : beginsCapital t with
  | false =>
    rw [uncapitalized_of_not_beginsCapital hb]
    rfl
  | true =>
    cases t with
    | nil => cases hb
    | cons c cs =>
      have hc : c.isUpper = true := by simpa [beginsCapital] using hb
      rw [uncapitalized, List.flatMap_cons, List.flatMap_cons,
        markedLetter_of_not_isUpper (Text.not_isUpper_toLower c), markedLetter, if_pos hc]
      rfl

/-- So a first capital might have been small as well. -/
theorem snakeCase_eq_flatMap (t : Text) : snakeCase t = (uncapitalized t).flatMap markedLetter := by
  rw [snakeCase, marked_eq_flatMap, ← append_flatMap_uncapitalized]
  by_cases hb : beginsCapital t = true
  · rw [if_pos hb, if_pos hb]
    rfl
  · rw [if_neg hb, if_neg hb]
    rfl

/-- In snake case every capital is made small behind an underscore, and all else stays as it is;
    the first underscore is left out exactly if the identifier begins with a capital. -/
theorem append_snakeCase (t : Text) :
    (if beginsCapital t then ['_'] else []) ++ snakeCase t = t.flatMap markedLetter := by
  rw [snakeCase_eq_flatMap, append_flatMap_uncapitalized]

/-! ### Capitals found again -/

/-- The identifier with the letter behind each underscore made a capital, and without the
    underscores. -/
def camelCase : Text → Text
  | [] => []
  | '_' :: c :: cs => c.toUpper :: camelCase cs
  | c :: cs => c :: camelCase cs

theorem camelCase_cons (h : c ≠ '_') (t : Text) : camelCase (c :: t) = c :: camelCase t := by
  rw [camelCase]
  exact fun _ _ hc => absurd hc h

/-- The capitals are found again, if no underscore was there before. -/
theorem camelCase_flatMap (h : '_' ∉ t) : camelCase (t.flatMap markedLetter) = t := by
  induction t with
  | nil => rfl
  | cons c cs ih =>
    obtain ⟨hne, hcs⟩ := List.ne_and_not_mem_of_not_mem_cons h
    rw [List.flatMap_cons]
    by_cases hc : c.isUpper = true
    · rw [markedLetter, if_pos hc]
      show c.toLower.toUpper :: camelCase (cs.flatMap markedLetter) = c :: cs
      rw [Text.toUpper_toLower hc, ih hcs]
    · rw [markedLetter_of_not_isUpper hc, List.singleton_append, camelCase_cons hne.symm, ih hcs]

theorem toLower_eq_underscore_iff : c.toLower = '_' ↔ c = '_' :=
  Text.toLower_eq_iff (by decide) (by decide)

theorem underscore_mem_uncapitalized_iff : '_' ∈ uncapitalized t ↔ '_' ∈ t := by
  cases t with
  | nil => exact Iff.rfl
  | cons c cs =>
    rw [uncapitalized, List.mem_cons, List.mem_cons, eq_comm, toLower_eq_underscore_iff, eq_comm]

/-- Without underscores, two identifiers are the same in snake case only if they are the same
    but for a first capital; so they are the same if neither begins with a capital. -/
theorem snakeCase_eq_snakeCase_iff (ha : '_' ∉ a) (hb : '_' ∉ b) :
    (snakeCase a = snakeCase b ↔ uncapitalized a = uncapitalized b) ∧
      (beginsCapital a = false → beginsCapital b = false →
        (snakeCase a = snakeCase b ↔ a = b)) := by
  have hiff : snakeCase a = snakeCase b ↔ uncapitalized a = uncapitalized b := by
    rw [snakeCase_eq_flatMap, snakeCase_eq_flatMap]
    refine ⟨fun h => ?_, fun h => by rw [h]⟩
    have hcamel := congrArg camelCase h
    rwa [camelCase_flatMap (mt underscore_mem_uncapitalized_iff.1 ha),
      camelCase_flatMap (mt underscore_mem_uncapitalized_iff.1 hb)] at hcamel
  refine ⟨hiff, fun hca hcb => ?_⟩
  rw [hiff, uncapitalized_of_not_beginsCapital hca, uncapitalized_of_not_beginsCapital hcb]

/-- A first capital makes no difference; a further one does, in an abbreviation as well. -/
theorem snakeCase_eq_snakeCase_iff_staffID :
    '_' ∉ ("StaffID2" : Text) ∧ '_' ∉ ("staffID2" : Text) ∧ '_' ∉ ("staffId2" : Text) ∧
      beginsCapital "staffID2" = false ∧ beginsCapital "staffId2" = false ∧
      snakeCase "StaffID2" = snakeCase "staffID2" ∧
      snakeCase "staffID2" ≠ snakeCase "staffId2" := by
  have hS : '_' ∉ ("StaffID2" : Text) := by decide
  have hID : '_' ∉ ("staffID2" : Text) := by decide
  have hId : '_' ∉ ("staffId2" : Text) := by decide
  have hcID : beginsCapital "staffID2" = false := by decide
  have hcId : beginsCapital "staffId2" = false := by decide
  refine ⟨hS, hID, hId, hcID, hcId, (snakeCase_eq_snakeCase_iff hS hID).1.2 (by decide),
    fun h => ?_⟩
  exact absurd (((snakeCase_eq_snakeCase_iff hID hId).2 hcID hcId).1 h) (by decide)

/-! ### Snake case again -/

/-- No capital is left. -/
theorem not_isUpper_of_mem_snakeCase (h : c ∈ snakeCase t) : ¬ c.isUpper = true := by
  rw [snakeCase_eq_flatMap] at h
  obtain ⟨d, -, hd⟩ := List.mem_flatMap.1 h
  rw [markedLetter] at hd
  split_ifs at hd with hu
  · rcases List.mem_cons.1 hd with rfl | hd
    · decide
    · rw [List.mem_singleton.1 hd]
      exact Text.not_isUpper_toLower d
  · rwa [List.mem_singleton.1 hd]

/-- Without capitals nothing changes. -/
theorem snakeCase_of_not_isUpper (h : ∀ c ∈ t, ¬ c.isUpper = true) : snakeCase t = t := by
  have hb : beginsCapital t = false := by
    cases t with
    | nil => rfl
    | cons c cs => simpa [beginsCapital] using h c List.mem_cons_self
  rw [snakeCase_eq_flatMap, uncapitalized_of_not_beginsCapital hb, flatMap_markedLetter h]

theorem head?_snakeCase (t : Text) : (snakeCase t).head? = t.head?.map Char.toLower := by
  rw [snakeCase_eq_flatMap]
  cases t with
  | nil => rfl
  | cons c cs =>
    rw [uncapitalized, List.flatMap_cons, markedLetter_of_not_isUpper (Text.not_isUpper_toLower c)]
    rfl

/-- Snake case has no capitals, and what has none is in snake case, and nothing else; in
    particular snake case stays as it is. It begins with an underscore exactly if the identifier
    does. -/
theorem snakeCase_snakeCase (t : Text) :
    (snakeCase t).any Char.isUpper = false ∧ snakeCase (snakeCase t) = snakeCase t ∧
      (snakeCase t = t ↔ t.any Char.isUpper = false) ∧
      ((snakeCase t).head? = some '_' ↔ t.head? = some '_') := by
  have hnone (s : Text) : s.any Char.isUpper = false ↔ ∀ c ∈ s, ¬ c.isUpper = true :=
    List.any_eq_false
  have hs : ∀ c ∈ snakeCase t, ¬ c.isUpper = true := fun c => not_isUpper_of_mem_snakeCase
  refine ⟨(hnone _).2 hs, snakeCase_of_not_isUpper hs, ⟨fun h => ?_, fun h => ?_⟩, ?_⟩
  · rw [← h]
    exact (hnone _).2 hs
  · exact snakeCase_of_not_isUpper ((hnone t).1 h)
  · rw [head?_snakeCase]
    cases t with
    | nil => simp
    | cons c cs => simp [toLower_eq_underscore_iff]

end Backoffice.Identifier
