import Backoffice.Text.Loop

/-!
# Loops that come to their end

What a loop yields does not depend on its fuel as long as there is enough of it. So a
loop is followed step by step, as a derivation (`Loops`), and only at the end is it
checked that the fuel has lasted: there is more of it than characters, and a text that
was printed has at least one for every item.

* `Loops.collectAll`, `Loops.of_collect`: a derivation is what the loop does;
* `collectAll_flatMap`: a text that is printed item by item is read item by item.
-/

namespace Backoffice.Text

variable {ε α : Type} {step : Text → Except ε (Step α)} {cs mid rest : Text} {as : List α}

/-- From the text `cs`, the steps yield the items `as` and are done before `rest`. -/
inductive Loops (step : Text → Except ε (Step α)) : Text → List α → Text → Prop
  | done {cs rest : Text} : step cs = .ok (.done rest) → Loops step cs [] rest
  | item {cs mid rest : Text} {a : α} {as : List α} :
      step cs = .ok (.item a mid) → Loops step mid as rest → Loops step cs (a :: as) rest

/-- A derivation is what the loop does, if there is more fuel than items. -/
theorem Loops.collect {ended : ε} {fuel : Nat} (h : Loops step cs as rest)
    (hf : as.length < fuel) : collect ended step fuel cs = .ok (as, rest) := by
  -- The step that is done takes fuel as well, so there must be more of it than items.
  induction h generalizing fuel with
  | done hs =>
    obtain ⟨fuel, rfl⟩ := Nat.exists_eq_succ_of_ne_zero (Nat.ne_of_gt hf)
    rw [Text.collect, hs]
  | item hs _ ih =>
    obtain ⟨fuel, rfl⟩ := Nat.exists_eq_succ_of_ne_zero (Nat.ne_zero_of_lt hf)
    rw [Text.collect, hs]
    simp only
    rw [ih (Nat.lt_of_succ_lt_succ hf)]

/-- The fuel of a whole text lasts for as many items as it has characters. -/
theorem Loops.collectAll (ended : ε) (h : Loops step cs as rest) (hl : as.length ≤ cs.length) :
    collectAll ended step cs = .ok (as, rest) :=
  h.collect (Nat.lt_succ_of_le hl)

/-- What a loop does has a derivation, whatever its fuel. -/
theorem Loops.of_collect {ended : ε} {fuel : Nat}
    (h : Text.collect ended step fuel cs = .ok (as, rest)) : Loops step cs as rest := by
  induction fuel generalizing cs as with
  | zero => cases h
  | succ fuel ih =>
    rw [Text.collect] at h
    cases hs : step cs with
    | error e => simp [hs] at h
    | ok s =>
      cases s with
      | done r =>
        simp only [hs, Except.ok.injEq, Prod.mk.injEq] at h
        obtain ⟨rfl, rfl⟩ := h
        exact .done hs
      | item a mid =>
        cases hc : Text.collect ended step fuel mid with
        | error e => simp [hs, hc] at h
        | ok p =>
          simp only [hs, hc, Except.ok.injEq, Prod.mk.injEq] at h
          obtain ⟨rfl, rfl⟩ := h
          exact .item hs (ih hc)

/-- A loop depends on a text only through its first step. -/
theorem Loops.of_step_eq (hs : step mid = step cs) (h : Loops step cs as rest) :
    Loops step mid as rest := by
  cases h with
  | done hd => exact .done (hs.trans hd)
  | item hi hr => exact .item (hs.trans hi) hr

/-- If every step reads something, there are no more items than characters. -/
theorem Loops.length_lt
    (hi : ∀ {cs mid a}, step cs = .ok (.item a mid) → mid.length < cs.length)
    (hd : ∀ {cs rest}, step cs = .ok (.done rest) → rest.length < cs.length)
    (h : Loops step cs as rest) : as.length + rest.length < cs.length := by
  induction h with
  | done hs =>
    rw [List.length_nil, Nat.zero_add]
    exact hd hs
  | item hs _ ih =>
    have := hi hs
    rw [List.length_cons]
    omega

/-! ### Texts printed item by item -/

variable {β : Type} {print : β → Text} {f : β → α} {bs : List β} {P : Text → Prop}

/-- Items that are read before texts of a kind are read one after the other, if each of them
    and what ends the loop are texts of this kind. -/
theorem Loops.of_flatMap (hP : ∀ b ∈ bs, ∀ mid, P (print b ++ mid)) (hc : P cs)
    (hi : ∀ b ∈ bs, ∀ mid, P mid → step (print b ++ mid) = .ok (.item (f b) mid))
    (hd : step cs = .ok (.done rest)) : Loops step (bs.flatMap print ++ cs) (bs.map f) rest := by
  induction bs with
  | nil => exact .done hd
  | cons b bs ih =>
    have hP' : ∀ d ∈ bs, ∀ mid, P (print d ++ mid) := fun d hd =>
      hP d (List.mem_cons_of_mem _ hd)
    have hmid : P (bs.flatMap print ++ cs) := by
      cases bs with
      | nil => exact hc
      | cons d bs =>
        rw [List.flatMap_cons, List.append_assoc]
        exact hP' d List.mem_cons_self _
    rw [List.flatMap_cons, List.append_assoc]
    exact .item (hi b List.mem_cons_self _ hmid)
      (ih hP' fun d hd => hi d (List.mem_cons_of_mem _ hd))

theorem length_le_flatMap (hp : ∀ b ∈ bs, print b ≠ []) :
    bs.length ≤ (bs.flatMap print).length := by
  induction bs with
  | nil => exact Nat.le_refl _
  | cons b bs ih =>
    have hb : 0 < (print b).length := List.length_pos_iff.2 (hp b List.mem_cons_self)
    have := ih fun d hd => hp d (List.mem_cons_of_mem _ hd)
    rw [List.flatMap_cons, List.length_append, List.length_cons]
    omega

/-- A text that is printed item by item, none of them as nothing, is read item by item, even
    if an item is read only before texts of a kind, as long as all that follows is of it. -/
theorem collectAll_flatMap_of (ended : ε) (hp : ∀ b ∈ bs, print b ≠ [])
    (hP : ∀ b ∈ bs, ∀ mid, P (print b ++ mid)) (hc : P cs)
    (hi : ∀ b ∈ bs, ∀ mid, P mid → step (print b ++ mid) = .ok (.item (f b) mid))
    (hd : step cs = .ok (.done rest)) :
    Text.collectAll ended step (bs.flatMap print ++ cs) = .ok (bs.map f, rest) := by
  refine (Loops.of_flatMap hP hc hi hd).collectAll ended ?_
  rw [List.length_map, List.length_append]
  exact Nat.le_trans (length_le_flatMap hp) (Nat.le_add_right _ _)

/-- A text that is printed item by item, none of them as nothing, is read item by item. -/
theorem collectAll_flatMap (ended : ε) (hp : ∀ b ∈ bs, print b ≠ [])
    (hi : ∀ b ∈ bs, ∀ mid, step (print b ++ mid) = .ok (.item (f b) mid))
    (hd : step cs = .ok (.done rest)) :
    Text.collectAll ended step (bs.flatMap print ++ cs) = .ok (bs.map f, rest) :=
  collectAll_flatMap_of (P := fun _ => True) ended hp (fun _ _ _ => trivial) trivial
    (fun b hb mid _ => hi b hb mid) hd

end Backoffice.Text
