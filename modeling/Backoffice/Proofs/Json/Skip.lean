import Backoffice.Proofs.Json.Literals
import Backoffice.Proofs.Json.Numbers

/-!
# Values that are skipped

A value that is not kept is skipped without a limit to its nesting, by a loop over the brackets
that are open. What can be read as a value can be skipped, and skipping stops where reading
does.

* `skipString_of_stringBody`: a string is skipped as far as it is read;
* `Skipping.Leads`: how skipping gets on, however much fuel is left;
* `skip_of_value`: a value is skipped as far as it is read.
-/

namespace Backoffice.Json

open Text (Step Loops)

variable {c : Char} {s body cs mid rest r : Text} {n : Nat} {depth : Nat} {v : Json}

theorem length_skipBlanks_le (cs : Text) : (skipBlanks cs).length ≤ cs.length :=
  (List.dropWhile_sublist _).length_le

theorem length_lt_of_skipBlanks (h : skipBlanks cs = c :: rest) : rest.length < cs.length := by
  have := length_skipBlanks_le cs
  rw [h, List.length_cons] at this
  omega

/-! ### Strings -/

theorem length_hexFour_lt (h : hexFour cs = .ok (n, rest)) : rest.length < cs.length := by
  obtain ⟨ds, ⟨hl, -⟩, rfl⟩ := hexFour_eq_ok_iff.1 h
  rw [List.length_append, hl]
  omega

theorem length_skipStringStep_lt {step : Step Unit} (h : skipStringStep cs = .ok step) :
    (match step with | .done rest => rest | .item () rest => rest).length < cs.length := by
  unfold skipStringStep at h
  split at h
  · cases h
  · split_ifs at h
    · cases h
      exact Nat.lt_succ_self _
    · split at h
      · cases h
      · split_ifs at h
        · cases h
          simp only [List.length_cons]
          omega
        · obtain ⟨⟨n, rest⟩, hx, rfl⟩ := exists_of_map_eq_ok h
          have := length_hexFour_lt hx
          simp only [List.length_cons]
          omega
        · cases h
    · cases h
    · cases h
      exact Nat.lt_succ_self _

theorem skipStringStep_unit {ds : Text} (h : IsUnit ds n) (rest : Text) :
    skipStringStep ('\\' :: 'u' :: (ds ++ rest)) = .ok (.item () rest) := by
  have hr : hexFour (ds ++ rest) = .ok (n, rest) := hexFour_eq_ok_iff.2 ⟨ds, h, rfl⟩
  simp [skipStringStep, shortEscape?, hr, Except.map]

/-- What writes a character is skipped, by two steps if it is a pair. -/
theorem loops_of_writes {p : Text} (h : Writes p c) {us : List Unit}
    (hl : Loops skipStringStep mid us rest) : ∃ us, Loops skipStringStep (p ++ mid) us rest := by
  cases h with
  | plain hq hs hc => exact ⟨() :: us, .item (by simp [skipStringStep, hq, hs, hc]) hl⟩
  | short hd => exact ⟨() :: us, .item (by simp [skipStringStep, hd]) hl⟩
  | number hn =>
    cases hn with
    | unit hds => exact ⟨() :: us, .item (skipStringStep_unit hds mid) hl⟩
    | @pair ds es _ _ _ hds hes =>
      have hes' : Loops skipStringStep ('\\' :: 'u' :: (es ++ mid)) (() :: us) rest :=
        .item (skipStringStep_unit hes mid) hl
      have happ : '\\' :: 'u' :: (ds ++ '\\' :: 'u' :: es) ++ mid =
          '\\' :: 'u' :: (ds ++ '\\' :: 'u' :: (es ++ mid)) := by simp
      rw [happ]
      exact ⟨() :: () :: us, .item (skipStringStep_unit hds _) hes'⟩

/-- What spells a string is skipped up to the quote behind it. -/
theorem loops_of_spells (h : Spells body s) (rest : Text) :
    ∃ us, Loops skipStringStep (body ++ '"' :: rest) us rest := by
  induction h with
  | nil => exact ⟨[], .done rfl⟩
  | cons hp _ ih =>
    obtain ⟨us, hus⟩ := ih
    rw [List.append_assoc]
    exact loops_of_writes hp hus

/-- A string is skipped as far as it is read. -/
theorem skipString_of_stringBody (h : stringBody cs = .ok (s, rest)) :
    skipString cs = .ok rest ∧ rest.length < cs.length := by
  obtain ⟨body, hb, rfl⟩ := stringBody_eq_ok_iff.1 h
  obtain ⟨us, hus⟩ := loops_of_spells hb rest
  have hlen := hus.length_lt (fun h => length_skipStringStep_lt h)
    fun h => length_skipStringStep_lt h
  have hskip := hus.collectAll (⟨.stringEnded, 0⟩ : Fault) (by omega)
  exact ⟨by rw [skipString, hskip]; rfl, by omega⟩

/-! ### Words and numbers -/

theorem word_eq_ok_iff {ws : Text} : word ws cs = .ok rest ↔ cs = ws ++ rest := by
  induction ws generalizing cs with
  | nil => cases cs <;> simp [word]
  | cons w ws ih =>
    cases cs with
    | nil => simp [word, failAt]
    | cons c cs =>
      rw [word]
      split_ifs with hc
      · simp [ih, hc]
      · simp [failPast, hc]

theorem length_word_le {ws : Text} (h : word ws cs = .ok rest) : rest.length ≤ cs.length := by
  rw [word_eq_ok_iff.1 h, List.length_append]
  exact Nat.le_add_left _ _

theorem length_skipDigits_le (cs : Text) : (skipDigits cs).length ≤ cs.length :=
  (List.dropWhile_sublist _).length_le

theorem length_skipExponent_le (h : skipExponent cs = .ok rest) : rest.length ≤ cs.length := by
  unfold skipExponent at h
  simp only at h
  split at h
  · cases h
  next c r hsign =>
    have hr : r.length < cs.length := by
      split at hsign <;> subst hsign <;> simp only [List.length_cons] <;> omega
    split_ifs at h
    · cases h
      have := length_skipDigits_le r
      omega
    · cases h

theorem length_skipNumberTail_le (h : skipNumberTail cs = .ok rest) :
    rest.length ≤ cs.length := by
  unfold skipNumberTail at h
  split at h
  · cases h
    exact Nat.le_refl _
  next c r =>
    rw [List.length_cons]
    have hr := length_skipDigits_le r
    simp only at h
    split_ifs at h
    · cases h
    · split at h
      next e beyond hb =>
        rw [hb, List.length_cons] at hr
        split_ifs at h
        · have := length_skipExponent_le h
          omega
        · cases h
          rw [hb, List.length_cons]
          omega
      · cases h
        exact Nat.zero_le _
    · have := length_skipExponent_le h
      omega
    · cases h
      exact Nat.le_refl _

theorem length_skipNumber_lt (h : skipNumber cs = .ok rest) : rest.length < cs.length := by
  unfold skipNumber at h
  split at h
  · cases h
  next c r =>
    rw [List.length_cons]
    split_ifs at h
    · split at h
      · split_ifs at h
        · cases h
        · exact Nat.lt_succ_of_le (length_skipNumberTail_le h)
      · cases h
        exact Nat.succ_pos _
    · exact Nat.lt_succ_of_le (Nat.le_trans (length_skipNumberTail_le h) (length_skipDigits_le r))
    · cases h

/-! ### Getting on -/

/-- Where skipping has got to: the brackets that are open, what is awaited, and the text. -/
structure Skipping where
  opened : List Enclosure
  next : Awaited
  cs : Text

namespace Skipping

/-- Skips from here on. -/
def run (s : Skipping) (fuel : Nat) : Except Fault Text :=
  skipWithin s.opened s.next fuel s.cs

/-- How many steps are possible at most: two for each character, and the one that only finds
    that a first item comes. -/
def weight (s : Skipping) : Nat :=
  2 * s.cs.length + if s.next = .first then 1 else 0

/-- Skipping gets from `s` to `s'`, by no more steps than the weight goes down. -/
def Leads (s s' : Skipping) : Prop :=
  ∃ k, k + s'.weight ≤ s.weight ∧ ∀ fuel, s.run (k + fuel + 1) = s'.run (fuel + 1)

variable {s s' s'' : Skipping} {e : Enclosure} {o : List Enclosure} {next : Awaited}

theorem Leads.trans (h : Leads s s') (h' : Leads s' s'') : Leads s s'' := by
  obtain ⟨k, hk, hrun⟩ := h
  obtain ⟨l, hl, hrun'⟩ := h'
  refine ⟨k + l, by omega, fun fuel => ?_⟩
  rw [Nat.add_assoc k, hrun, hrun']

theorem Leads.of_step (hw : s'.weight < s.weight)
    (h : ∀ fuel, s.run (fuel + 2) = s'.run (fuel + 1)) : Leads s s' :=
  ⟨1, by omega, fun fuel => by rw [Nat.add_comm 1 fuel, h]⟩

/-! #### One step -/

/-- After a value, skipping goes on in what is open, if anything is. -/
theorem run_more (o : List Enclosure) (rest : Text) (fuel : Nat) :
    (if o.isEmpty then .ok rest else skipWithin o .more (fuel + 1) rest) =
      run ⟨o, .more, rest⟩ (fuel + 1) := by
  cases o <;> rfl

/-- What opens an enclosure. -/
def opening : Enclosure → Char
  | .list => '['
  | .object => '{'

/-- What closes an enclosure. -/
def closing : Enclosure → Char
  | .list => ']'
  | .object => '}'

theorem leads_open (hs : skipBlanks cs = opening e :: r) :
    Leads ⟨o, .value, cs⟩ ⟨e :: o, .first, r⟩ := by
  have := length_lt_of_skipBlanks hs
  refine .of_step (by simp [weight]; omega) fun fuel => ?_
  show skipWithin o .value (fuel + 2) cs = skipWithin (e :: o) .first (fuel + 1) r
  conv_lhs => rw [skipWithin]
  cases e <;> simp only [hs, opening, Char.reduceEq, if_false, if_true]

theorem leads_close (hn : next ≠ .value) (hs : skipBlanks cs = closing e :: rest) :
    Leads ⟨e :: o, next, cs⟩ ⟨o, .more, rest⟩ := by
  have := length_lt_of_skipBlanks hs
  refine .of_step (by simp [weight]; omega) fun fuel => ?_
  rw [← run_more]
  cases next with
  | value => exact absurd rfl hn
  | first | more =>
    cases e <;> simp only [run, skipWithin, hs, closing, if_true]

theorem leads_first {cs' : Text} (hs : skipBlanks cs = c :: r) (hc : c ≠ closing e)
    (he : enter (e :: o) (c :: r) = .ok cs') (hl : cs'.length ≤ cs.length) :
    Leads ⟨e :: o, .first, cs⟩ ⟨e :: o, .value, cs'⟩ := by
  refine .of_step (by simp [weight]; omega) fun fuel => ?_
  show skipWithin (e :: o) .first (fuel + 2) cs = skipWithin (e :: o) .value (fuel + 1) cs'
  conv_lhs => rw [skipWithin.eq_def]
  cases e with
  | list =>
    have hc : c ≠ ']' := hc
    simp only [hs, hc, if_false, if_true, he]
  | object =>
    have hc : c ≠ '}' := hc
    simp only [hs, hc, if_false, if_true, he]

theorem leads_comma {cs' : Text} (hs : skipBlanks cs = ',' :: r)
    (he : enter (e :: o) r = .ok cs') (hl : cs'.length ≤ r.length) :
    Leads ⟨e :: o, .more, cs⟩ ⟨e :: o, .value, cs'⟩ := by
  have := length_lt_of_skipBlanks hs
  refine .of_step (by simp [weight]; omega) fun fuel => ?_
  show skipWithin (e :: o) .more (fuel + 2) cs = skipWithin (e :: o) .value (fuel + 1) cs'
  conv_lhs => rw [skipWithin.eq_def]
  cases e <;> simp only [hs, Char.reduceEq, reduceCtorEq, if_false, if_true, he]

/-- What follows a value that begins with `c` and has no bracket. -/
def afterSingle (c : Char) (r : Text) : Except Fault Text :=
  if c = 'n' then word "ull" r
  else if c = 't' then word "rue" r
  else if c = 'f' then word "alse" r
  else if c = '-' then skipNumber r
  else if c.isDigit then skipNumber (c :: r)
  else if c = '"' then skipString r
  else failPast .valueExpected (c :: r)

/-- A value without a bracket takes one step. -/
theorem leads_single (hs : skipBlanks cs = c :: r) (hl : c ≠ '[') (ho : c ≠ '{')
    (ha : afterSingle c r = .ok rest) (hr : rest.length ≤ r.length) :
    Leads ⟨o, .value, cs⟩ ⟨o, .more, rest⟩ := by
  have := length_lt_of_skipBlanks hs
  refine .of_step (by simp [weight]; omega) fun fuel => ?_
  rw [← run_more]
  show skipWithin o .value (fuel + 2) cs = _
  conv_lhs => rw [skipWithin]
  simp only [hs]
  rw [if_neg hl, if_neg ho, ← afterSingle, ha]

/-! #### A whole value -/

/-- Values nested no deeper than `depth` are skipped as far as they are read, whatever is
    open. -/
def Follows (depth : Nat) : Prop :=
  ∀ {cs v rest}, value depth cs = .ok (v, rest) → ∀ o, Leads ⟨o, .value, cs⟩ ⟨o, .more, rest⟩

theorem leads_loops_nextItem {vs : List Json} (hv : Follows depth)
    (h : Loops (nextItem (value depth)) cs vs rest) :
    Leads ⟨.list :: o, .more, cs⟩ ⟨o, .more, rest⟩ := by
  induction h with
  | done hs => exact leads_close (by decide) (nextItem_eq_done_iff.1 hs)
  | item hs _ ih =>
    obtain ⟨r, d, r', hc, hd, -, hi⟩ := nextItem_eq_item_iff.1 hs
    rw [← hd, value_skipBlanks] at hi
    exact ((leads_comma hc rfl (Nat.le_refl _)).trans (hv hi _)).trans ih

theorem leads_items {vs : List Json} (hv : Follows depth) (h : Items (value depth) cs vs rest) :
    Leads ⟨.list :: o, .first, cs⟩ ⟨o, .more, rest⟩ := by
  cases h with
  | nil hs => exact leads_close (by decide) hs
  | cons hs hc hi hl =>
    have hlen := length_lt_of_skipBlanks hs
    exact ((leads_first (e := .list) hs hc rfl hlen).trans (hv hi _)).trans
      (leads_loops_nextItem hv hl)

/-- A key is skipped as far as it is read. -/
theorem skipKey_of_field {fs : Text × Json} (hs : skipBlanks cs = '"' :: r)
    (h : field (value depth) r = .ok (fs, rest)) :
    ∃ mid, skipKey cs = .ok mid ∧ mid.length ≤ cs.length ∧
      value depth mid = .ok (fs.2, rest) := by
  obtain ⟨r₁, mid, hkey, hcolon, hi⟩ := field_eq_ok_iff.1 h
  obtain ⟨hskip, hlen⟩ := skipString_of_stringBody hkey
  have := length_lt_of_skipBlanks hs
  have := length_lt_of_skipBlanks (colon_eq_ok_iff.1 hcolon)
  refine ⟨mid, ?_, by omega, hi⟩
  rw [skipKey, hs]
  simp only [if_true, hskip, hcolon]

theorem leads_loops_nextField {fs : List (Text × Json)} (hv : Follows depth)
    (h : Loops (nextField (value depth)) cs fs rest) :
    Leads ⟨.object :: o, .more, cs⟩ ⟨o, .more, rest⟩ := by
  induction h with
  | done hs =>
    exact leads_close (by decide) (nextKey_eq_done_iff.1 (fieldAfter_eq_done_iff.1 hs))
  | item hs _ ih =>
    obtain ⟨r, hk, hf⟩ := fieldAfter_eq_item_iff.1 hs
    obtain ⟨r', hc, hq⟩ := nextKey_eq_item_iff.1 hk
    obtain ⟨mid, hkey, hlen, hi⟩ := skipKey_of_field hq hf
    exact ((leads_comma (e := .object) hc hkey hlen).trans (hv hi _)).trans ih

theorem leads_fields {fs : List (Text × Json)} (hv : Follows depth)
    (h : Fields (value depth) cs fs rest) :
    Leads ⟨.object :: o, .first, cs⟩ ⟨o, .more, rest⟩ := by
  cases h with
  | nil hs => exact leads_close (by decide) hs
  | cons hs hf hl =>
    obtain ⟨mid, hkey, hlen, hi⟩ := skipKey_of_field (skipBlanks_of_not_isBlank rfl) hf
    have hle := Nat.le_trans hlen (length_lt_of_skipBlanks hs)
    exact ((leads_first (e := .object) hs (by decide) hkey hle).trans (hv hi _)).trans
      (leads_loops_nextField hv hl)

/-- Skipping follows reading, at any depth. -/
theorem follows (depth : Nat) : Follows depth := by
  -- The reader counts the depth down and the skipper keeps a list of what is open, so the
  -- induction on the depth is for any such list.
  induction depth using Nat.strongRecOn with
  | ind depth ih =>
    intro cs v rest h o
    cases reads_of_value h with
    | null hs hw | boolTrue hs hw | boolFalse hs hw =>
      exact leads_single hs (by decide) (by decide) hw (length_word_le hw)
    | negative hs hn =>
      obtain ⟨hn, -⟩ := numeral_eq_ok hn
      exact leads_single hs (by decide) (by decide) hn (Nat.le_of_lt (length_skipNumber_lt hn))
    | @number _ _ r _ c _ hs hd hn =>
      obtain ⟨hn, -⟩ := numeral_eq_ok hn
      have hne {e : Char} (he : e.isDigit = false) : c ≠ e := Numeral.ne_of_isDigit hd he
      refine leads_single hs (hne rfl) (hne rfl) ?_
        (Nat.le_of_lt_succ (length_skipNumber_lt hn))
      rw [afterSingle, if_neg (hne rfl), if_neg (hne rfl), if_neg (hne rfl), if_neg (hne rfl),
        if_pos hd, hn]
    | string hs hb =>
      obtain ⟨hb, hlen⟩ := skipString_of_stringBody hb
      exact leads_single hs (by decide) (by decide) hb (Nat.le_of_lt hlen)
    | array hs hb =>
      exact (leads_open hs).trans
        (leads_items (ih _ (Nat.lt_succ_self _)) (items_of_arrayBody hb))
    | object hs hb =>
      exact (leads_open hs).trans
        (leads_fields (ih _ (Nat.lt_succ_self _)) (fields_of_objectBody hb))

end Skipping

/-- What can be read as a value can be skipped, and just as far. -/
theorem skip_of_value (h : value depth cs = .ok (v, rest)) : skip cs = .ok rest := by
  obtain ⟨k, hk, hrun⟩ := Skipping.follows depth h []
  have hk : k + 2 * rest.length ≤ 2 * cs.length := hk
  -- There is fuel left when the value ends, and nothing is open.
  obtain ⟨fuel, hfuel⟩ : ∃ fuel, 2 * cs.length + 2 = k + fuel + 1 :=
    ⟨2 * cs.length + 1 - k, by omega⟩
  rw [skip, hfuel]
  exact hrun fuel

/-! ### How much is read -/

theorem length_le_of_value (h : value depth cs = .ok (v, rest)) : rest.length ≤ cs.length := by
  obtain ⟨k, hk, -⟩ := Skipping.follows depth h []
  have hk : k + 2 * rest.length ≤ 2 * cs.length := hk
  omega

theorem length_lt_of_field {f : Text × Json} (h : field (value depth) cs = .ok (f, rest)) :
    rest.length < cs.length := by
  obtain ⟨r, r', hkey, hcolon, hv⟩ := field_eq_ok_iff.1 h
  have := (skipString_of_stringBody hkey).2
  have := length_lt_of_skipBlanks (colon_eq_ok_iff.1 hcolon)
  have := length_le_of_value hv
  omega

/-- There are fewer fields to an object than characters. -/
theorem Fields.length_lt {fs : List (Text × Json)} (h : Fields (value depth) cs fs rest) :
    fs.length < cs.length := by
  have hitem {cs mid : Text} {f : Text × Json}
      (hs : nextField (value depth) cs = .ok (.item f mid)) : mid.length < cs.length := by
    obtain ⟨r, hk, hf⟩ := fieldAfter_eq_item_iff.1 hs
    obtain ⟨r', hc, hq⟩ := nextKey_eq_item_iff.1 hk
    have := length_lt_of_skipBlanks hc
    have := length_lt_of_skipBlanks hq
    have := length_lt_of_field hf
    omega
  have hdone {cs rest : Text} (hs : nextField (value depth) cs = .ok (.done rest)) :
      rest.length < cs.length :=
    length_lt_of_skipBlanks (nextKey_eq_done_iff.1 (fieldAfter_eq_done_iff.1 hs))
  cases h with
  | nil hs => exact Nat.zero_lt_of_lt (length_lt_of_skipBlanks hs)
  | cons hs hf hl =>
    have := length_lt_of_skipBlanks hs
    have := length_lt_of_field hf
    have := hl.length_lt hitem hdone
    rw [List.length_cons]
    omega

end Backoffice.Json
