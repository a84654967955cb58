import Backoffice.Proofs.Settings.Changes
import Backoffice.Proofs.Text.Pieces
import Backoffice.Proofs.Text.Trimming

/-!
# Lists of types

A text lists types with commas between them. Each is trimmed, then freed of the dots before it,
then made small, and those of which nothing is left do not count. A type in a list is therefore
not empty, has no comma and no capital, does not begin with a dot and does not end with a blank.
It may begin with a blank, though, if the blank stood behind the dots when the piece was trimmed;
and such a type is not found again if the list is read once more. All other types are.

* `Listed`: how a type in a list looks;
* `listed_of_mem_extensions`: the types that are read from a text look so;
* `extensions_joined_iff`: which lists are read as they were;
* `set_joined_iff`: which lists are accepted and stay the same when they are set again.
-/

namespace Backoffice.Settings

open Text

variable {s changed : Settings} {e p t : Text} {es : List Text}

/-! ### One type -/

/-- A type as it stands in a list. -/
structure Listed (e : Text) : Prop where
  ne_nil : e ≠ []
  no_comma : ',' ∉ e
  no_dot : e.head? ≠ some '.'
  no_capital : ∀ c ∈ e, ¬ c.isUpper = true
  ends : ∀ c ∈ e.getLast?, isBlank c = false

/-- What is left of a piece without a comma is a type as it stands in a list. -/
theorem listed_extension (hp : ',' ∉ p) (h : extension p ≠ []) : Listed (extension p) where
  ne_nil := h
  no_comma := by
    rw [extension, mem_lowered_iff (by decide) (by decide)]
    exact fun hc => hp (mem_of_mem_trim ((List.dropWhile_suffix _).mem hc))
  no_dot := by
    intro hd
    obtain ⟨c, hc, hl⟩ := Option.map_eq_some_iff.1 (List.head?_map.symm.trans hd)
    obtain rfl := (toLower_eq_iff (by decide) (by decide)).1 hl
    have hn := List.head?_dropWhile_not (fun c => decide (c = '.')) (trim p)
    rw [hc] at hn
    simp at hn
  no_capital := fun _ hc => not_isUpper_of_mem_lowered hc
  ends := by
    -- The piece ends as it did before the dots were dropped.
    intro c hc
    obtain ⟨d, hd, rfl⟩ := Option.map_eq_some_iff.1 (List.getLast?_map.symm.trans hc)
    obtain ⟨dots, hdots⟩ := List.dropWhile_suffix (l := trim p) fun c => decide (c = '.')
    rw [isBlank_toLower]
    refine (trims_trim p).ends d ?_
    rw [← hdots, List.getLast?_append, hd]
    rfl

theorem Listed.dropWhile_eq (h : Listed e) : e.dropWhile (· = '.') = e := by
  cases e with
  | nil => rfl
  | cons c cs => exact List.dropWhile_cons_of_neg (by simpa using h.no_dot)

/-- A type in a list is read as it is, unless it begins with a blank. -/
theorem extension_eq_self_iff (h : Listed e) :
    extension e = e ↔ ∀ c ∈ e.head?, isBlank c = false := by
  constructor
  · intro he
    -- If anything were cut off, the text would be shorter.
    have hle : e.length ≤ (trim e).length :=
      calc e.length = (extension e).length := by rw [he]
        _ = ((trim e).dropWhile (· = '.')).length := List.length_map _
        _ ≤ (trim e).length := List.length_dropWhile_le _ _
    obtain ⟨before, after, -, -, heq⟩ := (trims_trim e).between
    have hlen := congrArg List.length heq
    simp only [List.length_append] at hlen
    obtain rfl : before = [] := List.length_eq_zero_iff.1 (by omega)
    obtain rfl : after = [] := List.length_eq_zero_iff.1 (by omega)
    rw [List.nil_append, List.append_nil] at heq
    rw [heq]
    exact (trims_trim e).begins
  · intro hb
    rw [extension, trim_eq_iff.2 (trims_self hb h.ends), h.dropWhile_eq,
      lowered_eq_self h.no_capital]

/-- A dot before a type keeps the blanks that it begins with. -/
theorem extension_dot_cons (h : Listed e) : extension ('.' :: e) = e := by
  have hlast : ('.' :: e).getLast? = e.getLast? := List.getLast?_cons_of_ne_nil h.ne_nil
  have htrim : trim ('.' :: e) = '.' :: e := by
    refine trim_eq_iff.2 (trims_self (fun c hc => by cases hc; rfl) ?_)
    rw [hlast]
    exact h.ends
  rw [extension, htrim, List.dropWhile_cons_of_pos (by rfl), h.dropWhile_eq,
    lowered_eq_self h.no_capital]

/-! ### Dots that stand apart -/

/-- A piece with dots before its type, and blanks between the dots and the type. -/
def Detached (p : Text) : Prop :=
  ∃ before dots b rest, p = before ++ dots ++ b :: rest ∧ AllBlank before ∧
    (dots ≠ [] ∧ ∀ c ∈ dots, c = '.') ∧ isBlank b = true ∧ ¬ AllBlank rest

/-- Behind the dots the type goes on to the end of the piece, but for the blanks there. -/
theorem extension_dots {before dots rest : Text} {b : Char} (hbefore : AllBlank before)
    (hdots : dots ≠ [] ∧ ∀ c ∈ dots, c = '.') (hb : isBlank b = true) (hrest : ¬ AllBlank rest) :
    extension (before ++ dots ++ b :: rest) = lowered (b :: trimEnd rest) := by
  obtain ⟨hne, hdots⟩ := hdots
  obtain ⟨d, dots, rfl⟩ := List.exists_cons_of_ne_nil hne
  obtain rfl := hdots d List.mem_cons_self
  have hstart : trimStart (before ++ ('.' :: dots) ++ b :: rest) = '.' :: dots ++ [b] ++ rest := by
    rw [List.append_assoc, trimStart_append hbefore, List.append_assoc]
    exact trimStart_eq_self fun c hc => by cases hc; rfl
  have hbdot : b ≠ '.' := by
    rintro rfl
    exact absurd hb (by decide)
  rw [extension, trim, hstart, trimEnd_append_of_not_allBlank hrest, List.append_assoc,
    List.dropWhile_append_of_pos (by simpa using hdots), List.singleton_append,
    List.dropWhile_cons_of_neg (by simpa using hbdot)]

/-- A type that begins with a blank was behind dots. -/
theorem detached_of_isBlank {d : Char} (hd : d ∈ (extension p).head?) (hblank : isBlank d = true) :
    Detached p := by
  obtain ⟨b, hb, rfl⟩ := Option.map_eq_some_iff.1 (List.head?_map.symm.trans hd)
  rw [isBlank_toLower] at hblank
  obtain ⟨r, hr⟩ := List.head?_eq_some_iff.1 hb
  have htrim := List.takeWhile_append_dropWhile (p := fun c => decide (c = '.')) (l := trim p)
  rw [hr] at htrim
  obtain ⟨⟨before, after, hbefore, -, hp⟩, hbegins, hends⟩ := trims_trim p
  refine ⟨before, (trim p).takeWhile fun c => decide (c = '.'), b, r ++ after, ?_, hbefore,
    ⟨fun hnil => ?_, fun c hc => by simpa using List.mem_takeWhile_imp hc⟩, hblank, fun hall => ?_⟩
  · rw [List.append_assoc, ← List.cons_append, ← List.append_assoc _ (b :: r), htrim,
      ← List.append_assoc]
    exact hp
  · -- Without a dot before it, the blank would have been cut off.
    rw [hnil, List.nil_append] at htrim
    rw [← htrim] at hbegins
    exact absurd hblank (by simp [hbegins b rfl])
  · -- And so it would without anything behind it.
    have hlast : ∀ c ∈ (b :: r).getLast?, isBlank c = false := fun c hc => by
      refine hends c ?_
      rw [← htrim, List.getLast?_append, hc]
      rfl
    have hbl : AllBlank (b :: r) :=
      List.forall_mem_cons.2 ⟨hblank, fun c hc => hall c (List.mem_append_left _ hc)⟩
    have hc := List.getLast?_eq_some_getLast (List.cons_ne_nil b r)
    exact absurd (hbl _ (List.mem_of_getLast? hc)) (by simp [hlast _ hc])

/-- The pieces with detached types are those of which a type is read that begins with a
    blank. -/
theorem detached_iff : Detached p ↔ ∃ b ∈ (extension p).head?, isBlank b = true := by
  constructor
  · rintro ⟨before, dots, b, rest, rfl, hbefore, hdots, hb, hrest⟩
    rw [extension_dots hbefore hdots hb hrest]
    exact ⟨b.toLower, rfl, by rw [isBlank_toLower, hb]⟩
  · rintro ⟨b, hb, hblank⟩
    exact detached_of_isBlank hb hblank

instance : DecidablePred Detached :=
  fun p => decidable_of_iff ((extension p).head?.any isBlank = true)
    ((Option.any_eq_true _ _).trans detached_iff.symm)

/-! ### All types of a list -/

theorem mem_extensions_iff : e ∈ extensions t ↔ ∃ p ∈ pieces ',' t, extension p = e ∧ e ≠ [] := by
  simp only [extensions, List.mem_filter, List.mem_map, Bool.not_eq_true', List.isEmpty_eq_false_iff]
  exact ⟨fun ⟨⟨p, hp, he⟩, hne⟩ => ⟨p, hp, he, hne⟩, fun ⟨p, hp, he, hne⟩ => ⟨⟨p, hp, he⟩, hne⟩⟩

/-- The types that are read from a text look as they should. -/
theorem listed_of_mem_extensions (h : e ∈ extensions t) : Listed e := by
  obtain ⟨p, hp, rfl, hne⟩ := mem_extensions_iff.1 h
  exact listed_extension (not_mem_of_mem_pieces hp) hne

/-- Types that are joined are read one by one. -/
theorem extensions_joined (hne : es ≠ []) (h : ∀ e ∈ es, Listed e) :
    extensions (joined [','] es) = (es.map extension).filter fun e => !e.isEmpty := by
  rw [extensions, pieces_joined_of_not_mem hne fun e he => (h e he).no_comma]

/-- A list is read as it was if none of its types begins with a blank. -/
theorem extensions_joined_eq_self_iff (hne : es ≠ []) (h : ∀ e ∈ es, Listed e) :
    extensions (joined [','] es) = es ↔ ∀ e ∈ es, ∀ c ∈ e.head?, isBlank c = false := by
  have hself : es.map extension = es ↔ ∀ e ∈ es, ∀ c ∈ e.head?, isBlank c = false := by
    calc es.map extension = es ↔ es.map extension = es.map id := by rw [List.map_id]
      _ ↔ ∀ e ∈ es, extension e = e := List.map_inj_left
      _ ↔ _ := forall₂_congr fun e he => extension_eq_self_iff (h e he)
  rw [extensions_joined hne h, ← hself]
  constructor
  · intro heq
    -- None was left out, or there would be fewer.
    have hall : ∀ e ∈ es.map extension, (!e.isEmpty) = true :=
      List.length_filter_eq_length_iff.1 (by rw [heq, List.length_map])
    rwa [List.filter_eq_self.2 hall] at heq
  · intro heq
    rw [heq]
    exact List.filter_eq_self.2 fun e he => by simpa using (h e he).ne_nil

/-- A list that was read is read as it was if no type was detached from its dots. -/
theorem extensions_joined_iff (h : extensions t ≠ []) :
    extensions (joined [','] (extensions t)) = extensions t ↔ ∀ p ∈ pieces ',' t, ¬ Detached p := by
  rw [extensions_joined_eq_self_iff h fun e => listed_of_mem_extensions]
  constructor
  · intro hb p hp hd
    obtain ⟨b, hbe, hblank⟩ := detached_iff.1 hd
    have hne : extension p ≠ [] := fun hn => by simp [hn] at hbe
    have hmem := mem_extensions_iff.2 ⟨p, hp, rfl, hne⟩
    exact absurd hblank (by simp [hb _ hmem b hbe])
  · intro hd e he c hc
    obtain ⟨p, hp, rfl, -⟩ := mem_extensions_iff.1 he
    by_contra hblank
    exact hd p hp (detached_of_isBlank hc (by simpa using hblank))

/-! ### Lists that are set -/

theorem set_allowedExtensions_eq_ok_iff :
    s.set Key.allowedExtensions.name t = .ok changed ↔
      extensions t ≠ [] ∧ s.put .allowedExtensions (extensions t) = changed := by
  have hset : s.set Key.allowedExtensions.name t = s.setKey .allowedExtensions t := by
    rw [set, Key.ofName?_name]
  rw [hset, setKey_eq_ok_iff, Key.value?]
  by_cases h : extensions t = [] <;> simp [h]

/-- A list of types that was accepted is accepted again as it is shown, and is the same list
    then, exactly if none of its types stood behind dots with blanks between. -/
theorem set_joined_iff (later : Settings) (h : s.set Key.allowedExtensions.name t = .ok changed)
    (hes : changed.chosenExtensions = some es) :
    (∃ again, later.set Key.allowedExtensions.name (joined "," es) = .ok again ∧
        again.chosenExtensions = some es) ↔
      ∀ p ∈ pieces ',' t, ¬ Detached p := by
  obtain ⟨hne, rfl⟩ := set_allowedExtensions_eq_ok_iff.1 h
  obtain rfl := Option.some.inj hes
  rw [← extensions_joined_iff hne]
  constructor
  · rintro ⟨again, hagain, hsame⟩
    obtain ⟨-, rfl⟩ := set_allowedExtensions_eq_ok_iff.1 hagain
    exact Option.some.inj hsame
  · intro heq
    have hne' : extensions (joined "," (extensions t)) ≠ [] := fun hn => hne (heq.symm.trans hn)
    exact ⟨_, set_allowedExtensions_eq_ok_iff.2 ⟨hne', rfl⟩, congrArg some heq⟩

/-- Blanks of all kinds, capitals, several dots and an empty piece do no harm. -/
theorem set_joined_iff_archive :
    let types : List Text := ["pdf", "png", "tar.gz"]
    let typed : Text := "\u3000..PDF ,png,,\tTar.GZ"
    blank.set Key.allowedExtensions.name typed = .ok ⟨none, none, some types⟩ ∧
      ∃ again, blank.set Key.allowedExtensions.name (joined "," types) = .ok again ∧
        again.chosenExtensions = some types := by
  intro types typed
  have hset : blank.set Key.allowedExtensions.name typed = .ok ⟨none, none, some types⟩ := rfl
  have htogether : ∀ p ∈ pieces ',' typed, ¬ Detached p := by decide
  exact ⟨hset, (set_joined_iff blank hset rfl).2 htogether⟩

/-- Behind a dot and a blank a type begins with the blank. It is another type when it is set
    again, and if it is a dot, it is refused. -/
theorem set_joined_detached :
    let listed : Settings := ⟨none, none, some [" pdf"]⟩
    let dotted : Settings := ⟨none, none, some [" ."]⟩
    (blank.set Key.allowedExtensions.name ". pdf" = .ok listed ∧
      listed.set Key.allowedExtensions.name (joined "," [" pdf"]) =
        .ok ⟨none, none, some ["pdf"]⟩) ∧
    blank.set Key.allowedExtensions.name ". ." = .ok dotted ∧
      dotted.set Key.allowedExtensions.name (joined "," [" ."]) =
        .error (.invalidValue Key.allowedExtensions.name " ." "at least one extension is required") :=
  ⟨⟨rfl, rfl⟩, rfl, rfl⟩

end Backoffice.Settings
