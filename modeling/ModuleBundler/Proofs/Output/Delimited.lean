import ModuleBundler.Output.Render
import ModuleBundler.Proofs.Ecma.Literal

namespace ModuleBundler

namespace Text

/-- A run of characters of one kind ends where another kind begins. -/
theorem run_append_inj {p : Char → Bool} {v w t u : List Char} (hv : ∀ c ∈ v, p c = true)
    (hw : ∀ c ∈ w, p c = true) (ht : ∀ c ∈ t.head?, p c = false) (hu : ∀ c ∈ u.head?, p c = false)
    (h : v ++ t = w ++ u) : v = w ∧ t = u := by
  have ends {x y : List Char} (hx : ∀ c ∈ x, p c = true) (hy : ∀ c ∈ y.head?, p c = false) :
      (x ++ y).takeWhile p = x := by
    rw [List.takeWhile_append_of_pos hx]
    cases y with
    | nil => simp
    | cons c y => simp [hy c rfl]
  have heq : v = w := by rw [← ends hv ht, h, ends hw hu]
  exact ⟨heq, List.append_cancel_left (heq ▸ h)⟩

theorem intercalate_cons (sep : Char) (w : List Char) (ws : List (List Char)) :
    [sep].intercalate (w :: ws) = w ++ ws.flatMap (sep :: ·) := by
  induction ws generalizing w with
  | nil => simp
  | cons v ws ih =>
    rw [List.intercalate_cons_cons, ih, List.flatMap_cons]
    simp

end Text

namespace Output

open Text (run_append_inj)

/-- The text does not go on with a digit. -/
def NoDigit (t : List Char) : Prop := ∀ c ∈ t.head?, c.isDigit = false

theorem noDigit_cons {c : Char} (t : List Char) (h : c.isDigit = false) : NoDigit (c :: t) := by
  intro d hd
  cases hd
  exact h

theorem noDigit_append {s : List Char} (t : List Char) (h : s.head?.any (!·.isDigit) = true) :
    NoDigit (s ++ t) := by
  cases s with
  | nil => cases h
  | cons c s => exact noDigit_cons (s ++ t) (by simpa using h)

theorem number_append_inj {m n : Nat} {t u : List Char} (ht : NoDigit t) (hu : NoDigit u)
    (h : (toString m).toList ++ t = (toString n).toList ++ u) : m = n ∧ t = u := by
  have digits (k : Nat) : ∀ c ∈ Nat.toDigits 10 k, c.isDigit = true := fun c hc =>
    Nat.isDigit_of_mem_toDigits (by decide) (by decide) hc
  have back (k : Nat) : Nat.ofDigitChars 10 (Nat.toDigits 10 k) 0 = k :=
    Nat.ofDigitChars_toDigits (by decide) (by decide)
  simp only [Nat.toString_eq_repr, Nat.toList_repr] at h
  obtain ⟨hnumber, hrest⟩ := run_append_inj (digits m) (digits n) ht hu h
  exact ⟨by rw [← back m, hnumber, back], hrest⟩

theorem mapKey_append_inj {s s' : String} {t u : List Char}
    (h : (mapKey s).toList ++ t = (mapKey s').toList ++ u) : s = s' ∧ t = u := by
  -- a bracket in front tells the one computed key from all others
  unfold mapKey at h
  split_ifs at h with hs hs'
  · refine ⟨hs.trans hs'.symm, ?_⟩
    rw [hs, hs'] at h
    exact List.append_cancel_left h
  · simp [Ecma.literal, Ecma.literalChars] at h
  · simp [Ecma.literal, Ecma.literalChars] at h
  · simp only [Ecma.literal, String.toList_ofList] at h
    obtain ⟨hchars, hrest⟩ := Ecma.literalChars_append_inj h
    exact ⟨String.toList_inj.mp hchars, hrest⟩

theorem mapEntry_append_inj {e f : String × Nat} {t u : List Char} (ht : NoDigit t)
    (hu : NoDigit u) (h : (mapEntry e).toList ++ t = (mapEntry f).toList ++ u) : e = f ∧ t = u := by
  simp only [mapEntry, String.toList_append, List.append_assoc] at h
  obtain ⟨hkey, h⟩ := mapKey_append_inj h
  obtain ⟨htarget, hrest⟩ := number_append_inj ht hu (List.append_cancel_left h)
  exact ⟨Prod.ext hkey htarget, hrest⟩

/-- What follows the first entry of a map: the others, each behind a comma, and the brace. -/
def mapRest (es : List (String × Nat)) : List Char :=
  es.flatMap (fun e => ',' :: (mapEntry e).toList) ++ ['\x7d']

theorem mapRest_cons (e : String × Nat) (es : List (String × Nat)) :
    mapRest (e :: es) = ',' :: (mapEntry e).toList ++ mapRest es := by
  simp [mapRest]

theorem noDigit_mapRest (es : List (String × Nat)) (t : List Char) : NoDigit (mapRest es ++ t) := by
  cases es with
  | nil => exact noDigit_cons t rfl
  | cons e es =>
    rw [mapRest_cons]
    exact noDigit_cons _ rfl

theorem mapRest_append_inj {es fs : List (String × Nat)} {t u : List Char}
    (h : mapRest es ++ t = mapRest fs ++ u) : es = fs ∧ t = u := by
  induction es generalizing fs with
  | nil =>
    cases fs with
    | nil => exact ⟨rfl, List.append_cancel_left h⟩
    | cons f fs => simp [mapRest] at h
  | cons e es ih =>
    cases fs with
    | nil => simp [mapRest] at h
    | cons f fs =>
      simp only [mapRest_cons, List.cons_append, List.append_assoc, List.cons.injEq,
        true_and] at h
      obtain ⟨rfl, h'⟩ := mapEntry_append_inj (noDigit_mapRest es t) (noDigit_mapRest fs u) h
      obtain ⟨rfl, hrest⟩ := ih h'
      exact ⟨rfl, hrest⟩

theorem toList_mapLiteral (d : DependencyMap) :
    (mapLiteral d).toList = '\x7b' :: match d.entries with
      | [] => ['\x7d']
      | e :: es => (mapEntry e).toList ++ mapRest es := by
  obtain ⟨entries⟩ := d
  have hcomma : ",".toList = [','] := rfl
  cases entries with
  | nil => rfl
  | cons e es =>
    simp [mapLiteral, String.toList_intercalate, hcomma, Text.intercalate_cons, mapRest,
      List.flatMap_map]

theorem mapLiteral_append_inj {d d' : DependencyMap} {t u : List Char}
    (h : (mapLiteral d).toList ++ t = (mapLiteral d').toList ++ u) : d = d' ∧ t = u := by
  obtain ⟨es⟩ := d
  obtain ⟨fs⟩ := d'
  -- the first entry has no comma before it, so it stands apart from the others
  have first (e : String × Nat) (rest : List Char) :
      ∃ c cs, (mapEntry e).toList ++ rest = c :: cs ∧ c ≠ '\x7d' := by
    unfold mapEntry mapKey
    split_ifs
    · exact ⟨'[', _, by simp; rfl, by decide⟩
    · exact ⟨'\x22', _, by simp [Ecma.literal, Ecma.literalChars]; rfl, by decide⟩
  simp only [toList_mapLiteral, List.cons_append, List.cons.injEq, true_and] at h
  cases es with
  | nil =>
    cases fs with
    | nil => exact ⟨rfl, List.append_cancel_left h⟩
    | cons f fs =>
      obtain ⟨c, cs, hc, hne⟩ := first f (mapRest fs ++ u)
      simp only [List.append_assoc, hc, List.cons_append, List.cons.injEq] at h
      exact absurd h.1.symm hne
  | cons e es =>
    cases fs with
    | nil =>
      obtain ⟨c, cs, hc, hne⟩ := first e (mapRest es ++ t)
      simp only [List.append_assoc, hc, List.cons_append, List.cons.injEq] at h
      exact absurd h.1 hne
    | cons f fs =>
      simp only [List.append_assoc] at h
      obtain ⟨rfl, h'⟩ := mapEntry_append_inj (noDigit_mapRest es t) (noDigit_mapRest fs u) h
      obtain ⟨rfl, hrest⟩ := mapRest_append_inj h'
      exact ⟨rfl, hrest⟩

end Output

end ModuleBundler
