import Mathlib.Data.List.Basic
import Mathlib.Data.List.TakeWhile
import ModuleBundler.Path.Name

namespace ModuleBundler

namespace Text

variable {sep : Char} {as bs w : List Char} {ws : List (List Char)}

theorem sublist_join (sep : Char) (h : w ∈ ws) : w.Sublist (join sep ws) := by
  induction ws with
  | nil => cases h
  | cons v ws ih =>
    cases ws with
    | nil =>
      rw [List.mem_singleton.mp h]
      exact List.Sublist.refl v
    | cons u ws =>
      rw [join_cons (List.cons_ne_nil u ws)]
      rcases List.mem_cons.mp h with rfl | h
      · exact List.sublist_append_left w _
      · exact (ih h).trans ((List.sublist_cons_self sep _).trans (List.sublist_append_right v _))

theorem sublist_of_mem_split (h : w ∈ split sep as) : w.Sublist as := by
  have hjoin := sublist_join sep h
  rw [join_split] at hjoin
  exact hjoin

theorem mem_join {c : Char} (h : c ∈ join sep ws) : c = sep ∨ ∃ w ∈ ws, c ∈ w := by
  induction ws with
  | nil => cases h
  | cons w ws ih =>
    cases ws with
    | nil => exact .inr ⟨w, List.mem_cons_self, h⟩
    | cons v vs =>
      rw [join_cons (List.cons_ne_nil v vs)] at h
      rcases List.mem_append.mp h with h | h
      · exact .inr ⟨w, List.mem_cons_self, h⟩
      · rcases List.mem_cons.mp h with h | h
        · exact .inl h
        · rcases ih h with h | ⟨u, hu, h⟩
          · exact .inl h
          · exact .inr ⟨u, List.mem_cons_of_mem w hu, h⟩

theorem split_join (hne : ws ≠ []) (h : ∀ w ∈ ws, sep ∉ w) : split sep (join sep ws) = ws := by
  induction ws with
  | nil => exact absurd rfl hne
  | cons w ws ih =>
    have hw := h w List.mem_cons_self
    cases ws with
    | nil => exact split_of_not_mem hw
    | cons v ws =>
      rw [join_cons (List.cons_ne_nil v ws), split_append_cons, split_of_not_mem hw,
        ih (List.cons_ne_nil v ws) fun u hu => h u (List.mem_cons_of_mem w hu)]
      rfl

/-- Cutting two texts in a row: the last piece of the one and the first of the other grow
together. -/
theorem split_append (sep : Char) (as bs : List Char) :
    ∃ init u v rest, split sep as = init ++ [u] ∧ split sep bs = v :: rest ∧
      split sep (as ++ bs) = init ++ (u ++ v) :: rest := by
  obtain ⟨v, rest, hbs⟩ := List.exists_cons_of_ne_nil (split_ne_nil sep bs)
  induction as with
  | nil => exact ⟨[], [], v, rest, rfl, hbs, hbs⟩
  | cons c as ih =>
    obtain ⟨init, u, v', rest', has, hbs', happ⟩ := ih
    rw [hbs] at hbs'
    cases hbs'
    by_cases hc : c = sep
    · refine ⟨[] :: init, u, v, rest, ?_, hbs, ?_⟩
      · rw [split, if_pos hc, has]
        rfl
      · rw [List.cons_append, split, if_pos hc, happ]
        rfl
    · cases init with
      | nil =>
        refine ⟨[], c :: u, v, rest, ?_, hbs, ?_⟩
        · rw [split, if_neg hc, has]
          rfl
        · rw [List.cons_append, split, if_neg hc, happ]
          rfl
      | cons w init =>
        refine ⟨(c :: w) :: init, u, v, rest, ?_, hbs, ?_⟩
        · rw [split, if_neg hc, has]
          rfl
        · rw [List.cons_append, split, if_neg hc, happ]
          rfl

theorem split_replicate (sep : Char) (n : Nat) :
    split sep (List.replicate n sep) = List.replicate (n + 1) [] := by
  induction n with
  | zero => rfl
  | succ n ih => rw [List.replicate_succ, split, if_pos rfl, ih, ← List.replicate_succ]

/-- Separators at the end add as many empty pieces. -/
theorem split_append_replicate (sep : Char) (as : List Char) (n : Nat) :
    split sep (as ++ List.replicate n sep) = split sep as ++ List.replicate n [] := by
  cases n with
  | zero => simp
  | succ n => rw [List.replicate_succ, split_append_cons, split_replicate]

theorem length_split_le (sep : Char) (as : List Char) : (split sep as).length ≤ as.length + 1 := by
  induction as with
  | nil => rfl
  | cons c as ih =>
    unfold split
    split
    · simpa using ih
    · split
      · simp
      · rename_i w ws h
        rw [h] at ih
        exact Nat.le_succ_of_le ih

theorem join_concat (sep : Char) (ws : List (List Char)) (w : List Char) :
    join sep (ws ++ [w]) = (if ws = [] then [] else join sep ws ++ [sep]) ++ w := by
  induction ws with
  | nil => rfl
  | cons v ws ih =>
    rw [List.cons_append, join_cons (by simp), ih, if_neg (List.cons_ne_nil v ws)]
    cases ws with
    | nil => simp [join]
    | cons u ws => simp [join_cons (List.cons_ne_nil u ws)]

theorem join_append {vs : List (List Char)} (hws : ws ≠ []) (hvs : vs ≠ []) :
    join sep (ws ++ vs) = join sep ws ++ sep :: join sep vs := by
  induction ws with
  | nil => exact absurd rfl hws
  | cons w ws ih =>
    cases ws with
    | nil => exact join_cons hvs
    | cons v ws =>
      rw [List.cons_append, join_cons (by simp), ih (List.cons_ne_nil v ws),
        join_cons (List.cons_ne_nil v ws), List.append_assoc, List.cons_append]

theorem mem_of_mem_dropWhileEnd {α : Type} {p : α → Bool} {x : α} {xs : List α}
    (h : x ∈ dropWhileEnd p xs) : x ∈ xs := by
  rw [dropWhileEnd, List.mem_reverse] at h
  exact List.mem_reverse.mp ((List.dropWhile_suffix p).mem h)

/-- What is dropped at the end stands there. -/
theorem exists_dropWhileEnd_append {α : Type} (p : α → Bool) (xs : List α) :
    ∃ ys, xs = dropWhileEnd p xs ++ ys ∧ ∀ y ∈ ys, p y = true := by
  refine ⟨(xs.reverse.takeWhile p).reverse, ?_, ?_⟩
  · rw [dropWhileEnd, ← List.reverse_append, List.takeWhile_append_dropWhile, List.reverse_reverse]
  · intro y hy
    exact List.mem_takeWhile_imp (List.mem_reverse.mp hy)

theorem dropWhileEnd_append_of_mem {α : Type} {p : α → Bool} (xs : List α) {ys : List α} {y : α}
    (hy : y ∈ ys) (h : p y = false) :
    dropWhileEnd p (xs ++ ys) = xs ++ dropWhileEnd p ys := by
  have hne : ys.reverse.dropWhile p ≠ [] := by
    intro hnil
    have hall := List.dropWhile_eq_nil_iff.mp hnil y (List.mem_reverse.mpr hy)
    rw [h] at hall
    cases hall
  rw [dropWhileEnd, List.reverse_append, List.dropWhile_append, if_neg (by simpa using hne),
    List.reverse_append, List.reverse_reverse, dropWhileEnd]

theorem dropWhileEnd_eq_self {α : Type} {p : α → Bool} {xs : List α}
    (h : ∀ x ∈ xs.getLast?, p x = false) : dropWhileEnd p xs = xs := by
  rw [dropWhileEnd]
  rcases List.eq_nil_or_concat' xs with rfl | ⟨init, x, rfl⟩
  · rfl
  · have hx : p x = false := h x (by simp)
    simp [hx]

/-- What is left when the end is dropped ends in something that stays. -/
theorem dropWhileEnd_eq_concat {α : Type} {p : α → Bool} {xs : List α}
    (h : dropWhileEnd p xs ≠ []) : ∃ init x, dropWhileEnd p xs = init ++ [x] ∧ p x = false := by
  rw [dropWhileEnd] at h ⊢
  have hhead := List.head?_dropWhile_not p xs.reverse
  cases hrest : xs.reverse.dropWhile p with
  | nil =>
    rw [hrest] at h
    exact absurd rfl h
  | cons x rest =>
    rw [hrest] at hhead
    exact ⟨rest.reverse, x, List.reverse_cons, hhead⟩

end Text

namespace Path

open Text (split dropWhileEnd)

/-- A piece that leads somewhere. -/
structure IsStep (w : List Char) : Prop where
  not_idle : isIdle w = false
  no_slash : '/' ∉ w

theorem IsStep.ne_nil {w : List Char} (h : IsStep w) : w ≠ [] := by
  rintro rfl
  exact absurd h.not_idle (by decide)

/-- Nothing is idle at the end of steps. -/
theorem dropWhileEnd_isIdle {ws : List (List Char)} (h : ∀ w ∈ ws, IsStep w) :
    dropWhileEnd isIdle ws = ws :=
  Text.dropWhileEnd_eq_self fun w hw => (h w (List.mem_of_getLast? hw)).not_idle

/-- Empty pieces at the end lead nowhere. -/
theorem dropWhileEnd_append_replicate (ws : List (List Char)) (n : Nat) :
    dropWhileEnd isIdle (ws ++ List.replicate n []) = dropWhileEnd isIdle ws := by
  refine Text.dropWhileEnd_append isIdle ws _ fun w hw => ?_
  rw [List.eq_of_mem_replicate hw]
  rfl

theorem isIdle_eq_true {w : List Char} : isIdle w = true ↔ w = [] ∨ w = ['.'] := by
  simp [isIdle]

theorem pieces_ne_nil (p : Path) : p.pieces ≠ [] := Text.split_ne_nil '/' p.chars

theorem join_pieces (p : Path) : Text.join '/' p.pieces = p.chars := Text.join_split '/' p.chars

theorem not_mem_of_mem_pieces {p : Path} {w : List Char} (h : w ∈ p.pieces) : '/' ∉ w :=
  Text.not_mem_of_mem_split h

/-- What is in a path is in a piece of it, slashes apart. -/
theorem mem_chars {p : Path} {c : Char} (h : c ∈ p.chars) :
    c = '/' ∨ ∃ w ∈ p.pieces, c ∈ w :=
  Text.mem_join (p.join_pieces.symm ▸ h)

theorem mem_steps {p : Path} {w : List Char} : w ∈ p.steps ↔ w ∈ p.pieces ∧ isIdle w = false := by
  simp [steps]

/-- Pieces that all lead somewhere are steps. -/
theorem filter_steps {ws : List (List Char)} (h : ∀ w ∈ ws, isIdle w = false) :
    ws.filter (!isIdle ·) = ws := by
  rw [List.filter_eq_self]
  intro w hw
  rw [h w hw]
  rfl

theorem filter_idle {ws : List (List Char)} (h : ∀ w ∈ ws, isIdle w = true) :
    ws.filter (!isIdle ·) = [] := by
  rw [List.filter_eq_nil_iff]
  intro w hw
  rw [h w hw]
  exact Bool.false_ne_true

/-- Pieces without slashes are those of the path that they make. -/
theorem pieces_ofChars_join {ws : List (List Char)} (hne : ws ≠ []) (h : ∀ w ∈ ws, '/' ∉ w) :
    (ofChars (Text.join '/' ws)).pieces = ws := by
  rw [pieces, chars_ofChars, Text.split_join hne h]

theorem isStep_of_mem_steps {p : Path} {w : List Char} (h : w ∈ p.steps) : IsStep w :=
  ⟨(mem_steps.mp h).2, not_mem_of_mem_pieces (mem_steps.mp h).1⟩

section Join

variable {dir tail : Path}

theorem join_of_absolute (h : tail.isAbsolute = true) : dir.join tail = tail := by
  rw [Path.join, if_pos h]

/-- A relative path goes on where the directory ends; of an empty directory, or behind a slash at
its end, one empty piece is lost. -/
theorem pieces_join (dir : Path) (h : tail.isAbsolute = false) :
    ∃ init, (dir.join tail).pieces = init ++ tail.pieces ∧
      (dir.pieces = init ∨ dir.pieces = init ++ [[]]) := by
  unfold Path.join
  rw [if_neg (by rw [h]; exact Bool.false_ne_true)]
  by_cases hempty : dir.chars = []
  · refine ⟨[], ?_, .inr ?_⟩
    · rw [if_pos (by simp [hempty]), pieces, chars_ofChars, hempty]
      rfl
    · rw [pieces, hempty]
      rfl
  · cases hslash : dir.endsInSlash with
    | true =>
      rw [endsInSlash, beq_iff_eq, List.getLast?_eq_some_iff] at hslash
      obtain ⟨init, hinit⟩ := hslash
      refine ⟨split '/' init, ?_, .inr ?_⟩
      · rw [if_pos (by simp), pieces, chars_ofChars, hinit, List.append_assoc]
        exact Text.split_append_cons '/' init tail.chars
      · rw [pieces, hinit]
        exact Text.split_append_cons '/' init []
    | false =>
      refine ⟨dir.pieces, ?_, .inl rfl⟩
      rw [if_neg (by simp [hempty]), pieces, chars_ofChars]
      exact Text.split_append_cons '/' dir.chars tail.chars

theorem mem_pieces_join {w : List Char} (h : w ∈ (dir.join tail).pieces) :
    w ∈ dir.pieces ∨ w ∈ tail.pieces := by
  cases ha : tail.isAbsolute with
  | true =>
    rw [join_of_absolute ha] at h
    exact .inr h
  | false =>
    obtain ⟨init, hjoin, hdir⟩ := pieces_join dir ha
    rw [hjoin] at h
    rcases List.mem_append.mp h with h | h
    · left
      rcases hdir with hdir | hdir
      · rw [hdir]
        exact h
      · rw [hdir]
        exact List.mem_append_left _ h
    · exact .inr h

theorem steps_join (h : tail.isAbsolute = false) :
    (dir.join tail).steps = dir.steps ++ tail.steps := by
  obtain ⟨init, hjoin, hdir⟩ := pieces_join dir h
  unfold steps
  rw [hjoin, List.filter_append]
  rcases hdir with hdir | hdir
  · rw [hdir]
  · rw [hdir, List.filter_append]
    simp [isIdle]

theorem isAbsolute_join (h : dir.isAbsolute = true) : (dir.join tail).isAbsolute = true := by
  unfold Path.join
  cases ha : tail.isAbsolute with
  | true => exact ha
  | false =>
    have hne : dir.chars ≠ [] := by
      intro hnil
      simp [isAbsolute, hnil] at h
    rw [if_neg Bool.false_ne_true]
    split_ifs <;> simpa [isAbsolute, List.head?_append_of_ne_nil _ hne] using h

end Join

theorem isAbsolute_normalize {p : Path} (h : p.isAbsolute = true) :
    p.normalize.isAbsolute = true := by
  rw [normalize, h, ofSteps, if_pos rfl, isAbsolute, chars_ofChars]
  rfl

theorem isAbsolute_absolutize {base : Path} (h : base.isAbsolute = true) (p : Path) :
    (p.absolutize base).isAbsolute = true := by
  unfold absolutize
  split_ifs with hp
  · exact isAbsolute_normalize hp
  · exact isAbsolute_normalize (isAbsolute_join h)

section Normal

variable {absolute : Bool} {trail ws : List (List Char)} {w step : List Char}

theorem mem_walk (h : w ∈ walk absolute trail step) : w = step ∨ w ∈ trail := by
  unfold walk at h
  by_cases hup : step = up
  · rw [if_pos hup] at h
    cases trail with
    | nil =>
      cases absolute with
      | true => cases h
      | false => exact .inl ((List.mem_singleton.mp h).trans hup.symm)
    | cons last before =>
      by_cases hlast : last = up
      · simp only [if_pos hlast] at h
        rcases List.mem_cons.mp h with rfl | h
        · exact .inl hup.symm
        · exact .inr h
      · simp only [if_neg hlast] at h
        exact .inr (List.mem_cons_of_mem last h)
  · rw [if_neg hup] at h
    exact List.mem_cons.mp h

theorem mem_foldl_walk (h : w ∈ ws.foldl (walk absolute) trail) : w ∈ ws ∨ w ∈ trail := by
  induction ws generalizing trail with
  | nil => exact .inr h
  | cons step ws ih =>
    rcases ih h with h | h
    · exact .inl (List.mem_cons_of_mem step h)
    · rcases mem_walk h with rfl | h
      · exact .inl List.mem_cons_self
      · exact .inr h

theorem mem_fold (h : w ∈ fold absolute ws) : w ∈ ws := by
  rw [fold, List.mem_reverse] at h
  rcases mem_foldl_walk h with h | h
  · exact h
  · cases h

theorem isStep_of_mem_normalSteps {p : Path} (h : w ∈ p.normalSteps) : IsStep w :=
  isStep_of_mem_steps (mem_fold h)

theorem pieces_ofSteps (h : ∀ w ∈ ws, IsStep w) : (ofSteps absolute ws).pieces =
    if absolute then [] :: (if ws = [] then [[]] else ws) else if ws = [] then [['.']] else ws := by
  have hsplit (hne : ws ≠ []) := Text.split_join hne fun w hw => (h w hw).no_slash
  by_cases hne : ws = []
  · subst hne
    cases absolute <;> rfl
  · cases absolute with
    | true =>
      rw [if_pos rfl, if_neg hne, ofSteps, if_pos rfl, pieces, chars_ofChars, split, if_pos rfl,
        hsplit hne]
    | false =>
      rw [if_neg Bool.false_ne_true, if_neg hne, ofSteps, if_neg Bool.false_ne_true, if_neg hne,
        pieces, chars_ofChars, hsplit hne]

theorem mem_pieces_normalize {p : Path} (h : w ∈ p.normalize.pieces) :
    w ∈ p.steps ∨ isIdle w = true := by
  rw [normalize, pieces_ofSteps fun _ => isStep_of_mem_normalSteps] at h
  split_ifs at h with ha hnil hnil
  · simp only [List.mem_cons, List.not_mem_nil, or_false, or_self] at h
    exact .inr (isIdle_eq_true.mpr (.inl h))
  · rcases List.mem_cons.mp h with h | h
    · exact .inr (isIdle_eq_true.mpr (.inl h))
    · exact .inl (mem_fold h)
  · exact .inr (isIdle_eq_true.mpr (.inr (List.mem_singleton.mp h)))
  · exact .inl (mem_fold h)

theorem chars_ofSteps_concat (absolute : Bool) (ws : List (List Char)) (w : List Char) :
    ∃ start, (ofSteps absolute (ws ++ [w])).chars = start ++ w := by
  cases absolute with
  | true =>
    rw [ofSteps, if_pos rfl, chars_ofChars, Text.join_concat, ← List.cons_append]
    exact ⟨_, rfl⟩
  | false =>
    rw [ofSteps, if_neg Bool.false_ne_true, if_neg (by simp), chars_ofChars, Text.join_concat]
    exact ⟨_, rfl⟩

/-- The last step is the name of a path in normal form, if it leads down. -/
theorem fileName?_ofSteps (h : ∀ w ∈ ws, IsStep w) :
    (ofSteps absolute ws).fileName? = ws.getLast?.filter (· ≠ up) := by
  unfold fileName? spine
  rw [pieces_ofSteps h]
  cases absolute with
  | true =>
    rw [if_pos rfl]
    by_cases hne : ws = []
    · subst hne
      rfl
    · rw [if_neg hne]
      simp only [dropWhileEnd_isIdle h]
      cases ws with
      | nil => exact absurd rfl hne
      | cons v vs => rfl
  | false =>
    rw [if_neg Bool.false_ne_true]
    cases ws with
    | nil => rfl
    | cons v vs =>
      rw [if_neg (List.cons_ne_nil v vs)]
      simp only [dropWhileEnd_isIdle fun w hw => h w (List.mem_cons_of_mem v hw)]
      cases vs with
      | nil =>
        have hidle := (h v List.mem_cons_self).not_idle
        simp only [List.getLast?_singleton, hidle, Bool.false_or, decide_eq_true_eq]
        by_cases hup : v = up
        · rw [if_pos hup, hup]
          rfl
        · rw [if_neg hup, Option.filter_some, if_pos (decide_eq_true hup)]
      | cons u us => rfl

end Normal

theorem dot_mem_of_cutAtDot {name : List Char} (h : (cutAtDot name).2.isSome = true) :
    '.' ∈ name := by
  by_contra hdot
  have hnil : name.reverse.dropWhile (· ≠ '.') = [] := by
    rw [List.dropWhile_eq_nil_iff]
    intro c hc
    rw [decide_eq_true_eq]
    rintro rfl
    exact hdot (List.mem_reverse.mp hc)
  rw [cutAtDot, hnil] at h
  cases h

/-- A normal form with an extension ends in its last name, which has a dot in it. -/
theorem exists_name_of_extension {p : Path} (h : p.normalize.extension?.isSome = true) :
    ∃ start name, p.normalize.chars = start ++ name ∧ name ∈ p.normalize.pieces ∧ '.' ∈ name := by
  have hsteps : ∀ w ∈ p.normalSteps, IsStep w := fun _ => isStep_of_mem_normalSteps
  rw [normalize] at h ⊢
  rw [extension?, fileName?_ofSteps hsteps] at h
  generalize p.isAbsolute = absolute at *
  rcases List.eq_nil_or_concat' p.normalSteps with hnil | ⟨init, name, hconcat⟩
  · rw [hnil] at h
    cases h
  · rw [hconcat] at h hsteps ⊢
    obtain ⟨start, hstart⟩ := chars_ofSteps_concat absolute init name
    refine ⟨start, name, hstart, ?_, ?_⟩
    · rw [pieces_ofSteps hsteps]
      cases absolute <;> simp
    · rw [List.getLast?_concat, Option.filter_some] at h
      split_ifs at h with hup
      · exact dot_mem_of_cutAtDot h
      · cases h

section Parent

variable {p q : Path} {w : List Char}

theorem pieces_of_spine {first : List Char} {others : List (List Char)}
    (h : p.spine = (first, others)) :
    ∃ rest, p.pieces = first :: rest ∧ others = dropWhileEnd isIdle rest := by
  obtain ⟨v, vs, hp⟩ := List.exists_cons_of_ne_nil p.pieces_ne_nil
  rw [spine, hp] at h
  cases h
  exact ⟨vs, hp, rfl⟩

theorem mem_pieces_of_spine {first : List Char} {others : List (List Char)}
    (h : p.spine = (first, others)) (hw : w = first ∨ w ∈ others) : w ∈ p.pieces := by
  obtain ⟨rest, hp, rfl⟩ := pieces_of_spine h
  rw [hp]
  rcases hw with rfl | hw
  · exact List.mem_cons_self
  · exact List.mem_cons_of_mem _ (Text.mem_of_mem_dropWhileEnd hw)

/-- A parent has no piece of its own but empty ones. -/
theorem mem_pieces_parent (hq : p.parent? = some q) (h : w ∈ q.pieces) : w ∈ p.pieces ∨ w = [] := by
  unfold parent? at hq
  split at hq
  · rename_i first hspine
    split_ifs at hq
    cases hq
    exact .inr (List.mem_singleton.mp h)
  · rename_i first v vs hspine
    simp only at hq
    split_ifs at hq with hroot
    · cases hq
      right
      simpa [pieces, root, chars, split] using h
    · cases hq
      left
      have hmem (u : List Char)
          (hu : u ∈ first :: dropWhileEnd isIdle (v :: vs).dropLast) : u ∈ p.pieces := by
        refine mem_pieces_of_spine hspine ?_
        rcases List.mem_cons.mp hu with rfl | hu
        · exact .inl rfl
        · exact .inr (List.dropLast_subset _ (Text.mem_of_mem_dropWhileEnd hu))
      rw [pieces_ofChars_join (List.cons_ne_nil _ _)
        fun u hu => not_mem_of_mem_pieces (hmem u hu)] at h
      exact hmem w h

theorem pieces_of_absolute (h : p.isAbsolute = true) : ∃ ws, p.pieces = [] :: ws := by
  rw [isAbsolute] at h
  cases hchars : p.chars with
  | nil =>
    rw [hchars] at h
    cases h
  | cons c cs =>
    rw [hchars] at h
    obtain rfl : c = '/' := by simpa using h
    exact ⟨split '/' cs, by rw [pieces, hchars, split, if_pos rfl]⟩

/-- The text of a parent is what stands before some slash, but for the root, which is one. -/
theorem exists_chars_of_parent (habsolute : p.isAbsolute = true) (hq : p.parent? = some q) :
    ∃ before after, p.chars = before ++ '/' :: after ∧
      (q.chars = before ∧ q.isAbsolute = true ∨ q = root ∧ before = []) := by
  obtain ⟨ws, hpieces⟩ := pieces_of_absolute habsolute
  obtain ⟨idle, hws, -⟩ := Text.exists_dropWhileEnd_append isIdle ws
  have hspine : p.spine = ([], dropWhileEnd isIdle ws) := by rw [spine, hpieces]
  unfold parent? at hq
  rw [hspine] at hq
  generalize dropWhileEnd isIdle ws = others at hws hq
  cases others with
  | nil => cases hq
  | cons v vs =>
    obtain ⟨dropped, hkept, -⟩ :=
      Text.exists_dropWhileEnd_append isIdle (v :: vs).dropLast
    have hlast := List.dropLast_append_getLast (List.cons_ne_nil v vs)
    simp only [decide_true, Bool.true_and] at hq
    generalize dropWhileEnd isIdle (v :: vs).dropLast = kept at hkept hq
    generalize (v :: vs).getLast _ = last at hlast
    have hchars : p.chars =
        Text.join '/' ([] :: kept) ++ '/' :: Text.join '/' (dropped ++ last :: idle) := by
      rw [← Text.join_append (List.cons_ne_nil _ _) (by simp), ← join_pieces, hpieces, hws, ← hlast,
        hkept]
      simp
    refine ⟨_, _, hchars, ?_⟩
    split_ifs at hq with hnil
    · cases hq
      rw [decide_eq_true_eq] at hnil
      exact .inr ⟨rfl, by rw [hnil]; rfl⟩
    · cases hq
      refine .inl ⟨chars_ofChars _, ?_⟩
      rw [isAbsolute, chars_ofChars, Text.join_cons (by simpa using hnil)]
      rfl

/-- What a path has and every parent takes over, all its ancestors have. -/
theorem forall_mem_ancestors {P : Path → Prop} (hp : P p)
    (hparent : ∀ q r, P q → q.parent? = some r → P r) : ∀ q ∈ p.ancestors, P q := by
  have hgo : ∀ n p, P p → ∀ q ∈ ancestors.go n p, P q := by
    intro n
    induction n with
    | zero =>
      intro p hp q hq
      rw [List.mem_singleton.mp hq]
      exact hp
    | succ n ih =>
      intro p hp q hq
      rw [ancestors.go] at hq
      cases hr : p.parent? with
      | none =>
        rw [hr] at hq
        rw [List.mem_singleton.mp hq]
        exact hp
      | some r =>
        rw [hr] at hq
        rcases List.mem_cons.mp hq with rfl | hq
        · exact hp
        · exact ih r (hparent p r hp hr) q hq
  exact hgo _ p hp

end Parent

end Path

end ModuleBundler
