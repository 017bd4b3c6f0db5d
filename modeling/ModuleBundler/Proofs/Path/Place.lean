import ModuleBundler.Proofs.Path.Steps

namespace ModuleBundler

namespace Path

open Text (dropWhileEnd)

/-- A piece that leads down. -/
structure IsName (w : List Char) : Prop extends IsStep w where
  not_up : w ≠ up

namespace IsName

variable {w e : List Char}

/-- A name stays one with anything behind it but a slash. -/
theorem append (h : IsName w) (he : '/' ∉ e) : IsName (w ++ e) := by
  obtain ⟨c, cs, rfl⟩ := List.exists_cons_of_ne_nil h.ne_nil
  refine ⟨⟨?_, ?_⟩, ?_⟩
  · rw [← Bool.not_eq_true, isIdle_eq_true]
    rintro (hnil | hdot)
    · cases hnil
    · obtain ⟨rfl, htail⟩ := List.cons.inj hdot
      obtain ⟨rfl, -⟩ := List.append_eq_nil_iff.mp htail
      exact absurd h.not_idle (by decide)
  · intro hslash
    rcases List.mem_append.mp hslash with hslash | hslash
    · exact h.no_slash hslash
    · exact he hslash
  · intro hup
    obtain ⟨rfl, htail⟩ := List.cons.inj hup
    rcases List.append_eq_singleton_iff.mp htail with ⟨rfl, -⟩ | ⟨rfl, -⟩
    · exact absurd h.not_idle (by decide)
    · exact h.not_up rfl

end IsName

theorem isName_index : IsName "index".toList :=
  ⟨⟨by decide, by decide⟩, by decide⟩

/-- A relative path that is made of names. -/
def Plain (p : Path) : Prop := ∀ w ∈ p.pieces, isIdle w = false ∧ w ≠ up

theorem pieces_name {name : String} (h : IsName name.toList) :
    (Path.mk name).pieces = [name.toList] :=
  Text.split_of_not_mem h.no_slash

theorem plain_name {name : String} (h : IsName name.toList) : Plain ⟨name⟩ := by
  intro w hw
  rw [pieces_name h, List.mem_singleton] at hw
  rw [hw]
  exact ⟨h.not_idle, h.not_up⟩

theorem steps_name {name : String} (h : IsName name.toList) :
    (Path.mk name).steps = [name.toList] := by
  rw [steps, pieces_name h, filter_steps (List.forall_mem_singleton.mpr h.not_idle)]

theorem Plain.isName {p : Path} (h : p.Plain) : ∀ w ∈ p.pieces, IsName w :=
  fun w hw => ⟨⟨(h w hw).1, not_mem_of_mem_pieces hw⟩, (h w hw).2⟩

theorem Plain.relative {p : Path} (h : p.Plain) : p.isAbsolute = false := by
  unfold isAbsolute
  cases hchars : p.chars with
  | nil => rfl
  | cons c cs =>
    have hc : c ≠ '/' := by
      rintro rfl
      have hfirst : [] ∈ p.pieces := by
        rw [pieces, hchars, Text.split, if_pos rfl]
        exact List.mem_cons_self
      exact absurd (h [] hfirst).1 (by decide)
    simpa using hc

/-- Names are the pieces of a path. -/
theorem exists_plain {ws : List (List Char)} (hws : ws ≠ []) (h : ∀ w ∈ ws, IsName w) :
    ∃ p : Path, p.Plain ∧ p.pieces = ws := by
  have hpieces : (ofSteps false ws).pieces = ws := by
    rw [pieces_ofSteps fun w hw => (h w hw).toIsStep, if_neg Bool.false_ne_true, if_neg hws]
  refine ⟨ofSteps false ws, ?_, hpieces⟩
  intro w hw
  rw [hpieces] at hw
  exact ⟨(h w hw).not_idle, (h w hw).not_up⟩

/-- The absolute path of the given names. -/
def place (ws : List (List Char)) : Path := ofSteps true ws

section Place

variable {ws vs : List (List Char)} {w e : List Char} {p : Path}

theorem chars_place (ws : List (List Char)) : (place ws).chars = '/' :: Text.join '/' ws :=
  chars_ofChars _

theorem isAbsolute_place (ws : List (List Char)) : (place ws).isAbsolute = true := by
  rw [isAbsolute, chars_place]
  rfl

theorem steps_place (h : ∀ w ∈ ws, IsName w) : (place ws).steps = ws := by
  have hkeep : ws.filter (!isIdle ·) = ws := filter_steps fun w hw => (h w hw).not_idle
  rw [steps, place, pieces_ofSteps fun w hw => (h w hw).toIsStep, if_pos rfl]
  by_cases hws : ws = []
  · rw [if_pos hws, hws]
    rfl
  · rw [if_neg hws, List.filter_cons_of_neg (by decide), hkeep]

theorem walk_of_ne_up {absolute : Bool} {step : List Char} (h : step ≠ up)
    (trail : List (List Char)) : walk absolute trail step = step :: trail := by
  unfold walk
  rw [if_neg h]

theorem walk_up_cons {absolute : Bool} {last : List Char} (h : last ≠ up)
    (trail : List (List Char)) : walk absolute (last :: trail) up = trail := by
  unfold walk
  rw [if_pos rfl]
  exact if_neg h

/-- Names lead down, one after the other. -/
theorem foldl_walk_names {absolute : Bool} (trail : List (List Char)) (h : ∀ w ∈ ws, IsName w) :
    ws.foldl (walk absolute) trail = ws.reverse ++ trail := by
  induction ws generalizing trail with
  | nil => rfl
  | cons w ws ih =>
    rw [List.foldl_cons, walk_of_ne_up (h w List.mem_cons_self).not_up,
      ih _ fun v hv => h v (List.mem_cons_of_mem w hv), List.reverse_cons, List.append_assoc]
    rfl

/-- From the root, no way up is left over. -/
theorem isName_of_mem_walk {trail : List (List Char)} {step v : List Char} (hstep : IsStep step)
    (htrail : ∀ v ∈ trail, IsName v) (h : v ∈ walk true trail step) : IsName v := by
  by_cases hup : step = up
  · subst hup
    cases trail with
    | nil => cases h
    | cons last before =>
      rw [walk_up_cons (htrail last List.mem_cons_self).not_up] at h
      exact htrail v (List.mem_cons_of_mem last h)
  · rw [walk_of_ne_up hup] at h
    rcases List.mem_cons.mp h with rfl | h
    · exact ⟨hstep, hup⟩
    · exact htrail v h

theorem isName_of_mem_foldl {trail steps : List (List Char)} {v : List Char}
    (hsteps : ∀ step ∈ steps, IsStep step) (htrail : ∀ v ∈ trail, IsName v)
    (h : v ∈ steps.foldl (walk true) trail) : IsName v := by
  induction steps generalizing trail with
  | nil => exact htrail v h
  | cons step steps ih =>
    refine ih (fun s hs => hsteps s (List.mem_cons_of_mem step hs)) ?_ h
    intro u hu
    exact isName_of_mem_walk (hsteps step List.mem_cons_self) htrail hu

theorem normalize_place (h : ∀ w ∈ ws, IsName w) : (place ws).normalize = place ws := by
  rw [normalize, normalSteps, isAbsolute_place, steps_place h, fold, foldl_walk_names [] h,
    List.append_nil, List.reverse_reverse, place]

/-- The normal form of an absolute path is a place. -/
theorem normalize_eq_place (habsolute : p.isAbsolute = true) :
    p.normalize = place p.normalSteps ∧ ∀ w ∈ p.normalSteps, IsName w := by
  refine ⟨by rw [normalize, habsolute, place], ?_⟩
  intro w hw
  rw [normalSteps, fold, habsolute, List.mem_reverse] at hw
  exact isName_of_mem_foldl (fun _ => isStep_of_mem_steps)
    (fun _ h => absurd h List.not_mem_nil) hw

/-- An absolute path in normal form is the place of its own steps. -/
theorem place_steps (habsolute : p.isAbsolute = true) (hnormal : p.normalize = p) :
    place p.steps = p ∧ ∀ w ∈ p.steps, IsName w := by
  obtain ⟨hplace, hnames⟩ := normalize_eq_place habsolute
  have hp : place p.normalSteps = p := hplace.symm.trans hnormal
  have hsteps : p.steps = p.normalSteps := by
    rw [← steps_place hnames, hp]
  rw [hsteps]
  exact ⟨hp, hnames⟩

theorem endsInSlash_place (hws : ws ≠ []) (h : ∀ w ∈ ws, IsStep w) :
    (place ws).endsInSlash = false := by
  obtain ⟨init, w, rfl⟩ := (List.eq_nil_or_concat' ws).resolve_left hws
  have hw := h w (by simp)
  rw [endsInSlash, chars_place, Text.join_concat, ← List.cons_append,
    List.getLast?_append_of_ne_nil _ hw.ne_nil, beq_eq_false_iff_ne]
  exact fun hlast => hw.no_slash (List.mem_of_getLast? hlast)

/-- A relative path of names goes on from a place. -/
theorem join_place (hws : ∀ w ∈ ws, IsName w) (hp : p.Plain) :
    (place ws).join p = place (ws ++ p.pieces) := by
  rw [← chars_inj, chars_place, Path.join, hp.relative, if_neg Bool.false_ne_true]
  by_cases hnil : ws = []
  · subst hnil
    have hroot : (place []).endsInSlash = true := rfl
    rw [hroot, if_pos (by simp), chars_ofChars, List.nil_append, join_pieces]
    rfl
  · rw [endsInSlash_place hnil fun w hw => (hws w hw).toIsStep, if_neg (by simp [chars_place]),
      chars_ofChars, chars_place, Text.join_append hnil p.pieces_ne_nil, join_pieces,
      List.cons_append]

/-- A file name behind a place. -/
theorem join_name {name : String} (hws : ∀ w ∈ ws, IsName w) (hname : IsName name.toList) :
    (place ws).join ⟨name⟩ = place (ws ++ [name.toList]) := by
  rw [join_place hws (plain_name hname), pieces_name hname]

/-- Whatever a path ends in, its parent is the place of its steps but the last. -/
theorem parent?_of_spine (hspine : p.spine = ([], ws)) (hws : ws ≠ []) (h : ∀ w ∈ ws, IsStep w) :
    p.parent? = some (place ws.dropLast) := by
  have hkept := dropWhileEnd_isIdle fun w hw => h w (List.dropLast_subset ws hw)
  unfold parent?
  rw [hspine]
  cases ws with
  | nil => exact absurd rfl hws
  | cons v vs =>
    simp only [hkept, decide_true, Bool.true_and]
    by_cases hnil : (v :: vs).dropLast = []
    · rw [if_pos (decide_eq_true hnil), hnil]
      rfl
    · rw [if_neg (by simpa using hnil), Text.join_cons hnil, List.nil_append, place, ofSteps,
        if_pos rfl]

theorem spine_place (h : ∀ w ∈ ws, IsStep w) : (place ws).spine = ([], ws) := by
  rw [spine, place, pieces_ofSteps h, if_pos rfl]
  by_cases hws : ws = []
  · subst hws
    rfl
  · rw [if_neg hws]
    simp only [dropWhileEnd_isIdle h]

theorem parent?_place (hws : ws ≠ []) (h : ∀ w ∈ ws, IsStep w) :
    (place ws).parent? = some (place ws.dropLast) :=
  parent?_of_spine (spine_place h) hws h

/-- As many turns as there are steps find every ancestor of a place. -/
theorem go_place {n : Nat} (h : ∀ w ∈ ws, IsStep w) (hn : ws.length ≤ n) :
    ancestors.go n (place ws) = ancestors.go ws.length (place ws) := by
  induction n generalizing ws with
  | zero => rw [Nat.le_zero.mp hn]
  | succ n ih =>
    rcases List.eq_nil_or_concat' ws with rfl | ⟨init, w, rfl⟩
    · rfl
    · have hparent := parent?_place (by simp) h
      rw [List.dropLast_concat] at hparent
      rw [List.length_append, List.length_singleton] at hn ⊢
      rw [ancestors.go, ancestors.go, hparent]
      exact congrArg _ (ih (fun v hv => h v (List.mem_append_left _ hv)) (by omega))

theorem ancestors_place (h : ∀ w ∈ ws, IsStep w) :
    (place ws).ancestors = ancestors.go ws.length (place ws) := by
  refine go_place h ?_
  have hpieces := Text.length_split_le '/' (place ws).chars
  change (place ws).pieces.length ≤ _ at hpieces
  rw [place, pieces_ofSteps h, if_pos rfl] at hpieces
  split_ifs at hpieces with hws
  · simp [hws]
  · exact Nat.le_of_succ_le_succ hpieces

/-- Above a place lie those of its beginnings. -/
theorem ancestors_place_concat (h : ∀ v ∈ ws ++ [w], IsStep v) :
    (place (ws ++ [w])).ancestors = place (ws ++ [w]) :: (place ws).ancestors := by
  have hparent := parent?_place (by simp) h
  rw [List.dropLast_concat] at hparent
  rw [ancestors_place h, ancestors_place fun v hv => h v (List.mem_append_left _ hv),
    List.length_append, List.length_singleton, ancestors.go, hparent]

theorem append_place (ws : List (List Char)) (w e : List Char) :
    (place (ws ++ [w])).append e = place (ws ++ [w ++ e]) := by
  rw [← chars_inj, append, chars_ofChars, chars_place, chars_place, Text.join_concat,
    Text.join_concat, List.cons_append, List.append_assoc]

/-- The last name of a place. -/
theorem fileName?_place (h : ∀ v ∈ ws ++ [w], IsName v) :
    (place (ws ++ [w])).fileName? = some w := by
  rw [place, fileName?_ofSteps fun v hv => (h v hv).toIsStep, List.getLast?_concat,
    Option.filter_some, if_pos (decide_eq_true (h w (by simp)).not_up)]

theorem dropCommon_append (ws vs : List (List Char)) : dropCommon (ws ++ vs) ws = (vs, []) := by
  induction ws with
  | nil => cases vs <;> rfl
  | cons w ws ih => rw [List.cons_append, dropCommon, if_pos rfl, ih]

theorem isName_append (hws : ∀ w ∈ ws, IsName w) (hvs : ∀ w ∈ vs, IsName w) :
    ∀ w ∈ ws ++ vs, IsName w := by
  intro w hw
  rcases List.mem_append.mp hw with hw | hw
  · exact hws w hw
  · exact hvs w hw

theorem isName_concat (hws : ∀ v ∈ ws, IsName v) (hw : IsName w) : ∀ v ∈ ws ++ [w], IsName v :=
  isName_append hws (List.forall_mem_singleton.mpr hw)

/-- What lies below a place is named by the names that lead there. -/
theorem stable_place (hws : ∀ w ∈ ws, IsName w) (hvs : ∀ w ∈ vs, IsName w) :
    (place (ws ++ vs)).stable (place ws) = String.ofList (Text.join '/' vs) := by
  have hall := isName_append hws hvs
  rw [stable, isAbsolute_place, if_pos rfl, relativeTo, absolutize, absolutize, isAbsolute_place,
    isAbsolute_place, if_pos rfl, if_pos rfl, normalize_place hall, normalize_place hws,
    steps_place hall, steps_place hws, dropCommon_append]
  rfl

theorem place_append_inj {us : List (List Char)} (hws : ∀ w ∈ ws, IsName w)
    (hvs : ∀ w ∈ vs, IsName w) (hus : ∀ w ∈ us, IsName w) :
    place (ws ++ vs) = place (ws ++ us) ↔ vs = us := by
  constructor
  · intro h
    have hsteps := congrArg steps h
    rw [steps_place (isName_append hws hvs), steps_place (isName_append hws hus)] at hsteps
    exact List.append_cancel_left hsteps
  · rintro rfl
    rfl

end Place

section Below

/-- From a directory that lies `depth` names below another, the steps never lead above that. -/
def staysBelow : Nat → List (List Char) → Bool
  | _, [] => true
  | depth, step :: steps =>
    if step = up then
      match depth with
      | 0 => false
      | depth + 1 => staysBelow depth steps
    else staysBelow (depth + 1) steps

/-- A way that does not lead above a place is the same from any other place. -/
theorem foldl_walk_below {base below steps : List (List Char)} (hbelow : ∀ w ∈ below, w ≠ up)
    (h : staysBelow below.length steps = true) :
    steps.foldl (walk true) (below ++ base) = steps.foldl (walk true) below ++ base := by
  induction steps generalizing below with
  | nil => rfl
  | cons step steps ih =>
    rw [List.foldl_cons, List.foldl_cons]
    by_cases hup : step = up
    · cases below with
      | nil => simp [staysBelow, hup] at h
      | cons last before =>
        subst hup
        have hlast := hbelow last List.mem_cons_self
        rw [List.cons_append, walk_up_cons hlast, walk_up_cons hlast]
        refine ih (fun w hw => hbelow w (List.mem_cons_of_mem last hw)) ?_
        simpa [staysBelow] using h
    · rw [walk_of_ne_up hup, walk_of_ne_up hup, ← List.cons_append]
      refine ih ?_ ?_
      · intro w hw
        rcases List.mem_cons.mp hw with rfl | hw
        · exact hup
        · exact hbelow w hw
      · simpa [staysBelow, hup] using h

/-- The names that a specifier leads to from the directory with the given names. -/
def follow (names : List (List Char)) (specifier : Path) : List (List Char) :=
  fold true (names ++ specifier.steps)

variable {base names : List (List Char)} {tail : Path}

theorem isName_of_mem_follow (hnames : ∀ w ∈ names, IsName w) {w : List Char}
    (h : w ∈ follow names tail) : IsName w := by
  rw [follow, fold, List.mem_reverse, List.foldl_append, foldl_walk_names [] hnames] at h
  refine isName_of_mem_foldl (fun _ => isStep_of_mem_steps) ?_ h
  intro v hv
  rw [List.append_nil, List.mem_reverse] at hv
  exact hnames v hv

/-- Where a relative specifier leads from a directory below a place. -/
theorem normalize_join_place (hbase : ∀ w ∈ base, IsName w) (hnames : ∀ w ∈ names, IsName w)
    (hrelative : tail.isAbsolute = false) (hbelow : staysBelow names.length tail.steps = true) :
    ((place (base ++ names)).join tail).normalize = place (base ++ follow names tail) := by
  have hall := isName_append hbase hnames
  rw [normalize, normalSteps, isAbsolute_join (isAbsolute_place _), steps_join hrelative,
    steps_place hall, fold, List.foldl_append, foldl_walk_names [] hall, List.append_nil,
    List.reverse_append,
    foldl_walk_below (fun w hw => (hnames w (List.mem_reverse.mp hw)).not_up) (by
      rw [List.length_reverse]
      exact hbelow), List.reverse_append, List.reverse_reverse, place, follow, fold,
    List.foldl_append, foldl_walk_names [] hnames, List.append_nil]

end Below

end Path

end ModuleBundler
