import ModuleBundler.Proofs.Path.Place
import ModuleBundler.Proofs.Resolution

namespace ModuleBundler

open ModuleBundler.Path (IsName Plain place up isIdle staysBelow)

namespace Resolver

variable {base names : List (List Char)} {specifier : String}

/-- A specifier names a directory if its last piece leads nowhere, or up. -/
theorem namesDirectory_of_last {init : List (List Char)} {w : List Char} (hne : specifier ≠ "")
    (hpieces : (Path.mk specifier).pieces = init ++ [w]) (hw : isIdle w = true ∨ w = up) :
    namesDirectory specifier = true := by
  have hchars : Text.join '/' (init ++ [w]) = specifier.toList := by
    rw [← hpieces]
    exact Path.join_pieces _
  rw [Text.join_concat] at hchars
  have hw : w = [] ∨ w = ['.'] ∨ w = ['.', '.'] := by
    rcases hw with hw | hw
    · rcases Path.isIdle_eq_true.mp hw with hw | hw
      · exact .inl hw
      · exact .inr (.inl hw)
    · exact .inr (.inr hw)
  unfold namesDirectory
  simp only [← hchars, Bool.or_eq_true, decide_eq_true_eq, List.isSuffixOf_iff_suffix]
  by_cases hinit : init = []
  · rw [if_pos hinit, List.nil_append] at hchars ⊢
    rcases hw with rfl | rfl | rfl
    · exact absurd (String.toList_inj.mp hchars.symm) hne
    · exact .inl (.inl (.inl (.inl rfl)))
    · exact .inl (.inl (.inl (.inr rfl)))
  · rw [if_neg hinit, List.append_assoc]
    rcases hw with rfl | rfl | rfl
    · exact .inl (.inl (.inr (List.suffix_append _ _)))
    · exact .inl (.inr (List.suffix_append _ _))
    · exact .inr (List.suffix_append _ _)

/-- A specifier that names a directory by its very text has a last piece that leads nowhere, or
up. -/
theorem last_of_namesDirectory (h : namesDirectory specifier = true) :
    ∃ init w, (Path.mk specifier).pieces = init ++ [w] ∧ (isIdle w = true ∨ w = up) := by
  have hsuffix {start w : List Char} (hw : '/' ∉ w)
      (hchars : start ++ '/' :: w = specifier.toList) :
      (Path.mk specifier).pieces = Text.split '/' start ++ [w] := by
    rw [Path.pieces, Path.chars, ← hchars, Text.split_append_cons, Text.split_of_not_mem hw]
  unfold namesDirectory at h
  simp only [Bool.or_eq_true, decide_eq_true_eq, List.isSuffixOf_iff_suffix] at h
  rcases h with (((h | h) | ⟨start, h⟩) | ⟨start, h⟩) | ⟨start, h⟩
  · exact ⟨[], ['.'], by rw [Path.pieces, Path.chars, h]; rfl, .inl rfl⟩
  · exact ⟨[], up, by rw [Path.pieces, Path.chars, h]; rfl, .inr rfl⟩
  · exact ⟨_, [], hsuffix (by decide) h, .inl rfl⟩
  · exact ⟨_, ['.'], hsuffix (by decide) h, .inl rfl⟩
  · exact ⟨_, up, hsuffix (by decide) h, .inr rfl⟩

/-- A specifier that does not name a directory by its very text ends in a name. -/
theorem exists_last_name (hne : specifier ≠ "") (h : namesDirectory specifier = false) :
    ∃ init w, (Path.mk specifier).steps = init ++ [w] ∧ IsName w := by
  obtain ⟨init, w, hpieces⟩ :=
    (List.eq_nil_or_concat' (Path.mk specifier).pieces).resolve_left (Path.pieces_ne_nil _)
  have hlast : ¬(isIdle w = true ∨ w = up) := by
    intro hw
    rw [namesDirectory_of_last hne hpieces hw] at h
    cases h
  rw [not_or, Bool.not_eq_true] at hlast
  have hmem : w ∈ (Path.mk specifier).pieces := by
    rw [hpieces]
    exact List.mem_append_right init List.mem_cons_self
  refine ⟨init.filter (!isIdle ·), w, ?_, ⟨⟨hlast.1, Path.not_mem_of_mem_pieces hmem⟩, hlast.2⟩⟩
  rw [Path.steps, hpieces, List.filter_append, List.filter_cons_of_pos (by rw [hlast.1]; rfl)]
  rfl

/-- The names of a file, with one of the extensions to try behind the last. -/
def extendedNames (r : Resolver) (ws : List (List Char)) (w : List Char) :
    List (List (List Char)) :=
  r.extensions.map fun e => ws ++ [w ++ e.toList]

/-- The candidates of a specifier that stays below a place, as names from there. -/
def localCandidates (r : Resolver) (names : List (List Char)) (specifier : String) :
    List (List (List Char)) :=
  let goal := Path.follow names ⟨specifier⟩
  let extended := r.extendedNames goal.dropLast (goal.getLastD [])
  if namesDirectory specifier then r.extendedNames goal "index".toList
  else if (Path.cutAtDot (goal.getLastD [])).2.isSome then goal :: extended
  else extended ++ r.extendedNames goal "index".toList

variable {r : Resolver}

theorem isName_of_mem_extendedNames {ws : List (List Char)} {w : List Char}
    (hextensions : ∀ e ∈ r.extensions, '/' ∉ e.toList) (h : ∀ v ∈ ws ++ [w], IsName v) :
    ∀ ns ∈ r.extendedNames ws w, ns ≠ [] ∧ ∀ v ∈ ns, IsName v := by
  intro ns hns
  obtain ⟨e, he, rfl⟩ := List.mem_map.mp hns
  exact ⟨by simp, Path.isName_concat (fun v hv => h v (List.mem_append_left _ hv))
    ((h w (by simp)).append (hextensions e he))⟩

/-- The paths with one of the extensions are places as well. -/
theorem map_append_place (r : Resolver) (base ws : List (List Char)) (w : List Char) :
    (r.extensions.map fun e => (place (base ++ (ws ++ [w]))).append e.toList) =
      (r.extendedNames ws w).map fun ns => place (base ++ ns) := by
  rw [extendedNames, List.map_map]
  refine List.map_congr_left fun e _ => ?_
  rw [← List.append_assoc, Path.append_place, List.append_assoc]
  rfl

theorem indexOf_place {ws : List (List Char)} (h : ∀ w ∈ ws, IsName w) :
    indexOf (place ws) = place (ws ++ ["index".toList]) :=
  Path.join_name h Path.isName_index

/-- Where a specifier does not name a directory, the way to it ends in a name. -/
theorem exists_last_goal (names : List (List Char)) (hne : specifier ≠ "")
    (h : namesDirectory specifier = false) :
    ∃ ws w, Path.follow names ⟨specifier⟩ = ws ++ [w] := by
  obtain ⟨init, w, hsteps, hw⟩ := exists_last_name hne h
  refine ⟨((names ++ init).foldl (Path.walk true) []).reverse, w, ?_⟩
  rw [Path.follow, Path.fold, hsteps, ← List.append_assoc, List.foldl_append, List.foldl_cons,
    List.foldl_nil, Path.walk_of_ne_up hw.not_up, List.reverse_cons]

section Local

variable (hnames : ∀ w ∈ names, IsName w) (hne : specifier ≠ "")

include hnames

theorem isName_of_mem_goal (specifier : String) :
    ∀ w ∈ Path.follow names ⟨specifier⟩ ++ ["index".toList], IsName w :=
  Path.isName_concat (fun _ h => Path.isName_of_mem_follow hnames h) Path.isName_index

include hne

theorem isName_of_mem_localCandidates (hextensions : ∀ e ∈ r.extensions, '/' ∉ e.toList)
    {ns : List (List Char)} (h : ns ∈ r.localCandidates names specifier) :
    ns ≠ [] ∧ ∀ w ∈ ns, IsName w := by
  have hindex := isName_of_mem_extendedNames hextensions (isName_of_mem_goal hnames specifier) ns
  unfold localCandidates at h
  simp only at h
  cases hdirectory : namesDirectory specifier with
  | true =>
    rw [if_pos hdirectory] at h
    exact hindex h
  | false =>
    rw [if_neg (by rw [hdirectory]; exact Bool.false_ne_true)] at h
    obtain ⟨ws, w, hgoal⟩ := exists_last_goal names hne hdirectory
    have hall (v : List Char) (hv : v ∈ ws ++ [w]) : IsName v :=
      Path.isName_of_mem_follow hnames (hgoal ▸ hv)
    rw [hgoal] at h hindex
    rw [List.dropLast_concat, List.getLastD_concat] at h
    have hextended := isName_of_mem_extendedNames hextensions hall ns
    split_ifs at h
    · rcases List.mem_cons.mp h with rfl | h
      · exact ⟨by simp, hall⟩
      · exact hextended h
    · rcases List.mem_append.mp h with h | h
      · exact hextended h
      · exact hindex h

/-- Below every place a specifier that stays there has the same candidates. -/
theorem candidates_place (hrelative : (Path.mk specifier).isAbsolute = false)
    (hbelow : staysBelow names.length (Path.mk specifier).steps = true)
    (hbase : ∀ w ∈ base, IsName w) :
    r.candidates (place (base ++ names)) specifier =
      (r.localCandidates names specifier).map fun ns => place (base ++ ns) := by
  have hall := Path.isName_append hbase
    fun w (hw : w ∈ Path.follow names ⟨specifier⟩) => Path.isName_of_mem_follow hnames hw
  unfold candidates localCandidates
  simp only [Path.normalize_join_place hbase hnames hrelative hbelow, indexOf_place hall,
    List.append_assoc, map_append_place]
  cases hdirectory : namesDirectory specifier with
  | true => rfl
  | false =>
    obtain ⟨ws, w, hgoal⟩ := exists_last_goal names hne hdirectory
    rw [hgoal] at hall ⊢
    have hextension : (place (base ++ (ws ++ [w]))).extension? = (Path.cutAtDot w).2 := by
      rw [← List.append_assoc] at hall ⊢
      rw [Path.extension?, Path.fileName?_place hall]
      rfl
    rw [if_neg Bool.false_ne_true, if_neg Bool.false_ne_true, hextension, List.dropLast_concat,
      List.getLastD_concat, map_append_place]
    split_ifs
    · rfl
    · exact List.map_append.symm

end Local

/-- A module below the root is read from a directory with its names but the last. -/
theorem directoryOf_place {ns : List (List Char)} (hne : ns ≠ [])
    (hall : ∀ w ∈ base ++ ns, IsName w) :
    r.directoryOf (place (base ++ ns)) = place (base ++ ns.dropLast) := by
  rw [directoryOf, Path.parent?_place (by simp [hne]) fun w hw => (hall w hw).toIsStep,
    List.dropLast_append_of_ne_nil hne]
  exact if_neg (by rw [Path.chars_place]; exact List.cons_ne_nil _ _)

end Resolver

end ModuleBundler
