import ModuleBundler.Proofs.Resolution
import ModuleBundler.Store.Disk
import ModuleBundler.Store.Memory

namespace ModuleBundler

namespace Path

open Text (dropWhileEnd)

variable {p q : Path} {first w : List Char} {others : List (List Char)}

/-- Nothing but idle pieces is left out of a spine. -/
theorem steps_of_spine (h : p.spine = (first, others)) :
    p.steps = (first :: others).filter (!isIdle ·) := by
  obtain ⟨rest, hp, rfl⟩ := pieces_of_spine h
  obtain ⟨idle, hrest, hidle⟩ := Text.exists_dropWhileEnd_append isIdle rest
  rw [steps, hp]
  conv_lhs => rw [hrest]
  rw [← List.cons_append, List.filter_append, filter_idle hidle, List.append_nil]

theorem parent?_of_spine_concat {init : List (List Char)} (h : p.spine = (first, init ++ [w])) :
    p.parent? = if first = [] && dropWhileEnd isIdle init = [] then some root
      else some (ofChars (Text.join '/' (first :: dropWhileEnd isIdle init))) := by
  have hdropLast : (init ++ [w]).dropLast = init := List.dropLast_concat
  unfold parent?
  rw [h]
  cases init with
  | nil => rfl
  | cons v vs =>
    rw [List.cons_append] at hdropLast ⊢
    simp only [hdropLast]

/-- The parent of a path with a component behind its first piece lies one step above, and is not
the empty path. -/
theorem exists_parent_of_spine (h : p.spine = (first, others)) (hne : others ≠ []) :
    ∃ d w, p.parent? = some d ∧ d.chars ≠ [] ∧ p.steps = d.steps ++ [w] := by
  have hlast : ∃ init w, others = init ++ [w] ∧ isIdle w = false := by
    obtain ⟨rest, -, rfl⟩ := pieces_of_spine h
    exact Text.dropWhileEnd_eq_concat hne
  obtain ⟨init, w, rfl, hw⟩ := hlast
  have hparent := parent?_of_spine_concat h
  obtain ⟨idle, hinit, hidle⟩ := Text.exists_dropWhileEnd_append isIdle init
  generalize dropWhileEnd isIdle init = kept at hinit hparent
  subst hinit
  have hsteps : p.steps = (first :: kept).filter (!isIdle ·) ++ [w] := by
    have hstays : [w].filter (!isIdle ·) = [w] := filter_steps (List.forall_mem_singleton.mpr hw)
    rw [steps_of_spine h, List.append_assoc, ← List.cons_append, List.filter_append,
      List.filter_append, filter_idle hidle, List.nil_append, hstays]
  by_cases hroot : first = [] ∧ kept = []
  · rw [if_pos (by simpa using hroot)] at hparent
    refine ⟨root, w, hparent, List.cons_ne_nil _ _, ?_⟩
    rw [hsteps, hroot.1, hroot.2]
    rfl
  · rw [if_neg (by simpa using hroot)] at hparent
    have hslash (v : List Char) (hv : v ∈ first :: kept) : '/' ∉ v := by
      refine not_mem_of_mem_pieces (mem_pieces_of_spine h ((List.mem_cons.mp hv).imp_right ?_))
      intro hkept
      simp [hkept]
    have hpieces := pieces_ofChars_join (List.cons_ne_nil first kept) hslash
    refine ⟨_, w, hparent, ?_, ?_⟩
    · intro hnil
      rw [pieces, hnil] at hpieces
      obtain ⟨hfirst, hkept⟩ := List.cons.inj hpieces
      exact hroot ⟨hfirst.symm, hkept.symm⟩
    · rw [hsteps, steps, hpieces]

/-- A normal form is not empty. -/
theorem chars_normalize_ne_nil (p : Path) : p.normalize.chars ≠ [] := by
  intro hnil
  have hpieces : p.normalize.pieces = [[]] := by rw [pieces, hnil]; rfl
  rw [normalize, pieces_ofSteps fun _ => isStep_of_mem_normalSteps] at hpieces
  split_ifs at hpieces with habsolute hsteps hsteps
  · cases hpieces
  · exact hsteps (List.cons.inj hpieces).2
  · cases hpieces
  · exact (isStep_of_mem_normalSteps (hpieces ▸ List.mem_cons_self)).ne_nil rfl

end Path

namespace Resolver

open ModuleBundler.Path (isIdle)

variable {r : Resolver} {isFile : Path → Bool} {dir p q : Path} {specifier : String}

theorem chars_indexOf (hp : p.chars ≠ []) : (indexOf p).chars =
    p.chars ++ if p.endsInSlash then "index".toList else '/' :: "index".toList := by
  rw [indexOf, Path.join, if_neg (by decide)]
  cases p.endsInSlash with
  | true => rw [if_pos (by simp), if_pos rfl, Path.chars_ofChars]; rfl
  | false => rw [if_neg (by simpa using hp), if_neg (by simp), Path.chars_ofChars]; rfl

theorem length_lt_indexOf (hp : p.chars ≠ []) : p.chars.length < (indexOf p).chars.length := by
  rw [chars_indexOf hp, List.length_append]
  split_ifs <;> simp

end Resolver

end ModuleBundler
