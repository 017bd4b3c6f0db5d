import ModuleBundler.Proofs.Placement

namespace ModuleBundler

open ModuleBundler.Path (IsName up isIdle walk)

namespace Path

variable {dir dir' tail tail' : Path} {n : List Char} {f u : String}

theorem chars_slash (u s : String) :
    (Path.mk (u ++ "/" ++ s)).chars = u.toList ++ '/' :: s.toList := by
  simp [chars]

theorem pieces_slash (u s : String) :
    (Path.mk (u ++ "/" ++ s)).pieces = (Path.mk u).pieces ++ (Path.mk s).pieces := by
  rw [pieces, chars_slash]
  exact Text.split_append_cons '/' u.toList s.toList

theorem steps_slash (u s : String) :
    (Path.mk (u ++ "/" ++ s)).steps = (Path.mk u).steps ++ (Path.mk s).steps := by
  rw [steps, pieces_slash, List.filter_append]
  rfl

theorem isAbsolute_slash (hu : u ≠ "") (s : String) :
    (Path.mk (u ++ "/" ++ s)).isAbsolute = (Path.mk u).isAbsolute := by
  have hne : u.toList ≠ [] := by simpa using hu
  rw [isAbsolute, chars_slash, List.head?_append_of_ne_nil _ hne]
  rfl

theorem normalize_join_name (hdir : dir.isAbsolute = true) (hnormal : dir.normalize = dir)
    (hf : IsName f.toList) : (dir.join ⟨f⟩).normalize = dir.join ⟨f⟩ := by
  obtain ⟨hplace, hws⟩ := place_steps hdir hnormal
  rw [← hplace, join_name hws hf, normalize_place (isName_concat hws hf)]

/-- Down to a name and up again leads nowhere. -/
theorem foldl_walk_detour {absolute : Bool} (hn : n ≠ up) (steps : List (List Char)) :
    (steps ++ [n, up]).foldl (walk absolute) [] = steps.foldl (walk absolute) [] := by
  rw [List.foldl_append, List.foldl_cons, List.foldl_cons, List.foldl_nil, walk_of_ne_up hn,
    walk_up_cons hn]

/-- From absolute directories, steps with the same trail lead to the same place. -/
theorem normalize_join_congr (hdir : dir.isAbsolute = true) (hdir' : dir'.isAbsolute = true)
    (htail : tail.isAbsolute = false) (htail' : tail'.isAbsolute = false)
    (h : (dir.steps ++ tail.steps).foldl (walk true) [] =
      (dir'.steps ++ tail'.steps).foldl (walk true) []) :
    (dir.join tail).normalize = (dir'.join tail').normalize := by
  rw [normalize, normalize, normalSteps, normalSteps, isAbsolute_join hdir, isAbsolute_join hdir',
    steps_join htail, steps_join htail', fold, fold, h]

end Path

namespace Resolver

variable {r : Resolver} {isFile : Path → Bool} {dir dir' p q : Path} {s s' u : String}

/-- Whether a specifier names a directory is decided by its last piece. -/
theorem namesDirectory_iff_last {init : List (List Char)} {w : List Char} (hne : s ≠ "")
    (hpieces : (Path.mk s).pieces = init ++ [w]) :
    namesDirectory s = true ↔ isIdle w = true ∨ w = up := by
  constructor
  · intro h
    obtain ⟨init', w', hpieces', hw'⟩ := last_of_namesDirectory h
    have hlast := (List.append_inj' (hpieces.symm.trans hpieces') rfl).2
    rw [List.singleton_inj.mp hlast]
    exact hw'
  · exact namesDirectory_of_last hne hpieces

theorem namesDirectory_slash (u : String) (hne : s ≠ "") :
    namesDirectory (u ++ "/" ++ s) = namesDirectory s := by
  obtain ⟨init, w, hpieces⟩ :=
    (List.eq_nil_or_concat' (Path.mk s).pieces).resolve_left (Path.pieces_ne_nil _)
  have hwhole : (Path.mk (u ++ "/" ++ s)).pieces = ((Path.mk u).pieces ++ init) ++ [w] := by
    rw [Path.pieces_slash, hpieces, List.append_assoc]
  rw [Bool.eq_iff_iff, namesDirectory_iff_last hne hpieces,
    namesDirectory_iff_last (by simp [hne]) hwhole]

theorem resolveIn_congr (hplace : (dir.join ⟨s⟩).normalize = (dir'.join ⟨s'⟩).normalize)
    (htext : namesDirectory s = namesDirectory s') :
    r.resolveIn isFile dir s = r.resolveIn isFile dir' s' := by
  unfold resolveIn
  rw [hplace, htext]

/-- If a detour from one directory comes to another, a specifier behind it names the file that it
names from there. -/
theorem resolveIn_detour (hdir : dir.isAbsolute = true) (hdir' : dir'.isAbsolute = true)
    (hu : u ≠ "") (hdetour : (Path.mk u).isAbsolute = false) (hne : s ≠ "")
    (hrelative : (Path.mk s).isAbsolute = false)
    (h : (dir.steps ++ (Path.mk u).steps).foldl (walk true) [] =
      dir'.steps.foldl (walk true) []) :
    r.resolveIn isFile dir (u ++ "/" ++ s) = r.resolveIn isFile dir' s := by
  refine resolveIn_congr (Path.normalize_join_congr hdir hdir' ?_ hrelative ?_)
    (namesDirectory_slash u hne)
  · rw [Path.isAbsolute_slash hu, hdetour]
  · rw [Path.steps_slash, ← List.append_assoc, List.foldl_append, h, List.foldl_append]

theorem resolveIn_of_absolute (h : (Path.mk s).isAbsolute = true) (dir dir' : Path) :
    r.resolveIn isFile dir s = r.resolveIn isFile dir' s :=
  resolveIn_congr (by rw [Path.join_of_absolute h, Path.join_of_absolute h]) rfl

/-- Two attempts come out alike: they lead to the same file, or both times to none. -/
inductive SameOutcome : Except BuildError Path → Except BuildError Path → Prop where
  | found (q : Path) : SameOutcome (.ok q) (.ok q)
  | unresolved {e e' : BuildError} (h : e.isResolution = true) (h' : e'.isResolution = true) :
    SameOutcome (.error e) (.error e')

theorem sameOutcome_resolve (h : r.resolveIn isFile (r.directoryOf p) s =
      r.resolveIn isFile (r.directoryOf q) s') :
    SameOutcome (r.resolve isFile s p) (r.resolve isFile s' q) := by
  unfold resolve
  rw [h]
  cases r.resolveIn isFile (r.directoryOf q) s' with
  | none => exact .unresolved rfl rfl
  | some found => exact .found found

theorem sameOutcome_resolveEntry (h : r.resolveIn isFile r.cwd s =
      r.resolveIn isFile (r.directoryOf p) s') :
    SameOutcome (r.resolveEntry isFile s) (r.resolve isFile s' p) := by
  unfold resolveEntry resolve
  rw [h]
  cases r.resolveIn isFile (r.directoryOf p) s' with
  | none => exact .unresolved rfl rfl
  | some found => exact .found found

section Detour

variable {n : String} (hdir : dir.isAbsolute = true) (hne : s ≠ "")
  (hrelative : (Path.mk s).isAbsolute = false)

include hdir hne hrelative

theorem resolveIn_dot : r.resolveIn isFile dir ("./" ++ s) = r.resolveIn isFile dir s := by
  have hnowhere : (Path.mk ".").steps = [] := rfl
  refine resolveIn_detour hdir hdir (u := ".") (by decide) rfl hne hrelative ?_
  rw [hnowhere, List.append_nil]

theorem resolveIn_around (hn : IsName n.toList) :
    r.resolveIn isFile dir (n ++ "/../" ++ s) = r.resolveIn isFile dir s := by
  have hspell : n ++ "/../" ++ s = (n ++ "/" ++ "..") ++ "/" ++ s := by
    simp [← String.toList_inj]
  have hnonempty : n ≠ "" := by
    rintro rfl
    exact hn.ne_nil rfl
  rw [hspell]
  refine resolveIn_detour hdir hdir (by simp) ?_ hne hrelative ?_
  · rw [Path.isAbsolute_slash hnonempty]
    exact (Path.plain_name hn).relative
  · rw [Path.steps_slash, Path.steps_name hn]
    exact Path.foldl_walk_detour hn.not_up dir.steps

theorem resolveIn_below (hn : IsName n.toList) :
    r.resolveIn isFile (dir.join ⟨n⟩) ("../" ++ s) = r.resolveIn isFile dir s := by
  refine resolveIn_detour (Path.isAbsolute_join hdir) hdir (u := "..") (by decide) rfl hne
    hrelative ?_
  rw [Path.steps_join (Path.plain_name hn).relative, Path.steps_name hn, List.append_assoc]
  exact Path.foldl_walk_detour hn.not_up dir.steps

end Detour

/-- A file right below a directory in normal form has its specifiers read from there. -/
theorem directoryOf_join_name {name : String} (hdir : dir.isAbsolute = true)
    (hnormal : dir.normalize = dir) (hname : IsName name.toList) :
    r.directoryOf (dir.join ⟨name⟩) = dir := by
  obtain ⟨hplace, hws⟩ := Path.place_steps hdir hnormal
  have hall := Path.isName_concat hws hname
  rw [← hplace, Path.join_name hws hname, directoryOf_place (List.cons_ne_nil _ _) hall]
  simp

/-- A specifier may be spelled with a dot or a detour in front, or from a directory below; an
absolute one leads to the same file from everywhere; and the entry is read like a specifier of a
module in the working directory. -/
theorem resolve_respelled {n f g : String} (hcwd : r.cwd.isAbsolute = true)
    (hdir : dir.isAbsolute = true) (hnormal : dir.normalize = dir) (hf : IsName f.toList)
    (hg : IsName g.toList) (hn : IsName n.toList) (hne : s ≠ "")
    (hrelative : (Path.mk s).isAbsolute = false) :
    SameOutcome (r.resolve isFile s (dir.join ⟨f⟩))
      (r.resolve isFile ("./" ++ s) (dir.join ⟨f⟩)) ∧
    SameOutcome (r.resolve isFile s (dir.join ⟨f⟩))
      (r.resolve isFile (n ++ "/../" ++ s) (dir.join ⟨f⟩)) ∧
    SameOutcome (r.resolve isFile s (dir.join ⟨g⟩))
      (r.resolve isFile ("../" ++ s) ((dir.join ⟨n⟩).join ⟨f⟩)) ∧
    (∀ t : String, (Path.mk t).isAbsolute = true → ∀ p q : Path,
      SameOutcome (r.resolve isFile t p) (r.resolve isFile t q)) ∧
    (r.cwd.normalize = r.cwd →
      SameOutcome (r.resolveEntry isFile s) (r.resolve isFile s (r.cwd.join ⟨f⟩))) := by
  have hbelow := Path.normalize_join_name hdir hnormal hn
  refine ⟨sameOutcome_resolve ?_, sameOutcome_resolve ?_, sameOutcome_resolve ?_, ?_, ?_⟩
  · rw [directoryOf_join_name hdir hnormal hf]
    exact (resolveIn_dot hdir hne hrelative).symm
  · rw [directoryOf_join_name hdir hnormal hf]
    exact (resolveIn_around hdir hne hrelative hn).symm
  · rw [directoryOf_join_name hdir hnormal hg,
      directoryOf_join_name (Path.isAbsolute_join hdir) hbelow hf]
    exact (resolveIn_below hdir hne hrelative hn).symm
  · intro t ht p q
    exact sameOutcome_resolve (resolveIn_of_absolute ht _ _)
  · intro hcwdnormal
    refine sameOutcome_resolveEntry ?_
    rw [directoryOf_join_name hcwd hcwdnormal hf]

/-- At the root, where the way up leads nowhere, and with a directory at the end of the
specifier. -/
theorem resolve_respelled_root :
    let r : Resolver := ⟨Path.root, [".js"]⟩
    let isFile : Path → Bool := (· = ⟨"/lib/index.js"⟩)
    r.resolve isFile "../lib/." (Path.root.join ⟨"a.js"⟩) = .ok ⟨"/lib/index.js"⟩ ∧
    SameOutcome (r.resolve isFile "../lib/." (Path.root.join ⟨"a.js"⟩))
      (r.resolve isFile "b/../../lib/." (Path.root.join ⟨"a.js"⟩)) ∧
    SameOutcome (r.resolve isFile "../lib/." (Path.root.join ⟨"c.js"⟩))
      (r.resolve isFile "../../lib/." ((Path.root.join ⟨"b"⟩).join ⟨"a.js"⟩)) := by
  obtain ⟨-, haround, hbelow, -⟩ := @resolve_respelled ⟨Path.root, [".js"]⟩
    (· = ⟨"/lib/index.js"⟩) Path.root "../lib/." "b" "a.js" "c.js" rfl rfl (by decide +kernel)
    ⟨⟨by decide, by decide⟩, by decide⟩ ⟨⟨by decide, by decide⟩, by decide⟩
    ⟨⟨by decide, by decide⟩, by decide⟩ (by decide) rfl
  exact ⟨by decide +kernel, haround, hbelow⟩

end Resolver

end ModuleBundler
