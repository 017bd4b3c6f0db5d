import ModuleBundler.Proofs.Host
import ModuleBundler.Proofs.Options
import ModuleBundler.Proofs.Placement

namespace ModuleBundler

open ModuleBundler.Path (IsName IsStep place up isIdle)

namespace Path

variable {p q : Path}

/-- A name with a dot behind it has an extension. -/
theorem isSome_cutAtDot_append {w : List Char} (hw : w ≠ []) (cs : List Char) :
    (cutAtDot (w ++ '.' :: cs)).2.isSome = true := by
  have hsplit := List.takeWhile_append_dropWhile (p := (· ≠ '.')) (l := (w ++ '.' :: cs).reverse)
  unfold cutAtDot
  simp only
  cases hrest : (w ++ '.' :: cs).reverse.dropWhile (· ≠ '.') with
  | nil =>
    have hall := List.dropWhile_eq_nil_iff.mp hrest '.' (by simp)
    simp at hall
  | cons dot before =>
    simp only
    by_cases hbefore : before = []
    · -- then the only dot would be the first character, but a name stands before one
      exfalso
      obtain ⟨c, w, rfl⟩ := List.exists_cons_of_ne_nil hw
      rw [hrest, hbefore] at hsplit
      have hlast := congrArg List.dropLast hsplit
      rw [List.dropLast_concat] at hlast
      have hmem : '.' ∈ (c :: w ++ '.' :: cs).reverse.takeWhile (· ≠ '.') := by
        rw [hlast, List.cons_append, List.reverse_cons, List.dropLast_concat]
        simp
      simpa using List.mem_takeWhile_imp hmem
    · rw [if_neg hbefore]
      rfl

/-- An absolute path in normal form whose last name has an extension. -/
def Canonical (p : Path) : Prop :=
  ∃ ws w, p = place (ws ++ [w]) ∧ (∀ v ∈ ws ++ [w], IsName v) ∧ (cutAtDot w).2.isSome = true

namespace Canonical

variable {ws : List (List Char)} {w e : List Char}

theorem isAbsolute (h : p.Canonical) : p.isAbsolute = true := by
  obtain ⟨ws, w, rfl, -, -⟩ := h
  exact isAbsolute_place _

theorem normalize_eq (h : p.Canonical) : p.normalize = p := by
  obtain ⟨ws, w, rfl, hnames, -⟩ := h
  exact normalize_place hnames

theorem extension (h : p.Canonical) : p.extension?.isSome = true := by
  obtain ⟨ws, w, rfl, hnames, hextension⟩ := h
  rw [extension?, fileName?_place hnames]
  exact hextension

/-- Behind a last name, an extension makes a path canonical. -/
theorem append (hnames : ∀ v ∈ ws ++ [w], IsName v) (hdotted : Options.Dotted (String.ofList e))
    (hslash : '/' ∉ e) : (Path.append (place (ws ++ [w])) e).Canonical := by
  obtain ⟨cs, -, hcs⟩ := hdotted
  rw [String.toList_ofList] at hcs
  refine ⟨ws, w ++ e, append_place ws w e, ?_, ?_⟩
  · exact isName_concat (fun v hv => hnames v (List.mem_append_left _ hv))
      ((hnames w (by simp)).append hslash)
  · rw [hcs]
    exact isSome_cutAtDot_append (hnames w (by simp)).ne_nil cs

end Canonical

/-- The normal form of an absolute path with an extension is canonical. -/
theorem canonical_of_extension (habsolute : p.isAbsolute = true)
    (h : p.normalize.extension?.isSome = true) : p.normalize.Canonical := by
  obtain ⟨hplace, hnames⟩ := normalize_eq_place habsolute
  rw [hplace] at h ⊢
  rcases List.eq_nil_or_concat' p.normalSteps with hnil | ⟨ws, w, hconcat⟩
  · rw [hnil] at h
    cases h
  · rw [hconcat] at h hnames ⊢
    rw [extension?, fileName?_place hnames] at h
    exact ⟨ws, w, rfl, hnames, h⟩

end Path

namespace Resolver

variable {r : Resolver} {isFile : Path → Bool} {dir q : Path} {specifier : String}

/-- Where a specifier does not name a directory by its very text, it leads to a last name. -/
theorem exists_last_step (dir : Path) (hne : specifier ≠ "")
    (h : namesDirectory specifier = false) :
    ∃ ws w, (dir.join ⟨specifier⟩).normalSteps = ws ++ [w] := by
  obtain ⟨init, w, hsteps, hw⟩ := exists_last_name hne h
  have hjoin : ∃ before, (dir.join ⟨specifier⟩).steps = before ++ [w] := by
    cases ha : (Path.mk specifier).isAbsolute with
    | true => exact ⟨init, by rw [Path.join_of_absolute ha, hsteps]⟩
    | false => exact ⟨dir.steps ++ init, by rw [Path.steps_join ha, hsteps, List.append_assoc]⟩
  obtain ⟨before, hbefore⟩ := hjoin
  refine ⟨(before.foldl (Path.walk (dir.join ⟨specifier⟩).isAbsolute) []).reverse, w, ?_⟩
  rw [Path.normalSteps, Path.fold, hbefore, List.foldl_append, List.foldl_cons, List.foldl_nil,
    Path.walk_of_ne_up hw.not_up, List.reverse_cons]

/-- From an absolute directory, every candidate is canonical. -/
theorem canonical_of_mem_candidates (hdir : dir.isAbsolute = true)
    (hextensions : ∀ e ∈ r.extensions, Options.Dotted e ∧ '/' ∉ e.toList) (hne : specifier ≠ "")
    (h : q ∈ r.candidates dir specifier) : q.Canonical := by
  have habsolute : (dir.join ⟨specifier⟩).isAbsolute = true := Path.isAbsolute_join hdir
  obtain ⟨hplace, hnames⟩ := Path.normalize_eq_place habsolute
  rcases mem_candidates h with ⟨rfl, hextension⟩ | ⟨e, he, base, rfl, ⟨rfl, htext⟩ | rfl⟩
  · exact Path.canonical_of_extension habsolute hextension
  · obtain ⟨ws, w, hconcat⟩ := exists_last_step dir hne htext
    rw [hconcat] at hplace hnames
    rw [hplace]
    exact .append hnames (String.ofList_toList ▸ (hextensions e he).1) (hextensions e he).2
  · rw [hplace, indexOf_place hnames]
    exact .append (Path.isName_concat hnames Path.isName_index)
      (String.ofList_toList ▸ (hextensions e he).1) (hextensions e he).2

/-- A canonical path does not name a directory by its very text. -/
theorem namesDirectory_of_canonical (h : q.Canonical) : namesDirectory q.text = false := by
  obtain ⟨ws, w, rfl, hnames, -⟩ := h
  have hw := hnames w (by simp)
  rw [← Bool.not_eq_true]
  intro htext
  obtain ⟨init, v, hpieces, hv⟩ := last_of_namesDirectory htext
  have hlast : (place (ws ++ [w])).pieces.getLast? = some w := by
    rw [place, Path.pieces_ofSteps fun u hu => (hnames u hu).toIsStep, if_pos rfl, if_neg (by simp),
      List.getLast?_cons, List.getLast?_concat]
    rfl
  change (place (ws ++ [w])).pieces = init ++ [v] at hpieces
  rw [hpieces, List.getLast?_concat, Option.some.injEq] at hlast
  subst hlast
  rcases hv with hv | hv
  · rw [hw.not_idle] at hv
    cases hv
  · exact hw.not_up hv

/-- A canonical path that is a file is what it names itself, from everywhere. -/
theorem resolveIn_of_canonical (h : q.Canonical) (hfile : isFile q = true) (dir : Path) :
    r.resolveIn isFile dir q.text = some q := by
  have hjoin : (dir.join ⟨q.text⟩).normalize = q := by
    have hq : Path.isAbsolute ⟨q.text⟩ = true := h.isAbsolute
    rw [Path.join_of_absolute hq]
    exact h.normalize_eq
  unfold resolveIn
  rw [hjoin, namesDirectory_of_canonical h]
  simp only [Bool.false_eq_true, if_false, h.extension, if_true, hfile]

theorem isAbsolute_directoryOf (hcwd : r.cwd.isAbsolute = true) {importer : Path}
    (h : importer.isAbsolute = true) : (r.directoryOf importer).isAbsolute = true := by
  unfold directoryOf
  cases hparent : importer.parent? with
  | none => exact hcwd
  | some dir =>
    simp only
    split_ifs
    · exact hcwd
    · obtain ⟨before, after, -, hdir | ⟨rfl, -⟩⟩ := Path.exists_chars_of_parent h hparent
      · exact hdir.2
      · rfl

/-- What an entry or a specifier in a module is resolved to is a file, absolute and in normal form,
and resolved again, from any module or as an entry, it stays what it is. -/
theorem resolve_canonical {files : Files} {specifier : String}
    (hcwd : r.cwd.isAbsolute = true)
    (hextensions : ∀ e ∈ r.extensions, Options.Dotted e ∧ '/' ∉ e.toList) (hne : specifier ≠ "")
    (h : r.resolveEntry files.isFile specifier = .ok q ∨
      ∃ importer, importer.isAbsolute = true ∧ r.resolve files.isFile specifier importer = .ok q) :
    q.isAbsolute = true ∧ q.normalize = q ∧ files.isFile q = true ∧
      r.resolveEntry files.isFile q.text = .ok q ∧
      ∀ importer, r.resolve files.isFile q.text importer = .ok q := by
  have hfound : ∃ dir, dir.isAbsolute = true ∧ r.resolveIn files.isFile dir specifier = some q := by
    rcases h with h | ⟨importer, himporter, h⟩
    · exact ⟨r.cwd, hcwd, resolveEntry_eq_ok.mp h⟩
    · exact ⟨_, isAbsolute_directoryOf hcwd himporter, resolve_eq_ok.mp h⟩
  obtain ⟨dir, hdir, hresolve⟩ := hfound
  obtain ⟨hmem, hfile⟩ := mem_candidates_of_resolveIn hresolve
  have hq := canonical_of_mem_candidates hdir hextensions hne hmem
  exact ⟨hq.isAbsolute, hq.normalize_eq, hfile,
    resolveEntry_eq_ok.mpr (resolveIn_of_canonical hq hfile _),
    fun _ => resolve_eq_ok.mpr (resolveIn_of_canonical hq hfile _)⟩

/-- A way round through a directory that is not there leads to the file under its one spelling. -/
theorem resolve_canonical_detour : ∃ q,
    (Resolver.mk ⟨"/p"⟩ defaultExtensions).resolve (FileStore.files Discovery.tangle).isFile
      "./x/../b" ⟨"/p/a.js"⟩ = .ok q ∧
    q.normalize = q ∧ ∀ importer, (Resolver.mk ⟨"/p"⟩ defaultExtensions).resolve
      (FileStore.files Discovery.tangle).isFile q.text importer = .ok q := by
  have hextensions : ∀ e ∈ defaultExtensions, Options.Dotted e ∧ '/' ∉ e.toList :=
    fun e he => ⟨dotted_of_defaultExtensions e he, by revert e; decide⟩
  have h : (Resolver.mk ⟨"/p"⟩ defaultExtensions).resolve (FileStore.files Discovery.tangle).isFile
      "./x/../b" ⟨"/p/a.js"⟩ = .ok ⟨"/p/b.js"⟩ := by decide +kernel
  obtain ⟨-, hnormal, -, -, hagain⟩ :=
    resolve_canonical rfl hextensions (by decide) (.inr ⟨_, rfl, h⟩)
  exact ⟨_, h, hnormal, hagain⟩

end Resolver

end ModuleBundler
