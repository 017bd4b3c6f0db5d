import ModuleBundler.Proofs.Canonical
import ModuleBundler.Proofs.Discovery.Cycles

namespace ModuleBundler

open ModuleBundler.Path (IsName IsStep up walk)

namespace Path

variable {p q base : Path} {ws names : List (List Char)} {absolute : Bool}

/-- What is left of two lists follows the same beginning. -/
theorem exists_common {α : Type} [DecidableEq α] (xs ys : List α) : ∃ common,
    xs = common ++ (dropCommon xs ys).1 ∧ ys = common ++ (dropCommon xs ys).2 := by
  induction xs generalizing ys with
  | nil => exact ⟨[], rfl, by cases ys <;> rfl⟩
  | cons x xs ih =>
    cases ys with
    | nil => exact ⟨[], rfl, rfl⟩
    | cons y ys =>
      rw [dropCommon]
      by_cases hxy : x = y
      · subst hxy
        obtain ⟨common, hxs, hys⟩ := ih ys
        rw [if_pos rfl]
        exact ⟨x :: common, congrArg (x :: ·) hxs, congrArg (x :: ·) hys⟩
      · rw [if_neg hxy]
        exact ⟨[], rfl, rfl⟩

/-- As many ways up as there are names take all of them back. -/
theorem foldl_walk_up (h : ∀ w ∈ ws, w ≠ up) (trail : List (List Char)) :
    (List.replicate ws.length up).foldl (walk absolute) (ws ++ trail) = trail := by
  induction ws with
  | nil => rfl
  | cons w ws ih =>
    rw [List.length_cons, List.replicate_succ, List.foldl_cons, List.cons_append,
      walk_up_cons (h w List.mem_cons_self)]
    exact ih fun v hv => h v (List.mem_cons_of_mem w hv)

/-- The path that leads up `n` times and then down by the names. -/
def way (n : Nat) (names : List (List Char)) : Path :=
  ofChars (Text.join '/' (List.replicate n up ++ names))

theorem isStep_of_mem_way (n : Nat) (h : ∀ w ∈ names, IsName w) :
    ∀ w ∈ List.replicate n up ++ names, IsStep w := by
  intro w hw
  rcases List.mem_append.mp hw with hw | hw
  · rw [List.eq_of_mem_replicate hw]
    exact ⟨by decide, by decide⟩
  · exact (h w hw).toIsStep

theorem pieces_way (n : Nat) (h : ∀ w ∈ names, IsName w)
    (hne : List.replicate n up ++ names ≠ []) :
    (way n names).pieces = List.replicate n up ++ names := by
  rw [way, pieces_ofChars_join hne fun w hw => (isStep_of_mem_way n h w hw).no_slash]

theorem steps_way (n : Nat) (h : ∀ w ∈ names, IsName w) :
    (way n names).steps = List.replicate n up ++ names := by
  by_cases hnil : List.replicate n up ++ names = []
  · rw [way, hnil]
    rfl
  · rw [steps, pieces_way n h hnil, filter_steps fun w hw => (isStep_of_mem_way n h w hw).not_idle]

theorem relative_way (n : Nat) (h : ∀ w ∈ names, IsName w) : (way n names).isAbsolute = false := by
  by_cases hnil : List.replicate n up ++ names = []
  · rw [way, hnil]
    rfl
  · rw [← Bool.not_eq_true]
    intro habsolute
    obtain ⟨ws, hws⟩ := pieces_of_absolute habsolute
    rw [pieces_way n h hnil] at hws
    exact (isStep_of_mem_way n h [] (hws ▸ List.mem_cons_self)).ne_nil rfl

/-- The steps of an absolute path, read from the root. -/
theorem steps_absolutize (hp : p.isAbsolute = true) :
    (p.absolutize root).steps = p.normalSteps := by
  obtain ⟨hplace, hnames⟩ := normalize_eq_place hp
  rw [absolutize, if_pos hp, hplace, steps_place hnames]

/-- The name of a path is the way to it from the last directory in common, after the way up to
that. -/
theorem stable_eq_way (hp : p.isAbsolute = true) (hbase : base.isAbsolute = true) :
    ∃ common back names, p.normalSteps = common ++ names ∧ base.normalSteps = common ++ back ∧
      Path.mk (p.stable base) = way back.length names := by
  obtain ⟨common, hnames, hback⟩ := exists_common p.normalSteps base.normalSteps
  refine ⟨common, _, _, hnames, hback, ?_⟩
  rw [stable, if_pos hp, relativeTo, steps_absolutize hp, steps_absolutize hbase, way]

/-- From the directory that it was made for, a name leads back to its path. -/
theorem normalize_join_stable (hp : p.isAbsolute = true) (hbase : base.isAbsolute = true) :
    (base.join ⟨p.stable base⟩).normalize = p.normalize := by
  obtain ⟨common, back, names, hsteps, hbasesteps, hway⟩ := stable_eq_way hp hbase
  obtain ⟨-, hall⟩ := normalize_eq_place hp
  obtain ⟨-, hallbase⟩ := normalize_eq_place hbase
  rw [hsteps] at hall
  rw [hbasesteps] at hallbase
  have hnames : ∀ w ∈ names, IsName w := fun w hw => hall w (List.mem_append_right _ hw)
  have hback : ∀ w ∈ back.reverse, w ≠ up := fun w hw =>
    (hallbase w (List.mem_append_right _ (List.mem_reverse.mp hw))).not_up
  have hwalk : base.steps.foldl (walk true) [] = back.reverse ++ common.reverse := by
    rw [← List.reverse_append, ← hbasesteps, normalSteps, fold, hbase, List.reverse_reverse]
  have hfold : (base.join (way back.length names)).normalSteps = p.normalSteps := by
    rw [normalSteps, isAbsolute_join hbase, steps_join (relative_way _ hnames), steps_way _ hnames,
      fold, List.foldl_append, List.foldl_append, hwalk, ← List.length_reverse, foldl_walk_up hback,
      foldl_walk_names _ hnames, List.reverse_append, List.reverse_reverse, List.reverse_reverse,
      hsteps]
  rw [hway, normalize, normalize, isAbsolute_join hbase, hfold, hp]

/-- Two absolute paths in normal form have two names. -/
theorem stable_inj (hp : p.isAbsolute = true) (hq : q.isAbsolute = true)
    (hbase : base.isAbsolute = true) (hpnormal : p.normalize = p) (hqnormal : q.normalize = q)
    (h : p.stable base = q.stable base) : p = q := by
  calc
    p = p.normalize := hpnormal.symm
    _ = (base.join ⟨p.stable base⟩).normalize := (normalize_join_stable hp hbase).symm
    _ = (base.join ⟨q.stable base⟩).normalize := by rw [h]
    _ = q.normalize := normalize_join_stable hq hbase
    _ = q := hqnormal

end Path

namespace AssetGraph

/-- All assets have absolute paths in normal form. -/
def Normal (g : AssetGraph) : Prop :=
  ∀ a ∈ g.assets, a.path.isAbsolute = true ∧ a.path.normalize = a.path

end AssetGraph

namespace Discovery

/-- Lists with the same images are the same, where the function tells their elements apart. -/
theorem eq_of_map_eq {α β : Type} {f : α → β} {xs ys : List α}
    (h : ∀ x ∈ xs, ∀ y ∈ ys, f x = f y → x = y) (hmap : xs.map f = ys.map f) : xs = ys := by
  induction xs generalizing ys with
  | nil => exact (List.map_eq_nil_iff.mp hmap.symm).symm
  | cons x xs ih =>
    cases ys with
    | nil => cases hmap
    | cons y ys =>
      obtain ⟨hhead, htail⟩ := List.cons.inj hmap
      obtain rfl := h x List.mem_cons_self y List.mem_cons_self hhead
      have hrest (x' : α) (hx' : x' ∈ xs) (y' : α) (hy' : y' ∈ ys) : f x' = f y' → x' = y' :=
        h x' (List.mem_cons_of_mem x hx') y' (List.mem_cons_of_mem x hy')
      rw [ih hrest htail]

section Cycles

variable {ε : Type} {host : Host (Except ε)} {fuel : Nat} {entry : String} {d : Discovery}

/-- Where the assets have normal paths, a reported cycle is that of one walk only. -/
theorem existsUnique_walk (h : discover host fuel entry = .ok (some d))
    (hcwd : host.cwd.isAbsolute = true) (hnormal : d.graph.Normal) {c : Cycle}
    (hc : c ∈ d.cycles) : ∃! walk : List Nat, (∀ i ∈ walk, i < d.graph.assets.size) ∧
      c = d.graph.cycleAlong host.cwd walk := by
  obtain ⟨t, hreached, -, rfl⟩ := exists_reached_of_discover h
  obtain ⟨walks, finished, hreported⟩ := hreached.reported
  have hcycles : c ∈ walks.map (t.registry.cycleAlong host.cwd) := hreported.cycles_eq ▸ hc
  obtain ⟨walk, hwalk, rfl⟩ := List.mem_map.mp hcycles
  have hlt := hreported.lt_size walk hwalk
  have normal (i : Nat) (hi : i < t.registry.assets.size) :=
    hnormal _ (Array.mem_of_getElem? (t.registry.getElem?_assets i hi))
  refine ⟨walk, ⟨hlt, rfl⟩, ?_⟩
  rintro other ⟨hother, hsame⟩
  refine eq_of_map_eq ?_ (congrArg Cycle.members hsame).symm
  intro i hi j hj hname
  obtain ⟨hiabsolute, hinormal⟩ := normal i (hother i hi)
  obtain ⟨hjabsolute, hjnormal⟩ := normal j (hlt j hj)
  exact hreached.invariant.registered.wellFormed.path_inj i j (hother i hi) (hlt j hj)
    (Path.stable_inj hiabsolute hjabsolute hcwd hinormal hjnormal hname)

end Cycles

section Scan

variable {r : Resolver} {files : Files} {extract : Extractor} {entry : String}

/-- Whatever the entry leads to has a canonical path, unless an empty specifier is met. -/
theorem Reachable.canonical (hcwd : r.cwd.isAbsolute = true)
    (hextensions : ∀ e ∈ r.extensions, Options.Dotted e ∧ '/' ∉ e.toList) (hentry : entry ≠ "")
    (hspecifiers : "" ∉ specifiersOf files extract) {p : Path}
    (hp : Reachable (r.host files extract) entry p) : p.Canonical := by
  induction hp with
  | entry hresolve =>
    obtain ⟨hmem, -⟩ :=
      Resolver.mem_candidates_of_resolveIn (Resolver.resolveEntry_eq_ok.mp hresolve)
    exact Resolver.canonical_of_mem_candidates hcwd hextensions hentry hmem
  | @dependency p q source specifiers specifier hp hsource hextract hs hresolve ih =>
    obtain ⟨hmem, -⟩ := Resolver.mem_candidates_of_resolveIn (Resolver.resolve_eq_ok.mp hresolve)
    refine Resolver.canonical_of_mem_candidates
      (Resolver.isAbsolute_directoryOf hcwd ih.isAbsolute) hextensions ?_ hmem
    rintro rfl
    exact hspecifiers ⟨p, source, specifiers, Files.load_eq_ok.mp hsource,
      Extractor.ofModule_eq_ok.mp hextract, hs⟩

theorem normal_of_discover (hcwd : r.cwd.isAbsolute = true)
    (hextensions : ∀ e ∈ r.extensions, Options.Dotted e ∧ '/' ∉ e.toList) (hentry : entry ≠ "")
    (hspecifiers : "" ∉ specifiersOf files extract) {fuel : Nat} {d : Discovery}
    (h : discover (r.host files extract) fuel entry = .ok (some d)) : d.graph.Normal := by
  obtain ⟨t, hreached, rfl, -⟩ := explored_of_discover h
  intro a ha
  obtain ⟨i, hi⟩ := Array.mem_iff_getElem?.mp ha
  obtain ⟨hlt, rfl⟩ := Registry.getElem?_eq_some_iff.mp hi
  have hcanonical :=
    (hreached.invariant.reachable hlt).canonical hcwd hextensions hentry hspecifiers
  exact ⟨hcanonical.isAbsolute, hcanonical.normalize_eq⟩

end Scan

/-- The name of a module loses nothing: it is a relative path, first up and then down, and leads
back to the module from where it was made. So modules with paths in normal form, which are those of
a scan, have names of their own, and a reported cycle tells the modules on it. -/
theorem stable_lossless :
    (∀ p base : Path, p.isAbsolute = true → base.isAbsolute = true →
      (Path.mk (p.stable base)).isAbsolute = false ∧
      (∃ n names, Path.mk (p.stable base) = Path.way n names ∧ ∀ w ∈ names, IsName w) ∧
      (base.join ⟨p.stable base⟩).normalize = p.normalize) ∧
    (∀ p q base : Path, p.isAbsolute = true → q.isAbsolute = true → base.isAbsolute = true →
      p.normalize = p → q.normalize = q → p.stable base = q.stable base → p = q) ∧
    (∀ {ε : Type} (host : Host (Except ε)) (fuel : Nat) (entry : String) (d : Discovery),
      discover host fuel entry = .ok (some d) → host.cwd.isAbsolute = true → d.graph.Normal →
        ∀ c ∈ d.cycles, ∃! walk : List Nat, (∀ i ∈ walk, i < d.graph.assets.size) ∧
          c = d.graph.cycleAlong host.cwd walk) ∧
    ∀ (r : Resolver) (files : Files) (extract : Extractor) (fuel : Nat) (entry : String)
      (d : Discovery), r.cwd.isAbsolute = true →
      (∀ e ∈ r.extensions, Options.Dotted e ∧ '/' ∉ e.toList) → entry ≠ "" →
      "" ∉ specifiersOf files extract →
        discover (r.host files extract) fuel entry = .ok (some d) → d.graph.Normal := by
  refine ⟨?_, ?_, ?_, ?_⟩
  · intro p base hp hbase
    obtain ⟨common, back, names, hsteps, -, hway⟩ := Path.stable_eq_way hp hbase
    have hnames : ∀ w ∈ names, IsName w := fun w hw =>
      (Path.normalize_eq_place hp).2 w (hsteps ▸ List.mem_append_right _ hw)
    refine ⟨?_, ⟨back.length, names, hway, hnames⟩, Path.normalize_join_stable hp hbase⟩
    rw [hway, Path.relative_way _ hnames]
  · intro p q base hp hq hbase hpnormal hqnormal hname
    exact Path.stable_inj hp hq hbase hpnormal hqnormal hname
  · intro ε host fuel entry d h hcwd hnormal c hc
    exact existsUnique_walk h hcwd hnormal hc
  · intro r files extract fuel entry d hcwd hextensions hentry hspecifiers h
    exact normal_of_discover hcwd hextensions hentry hspecifiers h

/-- From a working directory that is not in normal form, the names of two cycles. -/
theorem stable_lossless_tangle :
    ((Path.mk "/q/../p").join ⟨(Path.mk "/lib/../x/b.js").stable ⟨"/q/../p"⟩⟩).normalize =
      ⟨"/x/b.js"⟩ ∧
    ∃ d, discover ((Resolver.mk ⟨"/q/../p"⟩ [".js"]).host (FileStore.files tangle) Extract.lines)
        20 "a" = .ok (some d) ∧
      d.cycles = [⟨["a.js", "b.js", "a.js"]⟩, ⟨["a.js", "a.js"]⟩] ∧
      ∀ c ∈ d.cycles, ∃! walk : List Nat, (∀ i ∈ walk, i < d.graph.assets.size) ∧
        c = d.graph.cycleAlong ⟨"/q/../p"⟩ walk := by
  obtain ⟨hname, -, hcycles, -⟩ := stable_lossless
  constructor
  · rw [(hname ⟨"/lib/../x/b.js"⟩ ⟨"/q/../p"⟩ rfl rfl).2.2]
    decide +kernel
  · obtain ⟨d, hd, hall⟩ := exists_eq_ok_some_of (x := discover
      ((Resolver.mk ⟨"/q/../p"⟩ [".js"]).host (FileStore.files tangle) Extract.lines) 20 "a")
      (p := fun d => d.graph.assets.all (fun a => a.path.isAbsolute && a.path.normalize = a.path) &&
        d.cycles = [⟨["a.js", "b.js", "a.js"]⟩, ⟨["a.js", "a.js"]⟩]) (by decide +kernel)
    rw [Bool.and_eq_true, decide_eq_true_eq, Array.all_eq_true'] at hall
    have hnormal : d.graph.Normal := by
      intro a ha
      have hpath := hall.1 a ha
      rw [Bool.and_eq_true, decide_eq_true_eq] at hpath
      exact hpath
    have hwalks := hcycles _ 20 "a" d hd rfl hnormal
    exact ⟨d, hd, hall.2, hwalks⟩

end Discovery

end ModuleBundler
