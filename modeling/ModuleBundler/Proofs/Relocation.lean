import Mathlib.Data.List.Find
import ModuleBundler.Proofs.Discovery.Faithful
import ModuleBundler.Proofs.Discovery.Mirror
import ModuleBundler.Proofs.Placement

namespace ModuleBundler

open ModuleBundler.Path (IsName Plain place staysBelow)

namespace Path

variable {p p' : Path}

/-- Two paths with the same names below two directories. -/
def Relocated (root root' p p' : Path) : Prop :=
  ∃ tail, Plain tail ∧ p = root.join tail ∧ p' = root'.join tail

variable {base base' ns : List (List Char)}

theorem relocated_place (hbase : ∀ w ∈ base, IsName w) (hbase' : ∀ w ∈ base', IsName w)
    (hne : ns ≠ []) (hns : ∀ w ∈ ns, IsName w) :
    Relocated (place base) (place base') (place (base ++ ns)) (place (base' ++ ns)) := by
  obtain ⟨tail, htail, rfl⟩ := exists_plain hne hns
  exact ⟨tail, htail, (join_place hbase htail).symm, (join_place hbase' htail).symm⟩

theorem Relocated.exists_names (hbase : ∀ w ∈ base, IsName w) (hbase' : ∀ w ∈ base', IsName w)
    (h : Relocated (place base) (place base') p p') :
    ∃ ns, ns ≠ [] ∧ (∀ w ∈ ns, IsName w) ∧ p = place (base ++ ns) ∧ p' = place (base' ++ ns) := by
  obtain ⟨tail, htail, rfl, rfl⟩ := h
  exact ⟨tail.pieces, tail.pieces_ne_nil, htail.isName, join_place hbase htail,
    join_place hbase' htail⟩

end Path

namespace Resolver

/-- A specifier that is relative and leads from the directory to nowhere above the root. -/
structure Inside (r : Resolver) (dir : Path) (specifier : String) : Prop where
  nonempty : specifier ≠ ""
  relative : (Path.mk specifier).isAbsolute = false
  below : staysBelow (dir.steps.length - r.cwd.steps.length) (Path.mk specifier).steps = true

instance (r : Resolver) (dir : Path) (specifier : String) : Decidable (r.Inside dir specifier) :=
  decidable_of_iff (specifier ≠ "" ∧ (Path.mk specifier).isAbsolute = false ∧
      staysBelow (dir.steps.length - r.cwd.steps.length) (Path.mk specifier).steps = true)
    ⟨fun h => ⟨h.1, h.2.1, h.2.2⟩, fun h => ⟨h.nonempty, h.relative, h.below⟩⟩

end Resolver

section Alike

variable {r r' : Resolver} {isFile isFile' : Path → Bool} {R : Path → Path → Prop}
  {specifier : String}

theorem Resolver.alike_resolveEntry
    (h : Option.Rel R (r.resolveIn isFile r.cwd specifier)
      (r'.resolveIn isFile' r'.cwd specifier)) :
    Alike R (r.resolveEntry isFile specifier) (r'.resolveEntry isFile' specifier) := by
  unfold resolveEntry
  generalize r.resolveIn isFile r.cwd specifier = found at h
  generalize r'.resolveIn isFile' r'.cwd specifier = found' at h
  cases h with
  | none => exact .error _ _
  | some h => exact .ok h

theorem Resolver.alike_resolve {p p' : Path}
    (h : Option.Rel R (r.resolveIn isFile (r.directoryOf p) specifier)
      (r'.resolveIn isFile' (r'.directoryOf p') specifier)) :
    Alike R (r.resolve isFile specifier p) (r'.resolve isFile' specifier p') := by
  unfold resolve
  generalize r.resolveIn isFile (r.directoryOf p) specifier = found at h
  generalize r'.resolveIn isFile' (r'.directoryOf p') specifier = found' at h
  cases h with
  | none => exact .error _ _
  | some h => exact .ok h

end Alike

/-- Two projects in different directories: below them, the same files with the same texts and
specifiers, and no specifier that discovery meets leads out. -/
structure Relocation (r r' : Resolver) (files files' : Files) (extract : Extractor)
    (entry : String) : Prop where
  absolute : r.cwd.isAbsolute = true
  normal : r.cwd.normalize = r.cwd
  absolute' : r'.cwd.isAbsolute = true
  normal' : r'.cwd.normalize = r'.cwd
  extensions_eq : r'.extensions = r.extensions
  flat : ∀ e ∈ r.extensions, '/' ∉ e.toList
  isFile_eq : ∀ p, Plain p → files'.isFile (r'.cwd.join p) = files.isFile (r.cwd.join p)
  read_iff : ∀ p, Plain p → ∀ source,
    files.read (r.cwd.join p) = .ok source ↔ files'.read (r'.cwd.join p) = .ok source
  extract_iff : ∀ p, Plain p → ∀ source specifiers,
    extract source (r.cwd.join p) = .ok specifiers ↔
      extract source (r'.cwd.join p) = .ok specifiers
  entry_inside : r.Inside r.cwd entry
  met_inside : ∀ importer specifier,
    Discovery.Meets (r.host files extract) entry importer specifier →
      r.Inside (r.directoryOf importer) specifier

theorem alike_of_iff {ε ε' α : Type} {x : Except ε α} {y : Except ε' α}
    (h : ∀ a, x = .ok a ↔ y = .ok a) : Alike Eq x y := by
  cases x with
  | ok a =>
    rw [(h a).mp rfl]
    exact .ok rfl
  | error e =>
    cases y with
    | ok a => cases (h a).mpr rfl
    | error e' => exact .error e e'

namespace Relocation

variable {r r' : Resolver} {files files' : Files} {extract : Extractor} {entry : String}

section

variable (h : Relocation r r' files files' extract entry)

include h

theorem place_cwd : place r.cwd.steps = r.cwd ∧ ∀ w ∈ r.cwd.steps, IsName w :=
  Path.place_steps h.absolute h.normal

theorem place_cwd' : place r'.cwd.steps = r'.cwd ∧ ∀ w ∈ r'.cwd.steps, IsName w :=
  Path.place_steps h.absolute' h.normal'

theorem exists_names {p p' : Path} (hp : Path.Relocated r.cwd r'.cwd p p') :
    ∃ ns, ns ≠ [] ∧ (∀ w ∈ ns, IsName w) ∧ p = place (r.cwd.steps ++ ns) ∧
      p' = place (r'.cwd.steps ++ ns) := by
  obtain ⟨hcwd, hbase⟩ := h.place_cwd
  obtain ⟨hcwd', hbase'⟩ := h.place_cwd'
  rw [← hcwd, ← hcwd'] at hp
  exact hp.exists_names hbase hbase'

theorem relocated {ns : List (List Char)} (hne : ns ≠ []) (hns : ∀ w ∈ ns, IsName w) :
    Path.Relocated r.cwd r'.cwd (place (r.cwd.steps ++ ns)) (place (r'.cwd.steps ++ ns)) := by
  obtain ⟨hcwd, hbase⟩ := h.place_cwd
  obtain ⟨hcwd', hbase'⟩ := h.place_cwd'
  have hp := Path.relocated_place hbase hbase' hne hns
  rw [hcwd, hcwd'] at hp
  exact hp

/-- From directories with the same names below the roots, a specifier that stays inside leads to
corresponding files. -/
theorem resolveIn_rel {names : List (List Char)} {specifier : String}
    (hnames : ∀ w ∈ names, IsName w) (hinside : r.Inside (place (r.cwd.steps ++ names)) specifier) :
    Option.Rel (Path.Relocated r.cwd r'.cwd)
      (r.resolveIn files.isFile (place (r.cwd.steps ++ names)) specifier)
      (r'.resolveIn files'.isFile (place (r'.cwd.steps ++ names)) specifier) := by
  obtain ⟨-, hbase⟩ := h.place_cwd
  obtain ⟨-, hbase'⟩ := h.place_cwd'
  have hbelow := hinside.below
  rw [Path.steps_place (Path.isName_append hbase hnames), List.length_append,
    Nat.add_sub_cancel_left] at hbelow
  have hlocal : r'.localCandidates names specifier = r.localCandidates names specifier := by
    unfold Resolver.localCandidates Resolver.extendedNames
    rw [h.extensions_eq]
  have hfound (ns : List (List Char)) (hns : ns ∈ r.localCandidates names specifier) :=
    Resolver.isName_of_mem_localCandidates hnames hinside.nonempty h.flat hns
  rw [Resolver.resolveIn_eq_find, Resolver.resolveIn_eq_find,
    Resolver.candidates_place hnames hinside.nonempty hinside.relative hbelow hbase,
    Resolver.candidates_place hnames hinside.nonempty hinside.relative hbelow hbase', hlocal,
    List.find?_map, List.find?_map]
  have hfile (ns : List (List Char)) (hns : ns ∈ r.localCandidates names specifier) :
      (files'.isFile ∘ fun ns => place (r'.cwd.steps ++ ns)) ns =
        (files.isFile ∘ fun ns => place (r.cwd.steps ++ ns)) ns := by
    obtain ⟨tail, htail, hp, hp'⟩ := h.relocated (hfound ns hns).1 (hfound ns hns).2
    simp only [Function.comp_apply, hp, hp']
    exact h.isFile_eq tail htail
  rw [List.find?_congr hfile]
  cases hfind : (r.localCandidates names specifier).find?
      (files.isFile ∘ fun ns => place (r.cwd.steps ++ ns)) with
  | none => exact .none
  | some ns =>
    have hns := hfound ns (List.mem_of_find?_eq_some hfind)
    exact .some (h.relocated hns.1 hns.2)

/-- The hosts of the two projects give corresponding answers. -/
theorem mirrored : Discovery.Mirrored (Path.Relocated r.cwd r'.cwd) (r.host files extract)
    (r'.host files' extract) entry := by
  obtain ⟨hcwd, hbase⟩ := h.place_cwd
  obtain ⟨hcwd', hbase'⟩ := h.place_cwd'
  constructor
  · intro p q p' q' hp hq
    obtain ⟨ns, -, hns, rfl, rfl⟩ := h.exists_names hp
    obtain ⟨ms, -, hms, rfl, rfl⟩ := h.exists_names hq
    rw [Path.place_append_inj hbase hns hms, Path.place_append_inj hbase' hns hms]
  · intro p p' hp
    obtain ⟨ns, -, hns, rfl, rfl⟩ := h.exists_names hp
    change (place (r'.cwd.steps ++ ns)).stable r'.cwd = (place (r.cwd.steps ++ ns)).stable r.cwd
    rw [← hcwd, ← hcwd', Path.steps_place hbase, Path.steps_place hbase',
      Path.stable_place hbase hns, Path.stable_place hbase' hns]
  · have hinside : r.Inside (place (r.cwd.steps ++ [])) entry := by
      rw [List.append_nil, hcwd]
      exact h.entry_inside
    have hrel := h.resolveIn_rel (fun w hw => absurd hw List.not_mem_nil) hinside
    rw [List.append_nil, List.append_nil, hcwd, hcwd'] at hrel
    exact Resolver.alike_resolveEntry hrel
  · intro p p' specifier hp hmet
    have hinside := h.met_inside p specifier hmet
    obtain ⟨ns, hne, hns, rfl, rfl⟩ := h.exists_names hp
    rw [Resolver.directoryOf_place hne (Path.isName_append hbase hns)] at hinside
    have hrel := h.resolveIn_rel (fun w hw => hns w (List.dropLast_subset ns hw)) hinside
    rw [← Resolver.directoryOf_place hne (Path.isName_append hbase hns),
      ← Resolver.directoryOf_place hne (Path.isName_append hbase' hns)] at hrel
    exact Resolver.alike_resolve hrel
  · rintro p p' ⟨tail, htail, rfl, rfl⟩
    refine alike_of_iff fun source => ?_
    exact Files.load_eq_ok.trans ((h.read_iff tail htail source).trans Files.load_eq_ok.symm)
  · rintro p p' source ⟨tail, htail, rfl, rfl⟩
    refine alike_of_iff fun specifiers => ?_
    exact Extractor.ofModule_eq_ok.trans
      ((h.extract_iff tail htail source specifiers).trans Extractor.ofModule_eq_ok.symm)

end

end Relocation

namespace Discovery

variable {R : Path → Path → Prop} {cwd cwd' : Path} {d d' : Discovery}

theorem row_eq_of_mirrors (hstable : ∀ p p', R p p' → p'.stable cwd' = p.stable cwd) {a a' : Asset}
    (h : a.Mirrors R a') : Output.row cwd' a' = Output.row cwd a := by
  delta Output.row
  rw [hstable _ _ h.path, h.index_eq, h.source_eq, h.dependencies_eq]

/-- What corresponding assets have in common, the lists of assets have. -/
theorem Mirrors.map_eq {β : Type} {f f' : Asset → β} (h : d.Mirrors R d')
    (hf : ∀ a a', a.Mirrors R a' → f' a' = f a) :
    d'.graph.assets.toList.map f' = d.graph.assets.toList.map f := by
  refine List.ext_getElem? fun i => ?_
  rw [List.getElem?_map, List.getElem?_map, Array.getElem?_toList, Array.getElem?_toList]
  by_cases hi : i < d.graph.assets.size
  · have hi' : i < d'.graph.assets.size := h.size_eq.symm ▸ hi
    have hasset := h.asset i _ _ (Array.getElem?_eq_getElem hi) (Array.getElem?_eq_getElem hi')
    rw [Array.getElem?_eq_getElem hi, Array.getElem?_eq_getElem hi', Option.map_some,
      Option.map_some, hf _ _ hasset]
  · have hi' : ¬i < d'.graph.assets.size := h.size_eq.symm ▸ hi
    rw [Array.getElem?_eq_none (Nat.le_of_not_lt hi), Array.getElem?_eq_none (Nat.le_of_not_lt hi')]
    rfl

/-- Discoveries of the same shape make the same bundle, if corresponding paths have the same
name. -/
theorem Mirrors.bundleText_eq (h : d.Mirrors R d')
    (hstable : ∀ p p', R p p' → p'.stable cwd' = p.stable cwd) (name : Option String) :
    d'.graph.bundleText cwd' name = d.graph.bundleText cwd name := by
  have hrows := h.map_eq fun _ _ ha => row_eq_of_mirrors hstable ha
  unfold AssetGraph.bundleText
  rw [hrows, h.entry_eq]

variable {r r' : Resolver} {files files' : Files} {extract : Extractor} {entry : String}

/-- A project that is moved is discovered as before, and its bundle is the same text: the one
discovery succeeds where the other does, the assets have the same names below the roots, and in
everything else, the reported cycles included, they are equal. -/
theorem discover_relocated (h : Relocation r r' files files' extract entry) (fuel : Nat) :
    ((∃ d, discover (r.host files extract) fuel entry = .ok (some d)) ↔
      ∃ d', discover (r'.host files' extract) fuel entry = .ok (some d')) ∧
    ∀ d d', discover (r.host files extract) fuel entry = .ok (some d) →
      discover (r'.host files' extract) fuel entry = .ok (some d') →
        d.Mirrors (Path.Relocated r.cwd r'.cwd) d' ∧
        ∀ name, ∃ text, d.graph.generate r.cwd name = .ok text ∧
          d'.graph.generate r'.cwd name = .ok text := by
  have halike := discover_mirrors h.mirrored fuel
  refine ⟨halike.exists_some_iff, ?_⟩
  intro d d' hd hd'
  rw [hd, hd'] at halike
  have hmirrors := halike.of_some
  refine ⟨hmirrors, fun name => ⟨d.graph.bundleText r.cwd name, ?_, ?_⟩⟩
  · exact (faithful_of_discover hd).closed.generate_eq r.cwd name
  · have htext : d'.graph.bundleText r'.cwd name = d.graph.bundleText r.cwd name :=
      hmirrors.bundleText_eq h.mirrored.stable name
    rw [(faithful_of_discover hd').closed.generate_eq r'.cwd name, htext]

/-- What discovery meets stands in the text of a file. -/
theorem Meets.read {importer : Path} {specifier : String}
    (h : Meets (r.host files extract) entry importer specifier) :
    ∃ source specifiers, files.read importer = .ok source ∧
      extract source importer = .ok specifiers ∧ specifier ∈ specifiers := by
  obtain ⟨t, i, next, rest, hreached, hs, hn, rfl⟩ := h
  have hinv := hreached.invariant
  have hi : i < t.registry.assets.size := by
    refine hinv.stacked.lt_size i ?_
    rw [hs]
    exact List.mem_cons_self
  exact ⟨_, _, Files.load_eq_ok.mp (hinv.registered.loaded i hi),
    Extractor.ofModule_eq_ok.mp (hinv.registered.extracted i hi), List.mem_of_getElem? hn⟩

section Project

/-- The files with these names and texts below a directory. -/
def project (root : Path) (sources : List (Path × String)) : Files where
  isFile p := (sources.find? fun e => root.join e.1 = p).isSome
  read p :=
    match sources.find? fun e => root.join e.1 = p with
    | some e => .ok e.2
    | none => .error .notFound

variable {root root' p q : Path} {sources : List (Path × String)}

theorem join_inj (habsolute : root.isAbsolute = true) (hnormal : root.normalize = root)
    (hp : Plain p) (hq : Plain q) : root.join p = root.join q ↔ p = q := by
  obtain ⟨hplace, hbase⟩ := Path.place_steps habsolute hnormal
  rw [← hplace, Path.join_place hbase hp, Path.join_place hbase hq,
    Path.place_append_inj hbase hp.isName hq.isName]
  constructor
  · intro h
    rw [← Path.chars_inj, ← p.join_pieces, h, q.join_pieces]
  · rintro rfl
    rfl

theorem find?_join (habsolute : root.isAbsolute = true) (hnormal : root.normalize = root)
    (hsources : ∀ e ∈ sources, Plain e.1) (hp : Plain p) :
    (sources.find? fun e => root.join e.1 = root.join p) = sources.find? fun e => e.1 = p :=
  List.find?_congr fun e he => decide_eq_decide.mpr (join_inj habsolute hnormal (hsources e he) hp)

/-- What a path of names leads to does not depend on where the project lives. -/
theorem project_eq (root root' : Path) (habsolute : root.isAbsolute = true)
    (hnormal : root.normalize = root) (habsolute' : root'.isAbsolute = true)
    (hnormal' : root'.normalize = root') (hsources : ∀ e ∈ sources, Plain e.1) (hp : Plain p) :
    (project root' sources).isFile (root'.join p) = (project root sources).isFile (root.join p) ∧
      (project root' sources).read (root'.join p) = (project root sources).read (root.join p) := by
  simp only [project, find?_join habsolute hnormal hsources hp,
    find?_join habsolute' hnormal' hsources hp, and_self]

theorem exists_source {source : String} (h : (project root sources).read p = .ok source) :
    ∃ e ∈ sources, root.join e.1 = p ∧ e.2 = source := by
  unfold project at h
  simp only at h
  split at h
  · rename_i e he
    cases h
    have hp := List.find?_some he
    exact ⟨e, List.mem_of_find?_eq_some he, of_decide_eq_true hp, rfl⟩
  · cases h

/-- Three modules, of which one imports its importer back from a directory below. -/
def cottage : List (Path × String) :=
  [(⟨"a.js"⟩, "import ./lib/b\nimport ./lib"),
    (⟨"lib/b.js"⟩, "import ../a"),
    (⟨"lib/index.js"⟩, "")]

/-- The same project at the root of all files and in the home of a user. -/
theorem relocation_cottage : Relocation ⟨⟨"/"⟩, [".js"]⟩ ⟨⟨"/home/x"⟩, [".js"]⟩
    (project ⟨"/"⟩ cottage) (project ⟨"/home/x"⟩ cottage) Extract.lines "a" := by
  have hsources : ∀ e ∈ cottage, Plain e.1 := by
    unfold Plain
    decide
  have hinside : ∀ e ∈ cottage,
      ∀ specifiers ∈ (Extract.lines e.2 ((Path.mk "/").join e.1)).toOption,
        ∀ specifier ∈ specifiers, (Resolver.mk ⟨"/"⟩ [".js"]).Inside
          ((Resolver.mk ⟨"/"⟩ [".js"]).directoryOf ((Path.mk "/").join e.1)) specifier := by
    decide +kernel
  have hsame (p : Path) (hp : Plain p) :=
    project_eq ⟨"/"⟩ ⟨"/home/x"⟩ (by decide) (by decide) (by decide) (by decide) hsources hp
  refine ⟨by decide, by decide, by decide, by decide, rfl, by decide, fun p hp => (hsame p hp).1,
    ?_, fun _ _ _ _ => Iff.rfl, by decide, ?_⟩
  · intro p hp source
    rw [(hsame p hp).2]
  · intro importer specifier hmet
    obtain ⟨source, specifiers, hread, hextract, hmem⟩ := hmet.read
    obtain ⟨e, he, rfl, rfl⟩ := exists_source hread
    refine hinside e he specifiers ?_ specifier hmem
    rw [hextract]
    rfl

theorem discover_relocated_cottage : ∃ d d' text,
    discover ((Resolver.mk ⟨"/"⟩ [".js"]).host (project ⟨"/"⟩ cottage) Extract.lines) 20 "a" =
      .ok (some d) ∧
    discover ((Resolver.mk ⟨"/home/x"⟩ [".js"]).host (project ⟨"/home/x"⟩ cottage) Extract.lines) 20
        "a" = .ok (some d') ∧
    d'.cycles = d.cycles ∧ d.graph.generate ⟨"/"⟩ none = .ok text ∧
      d'.graph.generate ⟨"/home/x"⟩ none = .ok text := by
  obtain ⟨d, hd⟩ := exists_eq_ok_some (x := discover ((Resolver.mk ⟨"/"⟩ [".js"]).host
    (project ⟨"/"⟩ cottage) Extract.lines) 20 "a") (by decide +kernel)
  obtain ⟨hsucceeds, hsame⟩ := discover_relocated relocation_cottage 20
  obtain ⟨d', hd'⟩ := hsucceeds.mp ⟨d, hd⟩
  obtain ⟨hmirrors, htext⟩ := hsame d d' hd hd'
  obtain ⟨text, htext, htext'⟩ := htext none
  exact ⟨d, d', text, hd, hd', hmirrors.cycles_eq, htext, htext'⟩

end Project

end Discovery

end ModuleBundler
