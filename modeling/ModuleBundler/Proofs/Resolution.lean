import ModuleBundler.Proofs.Discovery.Reachability
import ModuleBundler.Proofs.Path.Steps

namespace ModuleBundler

open ModuleBundler.Path (isIdle)

namespace Resolver

variable {r : Resolver} {isFile : Path → Bool} {dir p q : Path} {specifier : String}

theorem probe_eq_find (r : Resolver) (isFile : Path → Bool) (p : Path) :
    r.probe isFile p = (r.extensions.map fun e => p.append e.toList).find? isFile := rfl

/-- The file that a specifier names is the first file among its candidates. -/
theorem resolveIn_eq_find (r : Resolver) (isFile : Path → Bool) (dir : Path) (specifier : String) :
    r.resolveIn isFile dir specifier = (r.candidates dir specifier).find? isFile := by
  unfold resolveIn candidates
  simp only [probe_eq_find]
  split_ifs with hdirectory hextension hfile
  · rfl
  · rw [List.find?_cons_of_pos hfile]
  · rw [List.find?_cons_of_neg hfile]
  · rw [List.find?_append]
    cases List.find? isFile _ <;> rfl

theorem mem_candidates_of_resolveIn (h : r.resolveIn isFile dir specifier = some q) :
    q ∈ r.candidates dir specifier ∧ isFile q = true := by
  rw [resolveIn_eq_find] at h
  exact ⟨List.mem_of_find?_eq_some h, List.find?_some h⟩

/-- A candidate is the place that the specifier leads to, if that has an extension, or it is that
place or its index with one of the extensions to try. A specifier that names a directory by its very
text only leads to an index. -/
theorem mem_candidates (h : q ∈ r.candidates dir specifier) :
    (q = (dir.join ⟨specifier⟩).normalize ∧ q.extension?.isSome = true) ∨
    ∃ e ∈ r.extensions, ∃ base, q = base.append e.toList ∧
      (base = (dir.join ⟨specifier⟩).normalize ∧ namesDirectory specifier = false ∨
        base = indexOf (dir.join ⟨specifier⟩).normalize) := by
  unfold candidates at h
  simp only at h
  generalize (dir.join ⟨specifier⟩).normalize = place at *
  have extended {base : Path} (h : q ∈ r.extensions.map fun e => base.append e.toList) :
      ∃ e ∈ r.extensions, q = base.append e.toList := by
    obtain ⟨e, he, rfl⟩ := List.mem_map.mp h
    exact ⟨e, he, rfl⟩
  split_ifs at h with hdirectory hextension
  · obtain ⟨e, he, hq⟩ := extended h
    exact .inr ⟨e, he, _, hq, .inr rfl⟩
  · rcases List.mem_cons.mp h with rfl | h
    · exact .inl ⟨rfl, hextension⟩
    · obtain ⟨e, he, hq⟩ := extended h
      exact .inr ⟨e, he, _, hq, .inl ⟨rfl, by simpa using hdirectory⟩⟩
  · rcases List.mem_append.mp h with h | h
    · obtain ⟨e, he, hq⟩ := extended h
      exact .inr ⟨e, he, _, hq, .inl ⟨rfl, by simpa using hdirectory⟩⟩
    · obtain ⟨e, he, hq⟩ := extended h
      exact .inr ⟨e, he, _, hq, .inr rfl⟩

/-- A candidate ends in one of the extensions to try, or in a piece of its own with a dot in it. -/
theorem candidate_ending (h : q ∈ r.candidates dir specifier) :
    (∃ start, ∃ e ∈ r.extensions, q.chars = start ++ e.toList) ∨
    ∃ start name, q.chars = start ++ name ∧ name ∈ q.pieces ∧ '.' ∈ name := by
  rcases mem_candidates h with ⟨rfl, hextension⟩ | ⟨e, he, base, rfl, -⟩
  · exact .inr (Path.exists_name_of_extension hextension)
  · exact .inl ⟨base.chars, e, he, Path.chars_ofChars _⟩

/-- A property of pieces that is not lost on the way from a module to what it imports. -/
structure Keeps (r : Resolver) (P : List Char → Prop) : Prop where
  idle : ∀ w, isIdle w = true → P w
  index : P "index".toList
  cwd : ∀ w ∈ r.cwd.pieces, P w
  extend : ∀ e ∈ r.extensions, ∀ u v rest, P u → Text.split '/' e.toList = v :: rest →
    P (u ++ v) ∧ ∀ w ∈ rest, P w

namespace Keeps

variable {P : List Char → Prop}

theorem place (h : r.Keeps P) (hdir : ∀ w ∈ dir.pieces, P w)
    (hs : ∀ w ∈ (Path.mk specifier).pieces, P w) :
    ∀ w ∈ (dir.join ⟨specifier⟩).normalize.pieces, P w := by
  intro w hw
  rcases Path.mem_pieces_normalize hw with hw | hw
  · rcases Path.mem_pieces_join (Path.mem_steps.mp hw).1 with hw | hw
    · exact hdir w hw
    · exact hs w hw
  · exact h.idle w hw

theorem candidate (h : r.Keeps P) (hdir : ∀ w ∈ dir.pieces, P w)
    (hs : ∀ w ∈ (Path.mk specifier).pieces, P w) (hq : q ∈ r.candidates dir specifier) :
    ∀ w ∈ q.pieces, P w := by
  rcases mem_candidates hq with ⟨rfl, -⟩ | ⟨e, he, base, rfl, hbase⟩
  · exact h.place hdir hs
  · have hpieces : ∀ w ∈ base.pieces, P w := by
      rcases hbase with ⟨rfl, -⟩ | rfl
      · exact h.place hdir hs
      · intro w hw
        rcases Path.mem_pieces_join hw with hw | hw
        · exact h.place hdir hs w hw
        · rw [List.mem_singleton.mp hw]
          exact h.index
    obtain ⟨init, u, v, rest, hu, hv, happend⟩ := Text.split_append '/' base.chars e.toList
    have hlast : P u := hpieces u (by
      rw [Path.pieces, hu]
      exact List.mem_append_right init (List.mem_singleton_self u))
    obtain ⟨hjoined, hrest⟩ := h.extend e he u v rest hlast hv
    intro w hw
    rw [Path.append, Path.pieces, Path.chars_ofChars, happend] at hw
    rcases List.mem_append.mp hw with hw | hw
    · refine hpieces w ?_
      rw [Path.pieces, hu]
      exact List.mem_append_left [u] hw
    · rcases List.mem_cons.mp hw with rfl | hw
      · exact hjoined
      · exact hrest w hw

theorem directoryOf (h : r.Keeps P) (hp : ∀ w ∈ p.pieces, P w) :
    ∀ w ∈ (r.directoryOf p).pieces, P w := by
  intro w hw
  unfold Resolver.directoryOf at hw
  split at hw
  · rename_i parent hparent
    split_ifs at hw
    · exact h.cwd w hw
    · rcases Path.mem_pieces_parent hparent hw with hw | rfl
      · exact hp w hw
      · exact h.idle [] rfl
  · exact h.cwd w hw

end Keeps

end Resolver

namespace Discovery

variable {r : Resolver} {files : Files} {extract : Extractor} {entry : String}

/-- The specifiers that the texts of readable files hold. -/
def specifiersOf (files : Files) (extract : Extractor) : Set String :=
  {specifier | ∃ p source specifiers, files.read p = .ok source ∧
    extract source p = .ok specifiers ∧ specifier ∈ specifiers}

/-- Whatever the entry leads to is a file. -/
theorem Reachable.isFile {p : Path} (hp : Reachable (r.host files extract) entry p) :
    files.isFile p = true := by
  cases hp with
  | entry hresolve =>
    exact (Resolver.mem_candidates_of_resolveIn (Resolver.resolveEntry_eq_ok.mp hresolve)).2
  | dependency _ _ _ _ hresolve =>
    exact (Resolver.mem_candidates_of_resolveIn (Resolver.resolve_eq_ok.mp hresolve)).2

/-- Whatever the entry leads to is a file, a candidate, and made of pieces with the property, if the
specifiers on the way are. -/
theorem Reachable.keeps {P : List Char → Prop} (h : r.Keeps P)
    (hentry : ∀ w ∈ (Path.mk entry).pieces, P w)
    (hspecifiers : ∀ p source specifiers, Reachable (r.host files extract) entry p →
      files.read p = .ok source → extract source p = .ok specifiers →
        ∀ specifier ∈ specifiers, ∀ w ∈ (Path.mk specifier).pieces, P w)
    {p : Path} (hp : Reachable (r.host files extract) entry p) :
    (∀ w ∈ p.pieces, P w) ∧ files.isFile p = true ∧
      ∃ dir specifier, p ∈ r.candidates dir specifier := by
  induction hp with
  | @entry p hresolve =>
    obtain ⟨hmem, hfile⟩ :=
      Resolver.mem_candidates_of_resolveIn (Resolver.resolveEntry_eq_ok.mp hresolve)
    exact ⟨h.candidate h.cwd hentry hmem, hfile, _, _, hmem⟩
  | @dependency p q source specifiers specifier hp hsource hextract hs hresolve ih =>
    obtain ⟨hmem, hfile⟩ :=
      Resolver.mem_candidates_of_resolveIn (Resolver.resolve_eq_ok.mp hresolve)
    have hpieces := hspecifiers p source specifiers hp (Files.load_eq_ok.mp hsource)
      (Extractor.ofModule_eq_ok.mp hextract) specifier hs
    exact ⟨h.candidate (h.directoryOf ih.1) hpieces hmem, hfile, _, _, hmem⟩

end Discovery

end ModuleBundler
