import ModuleBundler.Extract.Ecma
import ModuleBundler.Proofs.Discovery.Work
import ModuleBundler.Proofs.Options
import ModuleBundler.Proofs.Resolution
import ModuleBundler.Proofs.Store.Key

namespace ModuleBundler

open Memory (slack)

section Specifiers

variable {m : Memory} {extract : Extractor}

/-- Where an extractor tells apart finitely many kinds of paths, the texts of a store hold finitely
many specifiers. -/
theorem Discovery.finite_specifiersOf {ν : Type} [Finite ν] (view : Path → ν)
    (hview : ∀ source p q, view p = view q → extract source p = extract source q) (m : Memory) :
    (specifiersOf (FileStore.files m) extract).Finite := by
  have hkind (source : String) (v : ν) :
      {specifier | ∃ p specifiers, view p = v ∧ extract source p = .ok specifiers ∧
        specifier ∈ specifiers}.Finite := by
    by_cases hp : ∃ p specifiers, view p = v ∧ extract source p = .ok specifiers
    · obtain ⟨p, specifiers, hpv, hextract⟩ := hp
      refine specifiers.finite_toSet.subset ?_
      rintro specifier ⟨q, specifiers', hqv, hextract', hmem⟩
      rw [hview source q p (hqv.trans hpv.symm), hextract] at hextract'
      cases hextract'
      exact hmem
    · refine Set.finite_empty.subset ?_
      rintro specifier ⟨q, specifiers, hqv, hextract, -⟩
      exact hp ⟨q, specifiers, hqv, hextract⟩
  refine (m.finite_sources.biUnion fun source _ => Set.finite_iUnion (hkind source)).subset ?_
  rintro specifier ⟨p, source, specifiers, hread, hextract, hmem⟩
  refine Set.mem_biUnion ⟨p, hread⟩ ?_
  exact Set.mem_iUnion.mpr ⟨view p, p, specifiers, rfl, hextract, hmem⟩

instance Ecma.finite_dialect : Finite Ecma.Dialect := by
  refine Finite.of_injective (fun d : Ecma.Dialect => (d.typed, d.jsx, d.ambient, d.script)) ?_
  rintro ⟨t, j, a, s⟩ ⟨t', j', a', s'⟩ h
  cases h
  rfl

theorem Extract.ecma_congr (source : String) {p q : Path}
    (h : Ecma.Dialect.ofPath p = Ecma.Dialect.ofPath q) :
    Extract.ecma source p = Extract.ecma source q := by
  unfold Extract.ecma
  rw [h]

end Specifiers

section Slack

variable {o : Options} {n : Nat}

theorem exists_not_separator {w : List Char} (h : '.' ∈ w) :
    ∃ c ∈ w, Memory.isSeparator c = false := ⟨'.', h, by decide⟩

/-- No separators beyond those in the parts add up at the end of a piece: what an extension is
appended to does not count. -/
theorem Options.keeps_slack (hdotted : ∀ e ∈ o.extensions, Dotted e)
    (hcwd : o.cwd.chars.length ≤ n) (hextensions : ∀ e ∈ o.extensions, e.toList.length ≤ n) :
    o.resolver.Keeps fun w => slack w ≤ n where
  idle := by
    intro w hw
    rcases Path.isIdle_eq_true.mp hw with rfl | rfl <;> exact Nat.zero_le n
  index := Nat.zero_le n
  cwd := fun w hw => (Memory.slack_le_of_mem_split hw).trans hcwd
  extend := by
    intro e he u v rest _ hsplit
    have hlength (w : List Char) (hw : w ∈ v :: rest) : slack w ≤ n := by
      rw [← hsplit] at hw
      exact (Memory.slack_le_of_mem_split hw).trans (hextensions e he)
    have hdot : '.' ∈ v := by
      obtain ⟨cs, -, hchars⟩ := hdotted e he
      rw [hchars, Text.split, if_neg (by decide)] at hsplit
      split at hsplit <;> cases hsplit <;> exact List.mem_cons_self
    refine ⟨?_, fun w hw => hlength w (List.mem_cons_of_mem v hw)⟩
    rw [Memory.slack_append u (exists_not_separator hdot)]
    exact hlength v List.mem_cons_self

/-- A candidate has no more separators at its end than one of the parts that it is made of. -/
theorem Options.slack_of_candidate (hdotted : ∀ e ∈ o.extensions, Dotted e)
    (hextensions : ∀ e ∈ o.extensions, e.toList.length ≤ n) {dir p : Path} {specifier : String}
    (h : p ∈ o.resolver.candidates dir specifier) (hpieces : ∀ w ∈ p.pieces, slack w ≤ n) :
    slack p.chars ≤ n := by
  rcases Resolver.candidate_ending h with
    ⟨start, e, he, hchars⟩ | ⟨start, name, hchars, hname, hdot⟩
  · obtain ⟨cs, -, hcs⟩ := hdotted e he
    rw [hchars, Memory.slack_append start (exists_not_separator (hcs ▸ List.mem_cons_self))]
    exact (Memory.slack_le_length e.toList).trans (hextensions e he)
  · rw [hchars, Memory.slack_append start (exists_not_separator hdot)]
    exact hpieces name hname

/-- A store in memory has finitely many paths that an entry could lead to. One file has paths
without number, since a key drops the separators at its end, but a candidate has few of them. -/
theorem Options.finite_reachable (hdotted : ∀ e ∈ o.extensions, Dotted e) (m : Memory)
    {extract : Extractor} (h : (Discovery.specifiersOf (FileStore.files m) extract).Finite) :
    {p | Discovery.Reachable (o.resolver.host (FileStore.files m) extract) o.input p}.Finite := by
  have hparts := (h.union (o.extensions.finite_toSet.union
    (Set.toFinite {o.cwd.text, o.input}))).image fun s : String => s.toList.length
  obtain ⟨n, hn⟩ := hparts.bddAbove
  have hle (s : String) (hs : s ∈ Discovery.specifiersOf (FileStore.files m) extract ∪
      ({e | e ∈ o.extensions} ∪ {o.cwd.text, o.input})) : s.toList.length ≤ n :=
    hn ⟨s, hs, rfl⟩
  have hpiece (s : String) (hs : s.toList.length ≤ n) :
      ∀ w ∈ (Path.mk s).pieces, slack w ≤ n :=
    fun w hw => (Memory.slack_le_of_mem_split hw).trans hs
  have hextensions (e : String) (he : e ∈ o.extensions) : e.toList.length ≤ n :=
    hle e (.inr (.inl he))
  have hkeeps := Options.keeps_slack hdotted (hle o.cwd.text (by simp)) hextensions
  refine (m.finite_paths n).subset ?_
  intro p hp
  obtain ⟨hpieces, hfile, dir, specifier, hcandidate⟩ := hp.keeps hkeeps
    (hpiece o.input (hle o.input (by simp)))
    fun p source specifiers _ hread hextract specifier hs =>
      hpiece specifier (hle specifier (.inl ⟨p, source, specifiers, hread, hextract, hs⟩))
  exact ⟨hfile, Options.slack_of_candidate hdotted hextensions hcandidate hpieces⟩

end Slack

namespace Bundler

/-- What a scan of these files asks of its surroundings. -/
def host (b : Bundler) (files : Files) : Host (Except BuildError) :=
  b.options.resolver.host files b.extract

/-- With accepted options and finitely many specifiers, a scan of a store in memory ends: it fails,
or it takes a step for each asset and each specifier and then has nothing left to visit. An
extractor that does not look at paths finds finitely many specifiers, and so does that of scripts.
-/
theorem scan_terminates (m : Memory) :
    (∀ (s : Settings) (workingDir : Path) (b : Bundler),
      s.normalize workingDir = .ok b.options →
      (Discovery.specifiersOf (FileStore.files m) b.extract).Finite →
        (∃ e least, ∀ fuel ≥ least, b.scan fuel m = .error e) ∨
        ∃ d initial final,
          Discovery.start (b.host (FileStore.files m)) b.options.input = .ok (0, initial) ∧
          Discovery.Reaches (b.host (FileStore.files m)) d.steps initial final ∧
          final.stack = [] ∧ d = final.finish 0 ∧
          ∀ fuel, b.scan fuel m = .ok (if fuel ≤ d.steps then none else some d)) ∧
    (∀ extract : Extractor, (∀ source p q, extract source p = extract source q) →
      (Discovery.specifiersOf (FileStore.files m) extract).Finite) ∧
    (Discovery.specifiersOf (FileStore.files m) Extract.ecma).Finite := by
  refine ⟨?_, ?_, ?_⟩
  · intro s workingDir b ho hfinite
    exact Discovery.discover_ends
      (Options.finite_reachable (Settings.dotted_of_normalize ho) m hfinite)
  · intro extract hextract
    exact Discovery.finite_specifiersOf (fun _ => ()) (fun source p q _ => hextract source p q) m
  · exact Discovery.finite_specifiersOf Ecma.Dialect.ofPath
      (fun source _ _ h => Extract.ecma_congr source h) m

theorem scan_terminates_twins : ∃ o least,
    Settings.normalize { input := some "a", cwd := some ⟨"/p"⟩ } ⟨"/"⟩ = .ok o ∧
    ∀ fuel ≥ least, (Bundler.mk o Extract.lines).scan fuel Memory.twins ≠ .ok none := by
  have hfinite := (scan_terminates Memory.twins).2.1 Extract.lines fun _ _ _ => rfl
  obtain ⟨o, ho⟩ : ∃ o, Settings.normalize { input := some "a", cwd := some ⟨"/p"⟩ } ⟨"/"⟩ =
      .ok o := ⟨_, rfl⟩
  rcases (scan_terminates Memory.twins).1 _ _ ⟨o, Extract.lines⟩ ho hfinite with
    ⟨e, least, hfails⟩ | ⟨d, _, _, _, _, _, _, hends⟩
  · refine ⟨o, least, ho, ?_⟩
    intro fuel hle heq
    rw [hfails fuel hle] at heq
    cases heq
  · refine ⟨o, d.steps + 1, ho, ?_⟩
    intro fuel hle heq
    rw [hends fuel, if_neg (Nat.not_le.mpr hle)] at heq
    cases heq

end Bundler

end ModuleBundler
