import ModuleBundler.Proofs.Discovery.Faithful
import ModuleBundler.Proofs.Options
import ModuleBundler.Proofs.Resolution
import ModuleBundler.Proofs.Store.Key

namespace ModuleBundler

namespace Options

variable {o : Options}

/-- No backslash comes in on the way from a module to what it imports. -/
theorem keeps_backslash (hcwd : '\\' ∉ o.cwd.chars)
    (hextensions : ∀ e ∈ o.extensions, '\\' ∉ e.toList) :
    o.resolver.Keeps fun w => '\\' ∉ w where
  idle := by
    intro w hw
    rcases Path.isIdle_eq_true.mp hw with rfl | rfl <;> decide
  index := by decide
  cwd := fun w hw hc => hcwd ((Text.sublist_of_mem_split hw).subset hc)
  extend := by
    intro e he u v rest hu hsplit
    have hpiece (w : List Char) (hw : w ∈ v :: rest) : '\\' ∉ w := fun hc =>
      hextensions e he ((Text.sublist_of_mem_split (hsplit.symm ▸ hw)).subset hc)
    refine ⟨?_, fun w hw => hpiece w (List.mem_cons_of_mem v hw)⟩
    intro hc
    rcases List.mem_append.mp hc with hc | hc
    · exact hu hc
    · exact hpiece v List.mem_cons_self hc

/-- A candidate ends in a slash only if an extension does. -/
theorem not_endsInSlash (hdotted : ∀ e ∈ o.extensions, Dotted e)
    (hextensions : ∀ e ∈ o.extensions, (Path.mk e).endsInSlash = false) {dir q : Path}
    {specifier : String} (h : q ∈ o.resolver.candidates dir specifier) : q.endsInSlash = false := by
  have hlast {start w : List Char} (hne : w ≠ []) (hw : w.getLast? ≠ some '/')
      (hchars : q.chars = start ++ w) : q.endsInSlash = false := by
    rw [Path.endsInSlash, hchars, List.getLast?_append_of_ne_nil start hne]
    exact beq_eq_false_iff_ne.mpr hw
  rcases Resolver.candidate_ending h with
    ⟨start, e, he, hchars⟩ | ⟨start, name, hchars, hname, hdot⟩
  · obtain ⟨cs, -, hcs⟩ := hdotted e he
    refine hlast (hcs ▸ List.cons_ne_nil '.' cs) ?_ hchars
    exact beq_eq_false_iff_ne.mp (hextensions e he)
  · refine hlast (List.ne_nil_of_mem hdot) ?_ hchars
    intro hslash
    exact Path.not_mem_of_mem_pieces hname (List.mem_of_getLast? hslash)

end Options

namespace Bundler

/-- Where no backslash is met and no extension ends in a slash, whatever the entry leads to is its
own key. -/
theorem key_of_reachable {b : Bundler} {m : Memory}
    (hdotted : ∀ e ∈ b.options.extensions, Options.Dotted e) (hcwd : '\\' ∉ b.options.cwd.chars)
    (hinput : '\\' ∉ b.options.input.toList)
    (hextensions : ∀ e ∈ b.options.extensions,
      '\\' ∉ e.toList ∧ (Path.mk e).endsInSlash = false)
    (hspecifiers : ∀ p source specifiers,
      Discovery.Reachable (b.options.resolver.host (FileStore.files m) b.extract)
          b.options.input p →
        FileStore.read m p = .ok source → b.extract source p = .ok specifiers →
          ∀ specifier ∈ specifiers, '\\' ∉ specifier.toList) {p : Path}
    (hp : Discovery.Reachable (b.options.resolver.host (FileStore.files m) b.extract)
      b.options.input p) :
    Memory.key p = p.chars := by
  have hpieces {s : String} (hs : '\\' ∉ s.toList) : ∀ w ∈ (Path.mk s).pieces, '\\' ∉ w :=
    fun w hw hc => hs ((Text.sublist_of_mem_split hw).subset hc)
  obtain ⟨hkeeps, -, dir, specifier, hcandidate⟩ := hp.keeps
    (Options.keeps_backslash hcwd fun e he => (hextensions e he).1) (hpieces hinput)
    fun p source specifiers hp hread hextract specifier hs =>
      hpieces (hspecifiers p source specifiers hp hread hextract specifier hs)
  refine Memory.key_eq_chars ?_
    (Options.not_endsInSlash hdotted (fun e he => (hextensions e he).2) hcandidate)
  intro hc
  rcases Path.mem_chars hc with hc | ⟨w, hw, hc⟩
  · cases hc
  · exact hkeeps w hw hc

/-- Where no backslash stands in the options or in a specifier that was found, and no extension ends
in a slash, the path of every asset is its key in the store, so no two assets are one file. -/
theorem keys_distinct {s : Settings} {workingDir : Path} {b : Bundler} {m : Memory} {fuel : Nat}
    {d : Discovery} (ho : s.normalize workingDir = .ok b.options)
    (h : b.scan fuel m = .ok (some d)) (hcwd : '\\' ∉ b.options.cwd.chars)
    (hinput : '\\' ∉ b.options.input.toList)
    (hextensions : ∀ e ∈ b.options.extensions,
      '\\' ∉ e.toList ∧ (Path.mk e).endsInSlash = false)
    (hspecifiers : ∀ a ∈ d.graph.assets, ∀ specifier ∈ a.specifiers, '\\' ∉ specifier.toList) :
    (∀ a ∈ d.graph.assets, Memory.key a.path = a.path.chars) ∧
    ∀ a ∈ d.graph.assets, ∀ a' ∈ d.graph.assets, a.index ≠ a'.index →
      Memory.key a.path ≠ Memory.key a'.path := by
  obtain ⟨t, hreached, rfl, hexplored⟩ := Discovery.explored_of_discover h
  have hfaithful := hexplored.faithful
  have hmem := hexplored.mem_assets_iff fun i hi => hreached.invariant.reachable hi
  have hkey : ∀ a ∈ t.registry.assets, Memory.key a.path = a.path.chars := by
    intro a ha
    refine key_of_reachable (Settings.dotted_of_normalize ho) hcwd hinput hextensions ?_
      ((hmem a.path).mp ⟨a, ha, rfl⟩)
    intro p source specifiers hp hread hextract
    obtain ⟨a', ha', rfl⟩ := (hmem p).mpr hp
    have hread' := hfaithful.source_eq a' ha'
    have hextract' := hfaithful.specifiers_eq a' ha'
    cases hread.symm.trans hread'
    cases hextract.symm.trans hextract'
    exact hspecifiers a' ha'
  refine ⟨hkey, ?_⟩
  intro a ha a' ha' hne heq
  rw [hkey a ha, hkey a' ha', Path.chars_inj] at heq
  obtain ⟨i, hi⟩ := Array.mem_iff_getElem?.mp ha
  obtain ⟨j, hj⟩ := Array.mem_iff_getElem?.mp ha'
  have hij := hfaithful.distinct i j a a' hi hj heq
  rw [hfaithful.numbered i a hi, hfaithful.numbered j a' hj] at hne
  exact hne hij

/-- The options of a project in `/p` with the entry `a`. -/
def plainOptions : Options :=
  ⟨"a", ⟨"/p"⟩, none, "[name].js", "dist", none, [".js", ".mjs", ".cjs"]⟩

theorem normalize_plain :
    Settings.normalize { input := some "a", cwd := some ⟨"/p"⟩ } ⟨"/"⟩ = .ok plainOptions := by
  decide +kernel

theorem keys_distinct_tangle : ∃ d,
    (Bundler.mk plainOptions Extract.lines).scan 20 Discovery.tangle = .ok (some d) ∧
    ∀ a ∈ d.graph.assets, ∀ a' ∈ d.graph.assets, a.index ≠ a'.index →
      Memory.key a.path ≠ Memory.key a'.path := by
  obtain ⟨d, hd, hspecifiers⟩ := exists_eq_ok_some_of
    (x := (Bundler.mk plainOptions Extract.lines).scan 20 Discovery.tangle)
    (p := fun d => d.graph.assets.toList.all fun a =>
      a.specifiers.all fun s => !s.toList.contains '\\')
    (by decide +kernel)
  refine ⟨d, hd, (keys_distinct normalize_plain hd (by decide) (by decide) (by decide) ?_).2⟩
  intro a ha specifier hs
  have hassets := List.all_eq_true.mp hspecifiers a (Array.mem_toList_iff.mpr ha)
  simpa using List.all_eq_true.mp hassets specifier hs

/-- A file that is imported with a slash and with a backslash is found twice. -/
theorem twins_found_twice : ∃ d,
    (Bundler.mk plainOptions Extract.lines).scan 20 Memory.twins = .ok (some d) ∧
    ∃ a ∈ d.graph.assets, ∃ a' ∈ d.graph.assets, a.index ≠ a'.index ∧
      Memory.key a.path = Memory.key a'.path := by
  obtain ⟨d, hd, htwins⟩ := exists_eq_ok_some_of
    (x := (Bundler.mk plainOptions Extract.lines).scan 20 Memory.twins)
    (p := fun d => d.graph.assets.toList.any fun a => d.graph.assets.toList.any fun a' =>
      a.index != a'.index && Memory.key a.path == Memory.key a'.path)
    (by decide +kernel)
  obtain ⟨a, ha, htwins⟩ := List.any_eq_true.mp htwins
  obtain ⟨a', ha', htwins⟩ := List.any_eq_true.mp htwins
  exact ⟨d, hd, a, Array.mem_toList_iff.mp ha, a', Array.mem_toList_iff.mp ha',
    by simpa using htwins⟩

end Bundler

end ModuleBundler
