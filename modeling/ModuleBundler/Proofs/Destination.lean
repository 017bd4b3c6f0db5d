import ModuleBundler.Proofs.Options
import ModuleBundler.Proofs.Store.Directories
import ModuleBundler.Proofs.Writing

namespace ModuleBundler.Bundler

open Memory (Direct Reachable key parentKey?)

/-- The bundle goes where the options and the file that the entry names say. -/
theorem exists_entry_of_generate {σ : Type} [FileStore σ] {b : Bundler} {fuel : Nat} {store : σ}
    {bundle : Bundle} (h : b.generate fuel store = .ok (some bundle)) :
    ∃ entry, b.options.resolver.resolveEntry (FileStore.files store).isFile b.options.input =
      .ok entry ∧ bundle.filename = b.options.outputFile entry := by
  unfold generate at h
  split at h
  · cases h
  · cases h
  · rename_i d hscan
    have hfaithful := Discovery.faithful_of_discover hscan
    obtain ⟨made, hmade⟩ := Discovery.exists_toBundle (closed_of_scan hscan) b.options
    obtain ⟨a, ha, hentry⟩ := hfaithful.entry_resolved
    rw [hmade] at h
    cases h
    unfold Discovery.toBundle at hmade
    rw [(closed_of_scan hscan).generate_eq, hfaithful.entry_eq, ha] at hmade
    cases hmade
    exact ⟨a.path, hentry, rfl⟩

/-- The options alone say where the bundle goes, but for the name of the entry. -/
theorem exists_filename_eq {σ : Type} [FileStore σ] {b : Bundler} {fuel : Nat} {store : σ}
    {bundle : Bundle} (h : b.generate fuel store = .ok (some bundle)) :
    ∃ entry, bundle.filename = b.options.outputFile entry := by
  obtain ⟨entry, -, hfilename⟩ := exists_entry_of_generate h
  exact ⟨entry, hfilename⟩

/-- With accepted options, a bundle that can be made can also be written to any store that came
about by writes, if it goes to a direct path to a name, whatever directories are missing there, or
if the directory that its key asks for is there, however the path is spelled. -/
theorem write_direct (s : Settings) (workingDir : Path) (b : Bundler) (fuel : Nat) (m : Memory)
    (bundle : Bundle) (hdir : workingDir.isAbsolute = true)
    (haccepted : s.normalize workingDir = .ok b.options) (hreachable : m.Reachable)
    (hgenerate : b.generate fuel m = .ok (some bundle))
    (hname : bundle.filename.fileName?.isSome = true)
    (hspelled : Direct bundle.filename ∨
      ∃ parent, parentKey? (key bundle.filename) = some parent ∧ (m.get? parent).isSome = true) :
    ∃ m', b.write fuel m = (.ok (some bundle), m') := by
  have habsolute : bundle.filename.isAbsolute = true := by
    obtain ⟨entry, hfilename⟩ := exists_filename_eq hgenerate
    rw [hfilename]
    exact Options.isAbsolute_outputFile (Settings.isAbsolute_cwd haccepted hdir) entry
  have hrooted := hreachable.rooted
  obtain ⟨m', hstore⟩ :
      ∃ m', m.write bundle.filename bundle.content.toUTF8 = (.ok (), m') := by
    rcases hspelled with hdirect | ⟨parent, hkey, hparent⟩
    · exact hdirect.write_eq_ok hrooted.root habsolute hname bundle.content.toUTF8
    · exact hrooted.write_eq_ok habsolute hkey hparent bundle.content.toUTF8
  exact ⟨m', write_of_stored hgenerate hstore⟩

/-- The settings behind such a bundler. -/
def settingsInto (dir : String) (file : Option String) : Settings :=
  { input := some "a", cwd := some ⟨"/p"⟩, dir := some dir, file }

theorem normalize_settingsInto (dir : String) (file : Option String) :
    (settingsInto dir file).normalize Path.root = .ok (into dir file).options := rfl

theorem reachable_twins : Memory.twins.Reachable := .write (.write .empty _ _) _ _

/-- The way up and a slash at the end of the directory do no harm. -/
theorem write_direct_up : ∃ bundle m', bundle.filename = ⟨"/p/../out/js/a.js"⟩ ∧
    (into "../out/js/" none).write 20 Memory.twins = (.ok (some bundle), m') := by
  obtain ⟨bundle, hgenerate, hfilename⟩ := exists_eq_ok_some_of
    (x := (into "../out/js/" none).generate 20 Memory.twins)
    (p := fun bundle => decide (bundle.filename = ⟨"/p/../out/js/a.js"⟩)) (by decide +kernel)
  have hfilename := of_decide_eq_true hfilename
  obtain ⟨m', hwrite⟩ := write_direct (settingsInto "../out/js/" none) Path.root _ 20 _ bundle
    (by decide) (normalize_settingsInto _ _) reachable_twins hgenerate
    (by rw [hfilename]; decide +kernel) (.inl (by rw [hfilename]; decide +kernel))
  exact ⟨bundle, m', hfilename, hwrite⟩

/-- A lone dot in the directory: the directory `/p/dist` is created and `/p/./dist` is missing. -/
theorem write_dotted_refused : ∃ bundle cause m', Memory.twins.Reachable ∧
    (settingsInto "./dist" none).normalize Path.root = .ok (into "./dist" none).options ∧
    (into "./dist" none).generate 20 Memory.twins = .ok (some bundle) ∧
    bundle.filename.fileName? = some "a.js".toList ∧
    (into "./dist" none).write 20 Memory.twins =
      (.error (.unwritable bundle.filename cause), m') := by
  obtain ⟨bundle, hgenerate, hname⟩ := exists_eq_ok_some_of
    (x := (into "./dist" none).generate 20 Memory.twins)
    (p := fun bundle => decide (bundle.filename.fileName? = some "a.js".toList))
    (by decide +kernel)
  have hname := of_decide_eq_true hname
  have hrefused : ((into "./dist" none).write 20 Memory.twins).1.toOption.isNone = true := by
    decide +kernel
  rcases hstore : Memory.twins.write bundle.filename bundle.content.toUTF8 with
    ⟨⟨cause⟩ | ⟨⟨⟩⟩, m'⟩
  · exact ⟨bundle, cause, m', reachable_twins, normalize_settingsInto _ _, hgenerate, hname,
      write_of_refused hgenerate hstore⟩
  · rw [write_of_stored hgenerate hstore] at hrefused
    cases hrefused

end ModuleBundler.Bundler
