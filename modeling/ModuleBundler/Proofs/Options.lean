import Mathlib.Tactic.Common
import ModuleBundler.Build.Options
import ModuleBundler.Proofs.Path.Steps

namespace ModuleBundler

namespace Options

/-- A dot with something after it. -/
def Dotted (extension : String) : Prop := ∃ cs, cs ≠ [] ∧ extension.toList = '.' :: cs

theorem dotted_of_dotted? {s e : String} (h : dotted? s = some e) : Dotted e := by
  unfold dotted? at h
  split at h
  · cases h
  · cases h
  · rename_i cs hne _
    cases h
    exact ⟨cs, hne, String.toList_ofList⟩
  · rename_i hne _ _
    cases h
    exact ⟨Text.trimChars s.toList, hne, String.toList_ofList⟩

theorem dotted_of_addExtensions {known es extensions : List String}
    (hknown : ∀ e ∈ known, Dotted e) (h : addExtensions known es = .ok extensions) :
    ∀ e ∈ extensions, Dotted e := by
  induction es generalizing known with
  | nil =>
    cases h
    exact hknown
  | cons s es ih =>
    unfold addExtensions at h
    split at h
    · cases h
    · rename_i e he
      refine ih ?_ h
      split_ifs
      · exact hknown
      · intro e' he'
        rcases List.mem_append.mp he' with he' | he'
        · exact hknown e' he'
        · rw [List.mem_singleton.mp he']
          exact dotted_of_dotted? he

theorem dotted_of_ofExtensions {es extensions : List String}
    (h : ofExtensions es = .ok extensions) : ∀ e ∈ extensions, Dotted e := by
  unfold ofExtensions at h
  split at h
  · cases h
  · exact dotted_of_addExtensions (fun e he => absurd he List.not_mem_nil) h

end Options

theorem Resolver.dotted_of_defaultExtensions : ∀ e ∈ defaultExtensions, Options.Dotted e := by
  intro e he
  simp only [defaultExtensions, List.mem_cons, List.not_mem_nil, or_false] at he
  rcases he with rfl | rfl | rfl
  · exact ⟨['j', 's'], by decide, rfl⟩
  · exact ⟨['m', 'j', 's'], by decide, rfl⟩
  · exact ⟨['c', 'j', 's'], by decide, rfl⟩

namespace Settings

variable (s : Settings) (workingDir : Path)

/-- The entry, if there is one. -/
def acceptInput : Except BuildError String :=
  match s.input with
  | some input => if input.toList.all Text.isBlank then .error .missingInput else .ok input
  | none => .error .missingInput

/-- Refuses a name that a variable cannot have. -/
def acceptName : Except BuildError Unit :=
  match s.name with
  | some name =>
    if Ecma.isBindingName name then .ok ()
    else
      .error (.invalidOption "name"
        (Text.quoted name ++ " is not a valid JavaScript variable name"))
  | none => .ok ()

/-- The extensions to try, the usual ones where none are given. -/
def acceptExtensions : Except BuildError (List String) :=
  match s.extensions with
  | some extensions => Options.ofExtensions extensions
  | none => .ok Resolver.defaultExtensions

/-- The options of these settings with an accepted entry and accepted extensions. -/
def options (input : String) (extensions : List String) : Options where
  input
  cwd := match s.cwd with
    | some cwd => cwd.absolutize workingDir
    | none => workingDir
  name := s.name
  entryFilenames := s.entryFilenames.getD "[name].js"
  dir := s.dir.getD "dist"
  file := s.file
  extensions

/-- Settings are accepted part by part. -/
theorem normalize_eq : s.normalize workingDir = (do
    let input ← s.acceptInput
    s.acceptName
    let extensions ← s.acceptExtensions
    pure (s.options workingDir input extensions)) := by
  obtain ⟨input, cwd, name, filenames, dir, file, given⟩ := s
  unfold normalize acceptInput acceptName acceptExtensions options
  cases input with
  | none => rfl
  | some input =>
    cases hblank : input.toList.all Text.isBlank with
    | true =>
      simp only [hblank, if_true]
      rfl
    | false =>
      simp only [hblank, Bool.false_eq_true, if_false]
      cases name with
      | none => cases given <;> rfl
      | some name =>
        cases hname : Ecma.isBindingName name with
        | true =>
          simp only [hname, Bool.not_true, Bool.false_eq_true, if_true, if_false]
          cases given <;> rfl
        | false =>
          simp only [hname, Bool.not_false, Bool.false_eq_true, if_true, if_false]
          rfl

variable {s workingDir} {o : Options}

theorem exists_accepted (h : s.normalize workingDir = .ok o) :
    ∃ input extensions, s.acceptInput = .ok input ∧ s.acceptName = .ok () ∧
      s.acceptExtensions = .ok extensions ∧ o = s.options workingDir input extensions := by
  rw [normalize_eq] at h
  cases hinput : s.acceptInput with
  | error e =>
    rw [hinput] at h
    cases h
  | ok input =>
    cases hname : s.acceptName with
    | error e =>
      rw [hinput, hname] at h
      cases h
    | ok accepted =>
      cases hextensions : s.acceptExtensions with
      | error e =>
        rw [hinput, hname, hextensions] at h
        cases h
      | ok extensions =>
        rw [hinput, hname, hextensions] at h
        cases h
        exact ⟨input, extensions, rfl, rfl, rfl, rfl⟩

theorem dotted_of_acceptExtensions {extensions : List String}
    (h : s.acceptExtensions = .ok extensions) : ∀ e ∈ extensions, Options.Dotted e := by
  unfold acceptExtensions at h
  split at h
  · exact Options.dotted_of_ofExtensions h
  · cases h
    exact Resolver.dotted_of_defaultExtensions

theorem dotted_of_normalize (h : s.normalize workingDir = .ok o) :
    ∀ e ∈ o.extensions, Options.Dotted e := by
  obtain ⟨input, extensions, -, -, hextensions, rfl⟩ := exists_accepted h
  exact dotted_of_acceptExtensions hextensions

theorem isAbsolute_cwd (h : s.normalize workingDir = .ok o)
    (hdir : workingDir.isAbsolute = true) : o.cwd.isAbsolute = true := by
  obtain ⟨input, extensions, -, -, -, rfl⟩ := exists_accepted h
  cases hcwd : s.cwd with
  | none =>
    simp only [options, hcwd]
    exact hdir
  | some cwd =>
    simp only [options, hcwd]
    exact Path.isAbsolute_absolutize hdir cwd

end Settings

theorem Options.isAbsolute_outputFile {o : Options} (h : o.cwd.isAbsolute = true) (entry : Path) :
    (o.outputFile entry).isAbsolute = true := by
  unfold outputFile
  split
  · exact Path.isAbsolute_join h
  · exact Path.isAbsolute_join (Path.isAbsolute_join h)

end ModuleBundler
