import ModuleBundler.Proofs.Options
import ModuleBundler.Proofs.Path.Place
import ModuleBundler.Proofs.Repeats
import ModuleBundler.Proofs.Resolution

namespace ModuleBundler

namespace Text

variable {cs : List Char}

theorem trimChars_eq_self (hhead : ∀ c ∈ cs.head?, isBlank c = false)
    (hlast : ∀ c ∈ cs.getLast?, isBlank c = false) : trimChars cs = cs := by
  have hdrop : cs.dropWhile isBlank = cs := by
    cases cs with
    | nil => rfl
    | cons c cs => exact List.dropWhile_cons_of_neg (by simp [hhead c rfl])
  rw [trimChars, hdrop]
  exact dropWhileEnd_eq_self hlast

theorem isBlank_of_getLast?_trimChars {c : Char} (h : c ∈ (trimChars cs).getLast?) :
    isBlank c = false := by
  have hne : trimChars cs ≠ [] := by
    intro hnil
    rw [hnil] at h
    cases h
  obtain ⟨init, last, heq, hlast⟩ := dropWhileEnd_eq_concat hne
  rw [trimChars, heq, List.getLast?_concat, Option.mem_some] at h
  exact h ▸ hlast

end Text

namespace Options

/-- The text with a dot in front, unless it starts with one. -/
def withDot (s : String) : String :=
  if s.toList.head? = some '.' then s else String.ofList ('.' :: s.toList)

/-- An extension as it is tried: without blanks at its ends and with a leading dot. -/
def spelled (extension : String) : String := withDot (Text.trim extension)

/-- A dot with something after it, and no blank at either end. -/
structure Tidy (extension : String) : Prop where
  dotted : Dotted extension
  no_blank_head : ∀ c ∈ extension.toList.head?, Text.isBlank c = false
  no_blank_last : ∀ c ∈ extension.toList.getLast?, Text.isBlank c = false

/-- There is something to an extension beside blanks and one dot. -/
def Proper (extension : String) : Prop := Text.trim extension ≠ "" ∧ Text.trim extension ≠ "."

variable {e : String} {es known extensions : List String}

theorem dotted?_eq_none (h : ¬Proper e) : dotted? e = none := by
  unfold dotted?
  rcases not_and_or.mp h with h | h
  · have htrim : Text.trimChars e.toList = [] := by
      rw [← Text.toList_trim, not_not.mp h]
      rfl
    rw [htrim]
  · have htrim : Text.trimChars e.toList = ['.'] := by
      rw [← Text.toList_trim, not_not.mp h]
      rfl
    rw [htrim]
    rfl

theorem dotted?_eq_some (h : Proper e) : dotted? e = some (spelled e) := by
  unfold dotted? spelled withDot
  rw [← Text.toList_trim]
  have hne : (Text.trim e).toList ≠ [] := fun hnil => h.1 (String.toList_inj.mp hnil)
  have hdot : (Text.trim e).toList ≠ ['.'] := fun hdot => h.2 (String.toList_inj.mp hdot)
  split
  · rename_i hnil
    exact absurd hnil hne
  · rename_i hnil
    exact absurd hnil hdot
  · rename_i cs _ hcs
    rw [hcs, List.head?_cons, if_pos rfl, ← hcs, String.ofList_toList]
  · rename_i hhead
    rw [if_neg]
    intro hcons
    obtain ⟨cs, hcs⟩ := List.head?_eq_some_iff.mp hcons
    exact hhead cs hcs

theorem tidy_spelled (h : Proper e) : Tidy (spelled e) := by
  have hdotted := dotted_of_dotted? (dotted?_eq_some h)
  obtain ⟨cs, hcs, heq⟩ := hdotted
  refine ⟨⟨cs, hcs, heq⟩, ?_, ?_⟩
  · intro c hc
    rw [heq, List.head?_cons, Option.mem_some] at hc
    exact hc ▸ (by decide)
  · -- whether the dot was there or is new, the end is that of the trimmed text
    have hlast : (spelled e).toList.getLast? = (Text.trim e).toList.getLast? := by
      unfold spelled withDot
      split_ifs
      · rfl
      · have hne : (Text.trim e).toList ≠ [] := fun hnil => h.1 (String.toList_inj.mp hnil)
        rw [String.toList_ofList, List.getLast?_cons, List.getLast?_eq_some_getLast hne]
        rfl
    rw [hlast, Text.toList_trim]
    exact fun c hc => Text.isBlank_of_getLast?_trimChars hc

theorem Tidy.trim_eq (h : Tidy e) : Text.trim e = e := by
  rw [Text.trim, Text.trimChars_eq_self h.no_blank_head h.no_blank_last, String.ofList_toList]

theorem Tidy.proper (h : Tidy e) : Proper e := by
  obtain ⟨cs, hcs, heq⟩ := h.dotted
  unfold Proper
  rw [h.trim_eq]
  constructor <;> rintro rfl
  · cases heq
  · exact hcs (List.cons.inj heq).2.symm

theorem Tidy.spelled_eq (h : Tidy e) : spelled e = e := by
  obtain ⟨cs, -, heq⟩ := h.dotted
  rw [spelled, h.trim_eq, withDot, if_pos (by rw [heq]; rfl)]

theorem proper_of_addExtensions (h : addExtensions known es = .ok extensions) :
    ∀ e ∈ es, Proper e := by
  induction es generalizing known with
  | nil => exact fun e he => absurd he List.not_mem_nil
  | cons s es ih =>
    by_cases hs : Proper s
    · rw [addExtensions, dotted?_eq_some hs] at h
      exact List.forall_mem_cons.mpr ⟨hs, ih h⟩
    · rw [addExtensions, dotted?_eq_none hs] at h
      cases h

/-- Adding extensions one by one leaves their repetitions out. -/
theorem addExtensions_eq (h : ∀ e ∈ es, Proper e) (known : List String) :
    addExtensions known.eraseDups es = .ok (known ++ es.map spelled).eraseDups := by
  induction es generalizing known with
  | nil => rw [List.map_nil, List.append_nil, addExtensions]
  | cons s es ih =>
    obtain ⟨hs, hes⟩ := List.forall_mem_cons.mp h
    have hadd : (if spelled s ∈ known.eraseDups then known.eraseDups
        else known.eraseDups ++ [spelled s]) = (known ++ [spelled s]).eraseDups := by
      simp only [eraseDups_concat, List.mem_eraseDups]
    rw [addExtensions, dotted?_eq_some hs]
    change addExtensions _ es = _
    rw [hadd, ih hes, List.append_assoc, List.map_cons]
    rfl

/-- A list of extensions is accepted if it has one and all are proper, and then what comes of it
are their spellings without repetitions. -/
theorem ofExtensions_eq_ok : ofExtensions es = .ok extensions ↔
    (es ≠ [] ∧ ∀ e ∈ es, Proper e) ∧ extensions = (es.map spelled).eraseDups := by
  have hadd (h : ∀ e ∈ es, Proper e) :
      addExtensions [] es = .ok (es.map spelled).eraseDups := addExtensions_eq h []
  unfold ofExtensions
  constructor
  · intro h
    split at h
    · cases h
    · rename_i hsome
      have hproper := proper_of_addExtensions h
      rw [hadd hproper, Except.ok.injEq] at h
      refine ⟨⟨?_, hproper⟩, h.symm⟩
      rintro rfl
      exact hsome rfl
  · rintro ⟨⟨hne, hproper⟩, rfl⟩
    obtain ⟨s, es', rfl⟩ := List.exists_cons_of_ne_nil hne
    rw [hadd hproper]
    split
    · rename_i hnil
      have hmem : spelled s ∈ ((s :: es').map spelled).eraseDups :=
        List.mem_eraseDups.mpr List.mem_cons_self
      rw [Except.ok.inj hnil] at hmem
      cases hmem
    · rfl

theorem tidy_of_ofExtensions (h : ofExtensions es = .ok extensions) :
    ∀ e ∈ extensions, Tidy e := by
  obtain ⟨⟨-, hproper⟩, rfl⟩ := ofExtensions_eq_ok.mp h
  intro e he
  obtain ⟨s, hs, rfl⟩ := List.mem_map.mp (List.mem_eraseDups.mp he)
  exact tidy_spelled (hproper s hs)

/-- Extensions that were accepted are accepted once more, as they are. -/
theorem ofExtensions_again (h : ofExtensions es = .ok extensions) :
    ofExtensions extensions = .ok extensions := by
  have htidy := tidy_of_ofExtensions h
  obtain ⟨⟨hne, -⟩, rfl⟩ := ofExtensions_eq_ok.mp h
  refine ofExtensions_eq_ok.mpr ⟨⟨?_, fun e he => (htidy e he).proper⟩, ?_⟩
  · obtain ⟨s, es', rfl⟩ := List.exists_cons_of_ne_nil hne
    exact List.ne_nil_of_mem (List.mem_eraseDups.mpr (List.mem_map_of_mem List.mem_cons_self))
  · rw [List.map_congr_left fun e he => (htidy e he).spelled_eq, List.map_id',
      eraseDups_of_nodup (nodup_eraseDups _)]

/-- The settings that say what the options are. -/
def toSettings (o : Options) : Settings where
  input := some o.input
  cwd := some o.cwd
  name := o.name
  entryFilenames := some o.entryFilenames
  dir := some o.dir
  file := o.file
  extensions := some o.extensions

end Options

namespace Resolver

variable (cwd : Path) (extensions : List String) (isFile : Path → Bool)

theorem probe_eraseDups (p : Path) :
    (Resolver.mk cwd extensions.eraseDups).probe isFile p =
      (Resolver.mk cwd extensions).probe isFile p := by
  rw [probe_eq_find, probe_eq_find, List.find?_map, List.find?_map, find?_eraseDups]

theorem resolveIn_eraseDups (dir : Path) (specifier : String) :
    (Resolver.mk cwd extensions.eraseDups).resolveIn isFile dir specifier =
      (Resolver.mk cwd extensions).resolveIn isFile dir specifier := by
  simp only [resolveIn, probe_eraseDups]

theorem resolveEntry_eraseDups (specifier : String) :
    (Resolver.mk cwd extensions.eraseDups).resolveEntry isFile specifier =
      (Resolver.mk cwd extensions).resolveEntry isFile specifier := by
  simp only [resolveEntry, resolveIn_eraseDups]

theorem resolve_eraseDups (specifier : String) (importer : Path) :
    (Resolver.mk cwd extensions.eraseDups).resolve isFile specifier importer =
      (Resolver.mk cwd extensions).resolve isFile specifier importer := by
  have hdirectory : (Resolver.mk cwd extensions.eraseDups).directoryOf importer =
      (Resolver.mk cwd extensions).directoryOf importer := rfl
  simp only [resolve, hdirectory, resolveIn_eraseDups]

end Resolver

theorem Path.absolutize_of_absolute {p : Path} (h : p.isAbsolute = true) (base : Path) :
    p.absolutize base = p.normalize := by
  rw [absolutize, if_pos h]

theorem Path.normalize_normalize {p : Path} (h : p.isAbsolute = true) :
    p.normalize.normalize = p.normalize := by
  obtain ⟨hplace, hnames⟩ := normalize_eq_place h
  rw [hplace, normalize_place hnames]

namespace Settings

variable {s : Settings} {workingDir : Path} {o : Options}

/-- An accepted working directory is in normal form, if the one it is read from is. -/
theorem normalize_cwd (h : s.normalize workingDir = .ok o) (hdir : workingDir.isAbsolute = true)
    (hnormal : s.cwd = none → workingDir.normalize = workingDir) : o.cwd.normalize = o.cwd := by
  obtain ⟨input, extensions, -, -, -, rfl⟩ := exists_accepted h
  cases hcwd : s.cwd with
  | none =>
    simp only [options, hcwd]
    exact hnormal hcwd
  | some cwd =>
    simp only [options, hcwd, Path.absolutize]
    split_ifs with habsolute
    · exact Path.normalize_normalize habsolute
    · exact Path.normalize_normalize (Path.isAbsolute_join hdir)

theorem acceptExtensions_again {extensions : List String}
    (h : s.acceptExtensions = .ok extensions) :
    Options.ofExtensions extensions = .ok extensions := by
  unfold acceptExtensions at h
  split at h
  · exact Options.ofExtensions_again h
  · cases h
    rfl

theorem not_blank_of_acceptInput {input : String} (h : s.acceptInput = .ok input) :
    input.toList.all Text.isBlank = false := by
  unfold acceptInput at h
  split at h
  · split_ifs at h with hblank
    cases h
    simpa using hblank
  · cases h

theorem normalize_of_accepted {input : String} {extensions : List String}
    (hinput : s.acceptInput = .ok input) (hname : s.acceptName = .ok ())
    (hextensions : s.acceptExtensions = .ok extensions) (workingDir : Path) :
    s.normalize workingDir = .ok (s.options workingDir input extensions) := by
  rw [normalize_eq, hinput, hname, hextensions]
  rfl

theorem options_toSettings {other : Path} (h : o.cwd.absolutize other = o.cwd) :
    o.toSettings.options other o.input o.extensions = o := by
  have hcwd : o.toSettings.options other o.input o.extensions =
      { o with cwd := o.cwd.absolutize other } := rfl
  rw [hcwd, h]

/-- The options, given as settings, are accepted again. -/
theorem normalize_toSettings (h : s.normalize workingDir = .ok o)
    (hdir : workingDir.isAbsolute = true)
    (hnormal : s.cwd = none → workingDir.normalize = workingDir) (other : Path) :
    o.toSettings.normalize other = .ok o := by
  have hcwd : o.cwd.absolutize other = o.cwd :=
    (Path.absolutize_of_absolute (isAbsolute_cwd h hdir) other).trans (normalize_cwd h hdir hnormal)
  obtain ⟨input, extensions, hinput, hname, hextensions, rfl⟩ := exists_accepted h
  have hinput' : (s.options workingDir input extensions).toSettings.acceptInput = .ok input := by
    simp only [acceptInput, Options.toSettings, options, not_blank_of_acceptInput hinput,
      Bool.false_eq_true, if_false]
  have hagain := normalize_of_accepted hinput' hname (acceptExtensions_again hextensions) other
  exact hagain.trans (congrArg Except.ok (options_toSettings hcwd))

/-- Options are accepted as they are once they were accepted. The working directory of the caller is
absolute and, where it becomes that of the options, in normal form, as systems give it. A list of
extensions is accepted if it has one and none is blank or a single dot; what comes of it is the list
of their spellings without repetitions, all tidy, and with the repetitions every specifier would
name the same file. -/
theorem normalize_canonical :
    (∀ (s : Settings) (workingDir other : Path) (o : Options), workingDir.isAbsolute = true →
      (s.cwd = none → workingDir.normalize = workingDir) → s.normalize workingDir = .ok o →
        o.toSettings.normalize other = .ok o) ∧
    ∀ es : List String,
      ((∃ extensions, Options.ofExtensions es = .ok extensions) ↔
        es ≠ [] ∧ ∀ e ∈ es, Text.trim e ≠ "" ∧ Text.trim e ≠ ".") ∧
      ∀ extensions, Options.ofExtensions es = .ok extensions →
        extensions = (es.map Options.spelled).eraseDups ∧ (∀ e ∈ extensions, Options.Tidy e) ∧
        ∀ (cwd : Path) (isFile : Path → Bool) (specifier : String),
          (Resolver.mk cwd extensions).resolveEntry isFile specifier =
            (Resolver.mk cwd (es.map Options.spelled)).resolveEntry isFile specifier ∧
          ∀ importer, (Resolver.mk cwd extensions).resolve isFile specifier importer =
            (Resolver.mk cwd (es.map Options.spelled)).resolve isFile specifier importer := by
  refine ⟨fun s workingDir other o hdir hnormal h => normalize_toSettings h hdir hnormal other, ?_⟩
  intro es
  refine ⟨?_, ?_⟩
  · constructor
    · rintro ⟨extensions, h⟩
      exact (Options.ofExtensions_eq_ok.mp h).1
    · intro h
      exact ⟨_, Options.ofExtensions_eq_ok.mpr ⟨h, rfl⟩⟩
  · intro extensions h
    have htidy := Options.tidy_of_ofExtensions h
    obtain ⟨-, rfl⟩ := Options.ofExtensions_eq_ok.mp h
    refine ⟨rfl, htidy, fun cwd isFile specifier => ⟨?_, fun importer => ?_⟩⟩
    · exact Resolver.resolveEntry_eraseDups cwd (es.map Options.spelled) isFile specifier
    · exact Resolver.resolve_eraseDups cwd (es.map Options.spelled) isFile specifier importer

/-- Settings with a relative directory and padded, repeated extensions, some without a dot. -/
def untidy : Settings where
  input := some " a"
  cwd := some ⟨"src/../lib/."⟩
  extensions := some [" js", ".js\n", "\u3000jsx", ". x", "js"]

theorem normalize_canonical_untidy :
    ∃ o, untidy.normalize ⟨"/w"⟩ = .ok o ∧ o.toSettings.normalize ⟨"/elsewhere"⟩ = .ok o ∧
      o.cwd = ⟨"/w/lib"⟩ ∧ o.extensions = [".js", ".jsx", ". x"] ∧
      ∀ e ∈ o.extensions, Options.Tidy e := by
  have h : untidy.normalize ⟨"/w"⟩ = .ok ⟨" a", ⟨"/w/lib"⟩, none, "[name].js", "dist", none,
      [".js", ".jsx", ". x"]⟩ := by decide +kernel
  have hextensions : Options.ofExtensions [" js", ".js\n", "\u3000jsx", ". x", "js"] =
      .ok [".js", ".jsx", ". x"] := by decide +kernel
  obtain ⟨hagain, hlist⟩ := normalize_canonical
  exact ⟨_, h, hagain untidy ⟨"/w"⟩ ⟨"/elsewhere"⟩ _ (by decide) (by decide) h, rfl, rfl,
    ((hlist _).2 _ hextensions).2.1⟩

end Settings

end ModuleBundler
