import ModuleBundler.Proofs.Candidates
import ModuleBundler.Proofs.Destination
import ModuleBundler.Proofs.Path.Place

namespace ModuleBundler

namespace Text

variable {pattern cs : List Char}

theorem mem_replaceFrom {replacement : List Char} {skip : Nat} {c : Char}
    (h : c ∈ replaceFrom pattern replacement skip cs) : c ∈ replacement ∨ c ∈ cs := by
  induction cs generalizing skip with
  | nil =>
    rw [replaceFrom] at h
    cases h
  | cons d cs ih =>
    cases skip with
    | succ skip =>
      rw [replaceFrom] at h
      exact (ih h).imp_right (List.mem_cons_of_mem d)
    | zero =>
      rw [replaceFrom] at h
      split_ifs at h
      · rcases List.mem_append.mp h with h | h
        · exact .inl h
        · exact (ih h).imp_right (List.mem_cons_of_mem d)
      · rcases List.mem_cons.mp h with rfl | h
        · exact .inr List.mem_cons_self
        · exact (ih h).imp_right (List.mem_cons_of_mem d)

/-- A text is made of pieces with the pattern between them and in none of them, and to replace the
pattern is to put another text between the same pieces. -/
theorem exists_pieces (hpattern : pattern ≠ []) (cs : List Char) :
    ∃ pieces, pieces ≠ [] ∧ cs = pattern.intercalate pieces ∧
      (∀ piece ∈ pieces, ¬pattern <:+: piece) ∧
      ∀ replacement, replaceChars pattern replacement cs = replacement.intercalate pieces := by
  -- on the length, as behind an occurrence the text goes on after all of it
  generalize hlength : cs.length = n
  induction n using Nat.strongRecOn generalizing cs with
  | ind n ih =>
    cases cs with
    | nil =>
      refine ⟨[[]], List.cons_ne_nil _ _, rfl, ?_, fun _ => rfl⟩
      intro piece hpiece hinfix
      rw [List.mem_singleton.mp hpiece] at hinfix
      exact hpattern (List.infix_nil.mp hinfix)
    | cons c cs =>
      by_cases hprefix : pattern <+: c :: cs
      · obtain ⟨rest, hrest⟩ := hprefix
        have hshorter : rest.length < n := by
          have hpositive := List.length_pos_of_ne_nil hpattern
          rw [← hlength, ← hrest, List.length_append]
          omega
        obtain ⟨pieces, hne, heq, hfree, hreplace⟩ := ih _ hshorter rest rfl
        refine ⟨[] :: pieces, List.cons_ne_nil _ _, ?_, ?_, ?_⟩
        · rw [List.intercalate_cons_of_ne_nil hne, ← heq, ← hrest]
          rfl
        · intro piece hpiece
          rcases List.mem_cons.mp hpiece with rfl | hpiece
          · exact fun hinfix => hpattern (List.infix_nil.mp hinfix)
          · exact hfree piece hpiece
        · intro replacement
          rw [← hrest, replaceChars_append replacement rest hpattern, hreplace,
            List.intercalate_cons_of_ne_nil hne]
          rfl
      · obtain ⟨pieces, hne, heq, hfree, hreplace⟩ :=
          ih cs.length (by rw [← hlength]; exact Nat.lt_succ_self _) cs rfl
        obtain ⟨piece, more, rfl⟩ := List.exists_cons_of_ne_nil hne
        have hgrow (sep : List Char) : c :: sep.intercalate (piece :: more) =
            sep.intercalate ((c :: piece) :: more) := by
          cases more with
          | nil => rw [List.intercalate_singleton, List.intercalate_singleton]
          | cons next more => simp only [List.intercalate_cons_cons, List.cons_append]
        refine ⟨(c :: piece) :: more, List.cons_ne_nil _ _, by rw [← hgrow, ← heq], ?_, ?_⟩
        · intro other hother
          rcases List.mem_cons.mp hother with rfl | hother
          · intro hinfix
            rcases List.infix_cons_iff.mp hinfix with hstart | hinside
            · -- an occurrence in the first piece would be one at the start of the text
              refine hprefix (hstart.trans ?_)
              rw [heq, hgrow]
              cases more with
              | nil => rw [List.intercalate_singleton]
              | cons next more =>
                rw [List.intercalate_cons_cons, List.append_assoc]
                exact List.prefix_append _ _
            · exact hfree piece List.mem_cons_self hinside
          · exact hfree other (List.mem_cons_of_mem _ hother)
        · intro replacement
          rw [← hgrow, ← hreplace, replaceChars, replaceFrom,
            if_neg (by rwa [List.isPrefixOf_iff_prefix])]
          rfl

end Text

namespace Path

open Text (dropWhileEnd)

variable {p dir : Path} {w : List Char} {name : String}

theorem ne_nil_of_fileName? (h : p.fileName? = some w) : w ≠ [] := by
  unfold fileName? at h
  split at h
  · rename_i first hspine
    split_ifs at h with hidle
    cases h
    rintro rfl
    exact hidle rfl
  · rename_i first v vs hspine
    obtain ⟨rest, -, hothers⟩ := pieces_of_spine hspine
    have hkept : dropWhileEnd isIdle rest ≠ [] := by
      rw [← hothers]
      exact List.cons_ne_nil v vs
    obtain ⟨init, last, hlast, hidle⟩ := Text.dropWhileEnd_eq_concat hkept
    rw [hothers, hlast, List.getLast?_concat] at h
    rw [← Option.some.inj (Option.filter_eq_some_iff.mp h).1]
    rintro rfl
    cases hidle

theorem cutAtDot_ne_nil (hw : w ≠ []) : (cutAtDot w).1 ≠ [] := by
  unfold cutAtDot
  simp only
  split
  · exact hw
  · rename_i before _
    split_ifs with hnil
    · exact hw
    · exact List.reverse_ne_nil_iff.mpr hnil

theorem ne_nil_of_stem? (h : p.stem? = some w) : w ≠ [] := by
  obtain ⟨name, hname, rfl⟩ := Option.map_eq_some_iff.mp h
  exact cutAtDot_ne_nil (ne_nil_of_fileName? hname)

/-- Whatever there is to a path, some text stands for it. -/
theorem representative_ne_nil (hp : p.chars ≠ []) : p.representative ≠ [] := by
  have hown : p.stem?.getD p.chars ≠ [] := by
    cases hstem : p.stem? with
    | none => exact hp
    | some w => exact ne_nil_of_stem? hstem
  unfold representative
  simp only
  split_ifs
  · cases hparent : p.parent?.bind stem? with
    | none => exact hown
    | some w =>
      obtain ⟨q, -, hw⟩ := Option.bind_eq_some_iff.mp hparent
      exact ne_nil_of_stem? hw
  · exact hown

theorem safeName_ne_nil (hp : p.chars ≠ []) : p.safeName.toList ≠ [] := by
  rw [safeName, String.toList_ofList, sanitizeChars]
  simpa using representative_ne_nil hp

theorem isSafe_of_mem_safeName {c : Char} (h : c ∈ p.safeName.toList) : isSafe c = true := by
  rw [safeName, String.toList_ofList] at h
  obtain ⟨d, -, rfl⟩ := List.mem_map.mp h
  split_ifs with hd
  · exact hd
  · rfl

/-- Behind an absolute directory, a name is the last component. -/
theorem exists_spine_join_name (hdir : dir.isAbsolute = true) (hname : IsName name.toList) :
    ∃ v vs, (dir.join ⟨name⟩).spine = (v, vs ++ [name.toList]) := by
  have habsolute : (dir.join ⟨name⟩).isAbsolute = true := isAbsolute_join hdir
  obtain ⟨ws, hws⟩ := pieces_of_absolute habsolute
  obtain ⟨init, hpieces, -⟩ := pieces_join dir (plain_name hname).relative
  rw [pieces_name hname] at hpieces
  have hinit : init ≠ [] := by
    rintro rfl
    rw [hws] at hpieces
    exact hname.ne_nil (List.cons.inj hpieces).1.symm
  obtain ⟨v, vs, rfl⟩ := List.exists_cons_of_ne_nil hinit
  refine ⟨v, vs, ?_⟩
  rw [spine, hpieces, List.cons_append]
  refine congrArg (Prod.mk v) (Text.dropWhileEnd_eq_self fun w hw => ?_)
  rw [List.getLast?_concat, Option.mem_some] at hw
  exact hw ▸ hname.not_idle

/-- A name in a directory is the file name there, and the directory is what lies above. -/
theorem join_name_ends (hdir : dir.isAbsolute = true) (hname : IsName name.toList) :
    (dir.join ⟨name⟩).fileName? = some name.toList ∧
    ∃ parent, (dir.join ⟨name⟩).parent? = some parent ∧ parent.isAbsolute = true ∧
      parent.steps = dir.steps := by
  obtain ⟨v, vs, hspine⟩ := exists_spine_join_name hdir hname
  constructor
  · have hlast : (vs ++ [name.toList]).getLast?.filter (· ≠ up) = some name.toList := by
      rw [List.getLast?_concat, Option.filter_some, if_pos (by simpa using hname.not_up)]
    unfold fileName?
    rw [hspine]
    cases vs <;> exact hlast
  · obtain ⟨parent, last, hparent, -, hsteps⟩ :=
      exists_parent_of_spine hspine (List.append_ne_nil_of_right_ne_nil vs (List.cons_ne_nil _ _))
    refine ⟨parent, hparent, ?_, ?_⟩
    · obtain ⟨before, after, -, ⟨-, habsolute⟩ | ⟨rfl, -⟩⟩ :=
        exists_chars_of_parent (isAbsolute_join hdir) hparent
      · exact habsolute
      · rfl
    · rw [steps_join (plain_name hname).relative, steps_name hname] at hsteps
      exact (List.append_inj' hsteps rfl).1.symm

end Path

theorem Resolver.ne_nil_of_candidate {r : Resolver} {dir q : Path} {specifier : String}
    (h : q ∈ r.candidates dir specifier) : q.chars ≠ [] := by
  have hplace := Path.chars_normalize_ne_nil (dir.join ⟨specifier⟩)
  rcases mem_candidates h with ⟨rfl, -⟩ | ⟨e, -, base, rfl, ⟨rfl, -⟩ | rfl⟩
  · exact hplace
  · rw [Path.append, Path.chars_ofChars]
    exact List.append_ne_nil_of_left_ne_nil hplace _
  · have hlonger := length_lt_indexOf hplace
    rw [Path.append, Path.chars_ofChars]
    exact List.append_ne_nil_of_left_ne_nil (List.ne_nil_of_length_pos (by omega)) _

/-- A template is made of pieces with the places for a name between them. -/
theorem Options.exists_template_pieces (template : String) :
    ∃ pieces, pieces ≠ [] ∧ template.toList = "[name]".toList.intercalate pieces ∧
      (∀ piece ∈ pieces, ¬"[name]".toList <:+: piece) ∧
      ∀ name, (Text.replace "[name]" name template).toList = name.toList.intercalate pieces := by
  have hplace : "[name]".toList ≠ [] := by decide
  obtain ⟨pieces, hne, htemplate, hfree, hreplace⟩ := Text.exists_pieces hplace template.toList
  refine ⟨pieces, hne, htemplate, hfree, fun name => ?_⟩
  rw [Text.replace, String.toList_ofList, hreplace]

/-- A template with a place for the name of an entry makes the name of a file. -/
theorem Options.isName_filled {entry : Path} {template : String} (hentry : entry.chars ≠ [])
    (hname : "[name]".toList <:+: template.toList) (hslash : '/' ∉ template.toList) :
    Path.IsName (Text.replace "[name]" entry.safeName template).toList := by
  obtain ⟨c, cs, hsafe⟩ := List.exists_cons_of_ne_nil (Path.safeName_ne_nil hentry)
  have hc : Path.isSafe c = true := by
    refine Path.isSafe_of_mem_safeName (p := entry) ?_
    rw [hsafe]
    exact List.mem_cons_self
  have hmem : c ∈ (Text.replace "[name]" entry.safeName template).toList := by
    obtain ⟨pieces, hne, heq, hfree, hreplace⟩ := exists_template_pieces template
    rw [hreplace, hsafe]
    match pieces with
    | [] => exact absurd rfl hne
    | [piece] =>
      rw [List.intercalate_singleton] at heq
      exact absurd (heq ▸ hname) (hfree piece List.mem_cons_self)
    | piece :: next :: more =>
      rw [List.intercalate_cons_cons]
      simp
  refine ⟨⟨?_, ?_⟩, ?_⟩
  · rw [← Bool.not_eq_true, Path.isIdle_eq_true]
    rintro (hnil | hdot)
    · rw [hnil] at hmem
      cases hmem
    · rw [hdot, List.mem_singleton] at hmem
      rw [hmem] at hc
      cases hc
  · intro hin
    rw [Text.replace, String.toList_ofList] at hin
    rcases Text.mem_replaceFrom hin with hin | hin
    · cases Path.isSafe_of_mem_safeName hin
    · exact hslash hin
  · intro hup
    rw [hup] at hmem
    obtain rfl : c = '.' := by simpa [Path.up] using hmem
    cases hc

namespace Bundler

/-- With accepted options that name no file, and a template without a slash that has a place for the
name of the entry, the bundle is called by the template, with one safe and nonempty name in all the
places, and lies in the output directory, compared step by step. -/
theorem filename_in_dir {σ : Type} [FileStore σ] (s : Settings) (workingDir : Path) (b : Bundler)
    (fuel : Nat) (store : σ) (bundle : Bundle) (hdir : workingDir.isAbsolute = true)
    (haccepted : s.normalize workingDir = .ok b.options) (hfile : b.options.file = none)
    (hname : "[name]".toList <:+: b.options.entryFilenames.toList)
    (hslash : '/' ∉ b.options.entryFilenames.toList)
    (hgenerate : b.generate fuel store = .ok (some bundle)) :
    ∃ parent name pieces,
      (bundle.filename.parent? = some parent ∧ parent.isAbsolute = true ∧
        (b.options.cwd.join ⟨b.options.dir⟩).isAbsolute = true ∧
        parent.steps = (b.options.cwd.join ⟨b.options.dir⟩).steps) ∧
      (name ≠ [] ∧ ∀ c ∈ name, c.isAlphanum = true ∨ c = '-' ∨ c = '_') ∧
      (b.options.entryFilenames.toList = "[name]".toList.intercalate pieces ∧
        ∀ piece ∈ pieces, ¬"[name]".toList <:+: piece) ∧
      bundle.filename.fileName? = some (name.intercalate pieces) := by
  obtain ⟨entry, hresolve, hfilename⟩ := exists_entry_of_generate hgenerate
  have hentry : entry.chars ≠ [] := Resolver.ne_nil_of_candidate
    (Resolver.mem_candidates_of_resolveIn (Resolver.resolveEntry_eq_ok.mp hresolve)).1
  have habsolute : (b.options.cwd.join ⟨b.options.dir⟩).isAbsolute = true :=
    Path.isAbsolute_join (Settings.isAbsolute_cwd haccepted hdir)
  obtain ⟨hfileName, parent, hparent, hplace, hsteps⟩ :=
    Path.join_name_ends habsolute (Options.isName_filled hentry hname hslash)
  obtain ⟨pieces, -, htemplate, hfree, hreplace⟩ :=
    Options.exists_template_pieces b.options.entryFilenames
  have houtput : bundle.filename = (b.options.cwd.join ⟨b.options.dir⟩).join
      ⟨Text.replace "[name]" entry.safeName b.options.entryFilenames⟩ := by
    rw [hfilename, Options.outputFile, hfile]
  refine ⟨parent, entry.safeName.toList, pieces, ⟨?_, hplace, habsolute, hsteps⟩,
    ⟨Path.safeName_ne_nil hentry, ?_⟩, ⟨htemplate, hfree⟩, ?_⟩
  · rw [houtput]
    exact hparent
  · intro c hc
    have hsafe := Path.isSafe_of_mem_safeName hc
    simpa [Path.isSafe, or_assoc] using hsafe
  · rw [houtput, hfileName, hreplace]

/-- Settings for an entry in a directory with an odd name, and a template with two places for it. -/
def oddSettings : Settings where
  input := some "a [name]\n.ü/mod"
  cwd := some ⟨"/p"⟩
  dir := some "../out"
  entryFilenames := some "[name].[name]-[na.js"

def oddBundler : Bundler :=
  ⟨⟨"a [name]\n.ü/mod", ⟨"/p"⟩, none, "[name].[name]-[na.js", "../out", none,
    [".js", ".mjs", ".cjs"]⟩, Extract.lines⟩

theorem filename_in_dir_odd : ∃ bundle parent,
    oddBundler.generate 20 (⟨[("/p/a [name]\n.ü/mod.js".toList, .file "".toUTF8)]⟩ : Memory) =
      .ok (some bundle) ∧
    bundle.filename = ⟨"/p/../out/a__name__.a__name__-[na.js"⟩ ∧
    bundle.filename.parent? = some parent ∧ parent.steps = [['p'], Path.up, "out".toList] := by
  obtain ⟨bundle, hgenerate, hfilename⟩ := exists_eq_ok_some_of
    (x := oddBundler.generate 20
      (⟨[("/p/a [name]\n.ü/mod.js".toList, .file "".toUTF8)]⟩ : Memory))
    (p := fun bundle => decide (bundle.filename = ⟨"/p/../out/a__name__.a__name__-[na.js"⟩))
    (by decide +kernel)
  obtain ⟨parent, -, -, ⟨hparent, -, -, hsteps⟩, -⟩ :=
    filename_in_dir oddSettings Path.root oddBundler 20 _ bundle (by decide) (by rfl) rfl
      (by decide) (by decide) hgenerate
  exact ⟨bundle, parent, hgenerate, of_decide_eq_true hfilename, hparent, hsteps⟩

end Bundler

end ModuleBundler
