import ModuleBundler.Extract.Lines
import ModuleBundler.Proofs.Discovery.Faithful
import ModuleBundler.Proofs.Store.Key
import ModuleBundler.Proofs.Store.Write

namespace ModuleBundler.Bundler

open Memory (SameFile Grows above key)

variable {b : Bundler} {fuel : Nat} {m m' : Memory} {bundle : Bundle} {e : BuildError}

theorem generate_of_scan_error (h : b.scan fuel m = .error e) : b.generate fuel m = .error e := by
  unfold generate
  rw [h]

theorem write_of_generate_error (h : b.generate fuel m = .error e) :
    b.write fuel m = (.error e, m) := by
  unfold write
  rw [h]

theorem write_of_generate_none (h : b.generate fuel m = .ok none) :
    b.write fuel m = (.ok none, m) := by
  unfold write
  rw [h]

theorem write_of_stored (h : b.generate fuel m = .ok (some bundle))
    (hstore : m.write bundle.filename bundle.content.toUTF8 = (.ok (), m')) :
    b.write fuel m = (.ok (some bundle), m') := by
  have hstore : FileStore.write m bundle.filename bundle.content.toUTF8 = (.ok (), m') := hstore
  unfold write
  simp only [h, hstore]

theorem write_of_refused {cause : FileError} (h : b.generate fuel m = .ok (some bundle))
    (hstore : m.write bundle.filename bundle.content.toUTF8 = (.error cause, m')) :
    b.write fuel m = (.error (.unwritable bundle.filename cause), m') := by
  have hstore : FileStore.write m bundle.filename bundle.content.toUTF8 = (.error cause, m') :=
    hstore
  unfold write
  simp only [h, hstore]

/-- What is returned as written was made of the store before, and stands in the store after. -/
theorem stored_of_write (h : b.write fuel m = (.ok (some bundle), m')) :
    b.generate fuel m = .ok (some bundle) ∧
      m.write bundle.filename bundle.content.toUTF8 = (.ok (), m') := by
  cases hgenerate : b.generate fuel m with
  | error e =>
    rw [write_of_generate_error hgenerate] at h
    cases h
  | ok made =>
    cases made with
    | none =>
      rw [write_of_generate_none hgenerate] at h
      cases h
    | some made =>
      rcases hstore : m.write made.filename made.content.toUTF8 with ⟨⟨cause⟩ | ⟨⟨⟩⟩, stored⟩
      · rw [write_of_refused hgenerate hstore] at h
        cases h
      · rw [write_of_stored hgenerate hstore] at h
        cases h
        exact ⟨rfl, hstore⟩

/-- A write that was seen to succeed, with a bundle of which something was seen to hold. -/
theorem exists_write_eq {p : Bundle → Bool}
    (h : (b.write fuel m).1.toOption.join.any p = true) :
    ∃ bundle m', b.write fuel m = (.ok (some bundle), m') ∧ p bundle = true := by
  obtain ⟨bundle, hanswer, hp⟩ := exists_eq_ok_some_of h
  rcases hwrite : b.write fuel m with ⟨result, m'⟩
  rw [hwrite] at hanswer
  obtain rfl : result = .ok (some bundle) := hanswer
  exact ⟨bundle, m', rfl, hp⟩

/-- A build writes the whole bundle or no file. What fails before the bundle is there fails with the
same error and leaves the store alone; a bundle that the store refuses leaves all files alone, with
new directories above its place at most; and a bundle that is written is the one that was to be made
of the store before, reads back as its text, and changes nothing under any other key. -/
theorem write_all_or_nothing (b : Bundler) (fuel : Nat) (m : Memory) :
    (∀ e, b.scan fuel m = .error e ∨ b.generate fuel m = .error e →
      b.write fuel m = (.error e, m)) ∧
    (b.generate fuel m = .ok none → b.write fuel m = (.ok none, m)) ∧
    ∀ bundle, b.generate fuel m = .ok (some bundle) →
      (∃ cause m', b.write fuel m = (.error (.unwritable bundle.filename cause), m') ∧
        (∀ p, SameFile m m' p) ∧ Grows (above bundle.filename) m m') ∨
      ∃ m', b.write fuel m = (.ok (some bundle), m') ∧
        Memory.read m' bundle.filename = .ok bundle.content ∧
        ∀ p, key p ≠ key bundle.filename → SameFile m m' p := by
  refine ⟨?_, ?_, ?_⟩
  · rintro e (hscan | hgenerate)
    · exact write_of_generate_error (generate_of_scan_error hscan)
    · exact write_of_generate_error hgenerate
  · exact write_of_generate_none
  · intro bundle hgenerate
    rcases hstore : m.write bundle.filename bundle.content.toUTF8 with ⟨⟨cause⟩ | ⟨⟨⟩⟩, m'⟩
    · have hgrows := Memory.grows_of_refused hstore
      refine .inl ⟨cause, m', write_of_refused hgenerate hstore, fun p => ?_, hgrows⟩
      exact Memory.sameFile_of_bytes_eq (hgrows.bytes?_eq p)
    · refine .inr ⟨m', write_of_stored hgenerate hstore, ?_, fun p hp => ?_⟩
      · refine Memory.read_eq_ok.mpr ⟨bundle.content.toUTF8, ?_, decodeText_toUTF8 _⟩
        rw [Memory.bytes?_write hstore, if_pos rfl]
      · refine Memory.sameFile_of_bytes_eq ?_
        rw [Memory.bytes?_write hstore, if_neg hp]

/-- A bundler for the entry `a` of a project in `/p`, with the bundle in the given place. -/
def into (dir : String) (file : Option String) : Bundler :=
  ⟨⟨"a", ⟨"/p"⟩, none, "[name].js", dir, file, [".js", ".mjs", ".cjs"]⟩, Extract.lines⟩

/-- One bundle is written; the other is refused after a directory was made for it, and the files are
the same. -/
theorem write_all_or_nothing_twins :
    (∃ bundle m', (into "dist" none).write 20 Memory.twins = (.ok (some bundle), m') ∧
      Memory.read m' bundle.filename = .ok bundle.content) ∧
    ∃ e m', (into "dist" (some "out/./b.js")).write 20 Memory.twins = (.error e, m') ∧
      (m'.get? "/p/out".toList).isSome = true ∧ ∀ p, SameFile Memory.twins m' p := by
  constructor
  · obtain ⟨bundle, m', hwrite, -⟩ := exists_write_eq
      (show ((into "dist" none).write 20 Memory.twins).1.toOption.join.any (fun _ => true) = true by
        decide +kernel)
    have hgenerate := (stored_of_write hwrite).1
    rcases (write_all_or_nothing (into "dist" none) 20 Memory.twins).2.2 bundle hgenerate with
      ⟨cause, m', hrefused, -⟩ | ⟨m', hstored, hread, -⟩
    · rw [hwrite] at hrefused
      cases hrefused
    · exact ⟨bundle, m', hstored, hread⟩
  · obtain ⟨bundle, hgenerate⟩ := exists_eq_ok_some
      (x := (into "dist" (some "out/./b.js")).generate 20 Memory.twins) (by decide +kernel)
    have hmade : (((into "dist" (some "out/./b.js")).write 20 Memory.twins).2.get?
        "/p/out".toList).isSome = true := by decide +kernel
    rcases (write_all_or_nothing (into "dist" (some "out/./b.js")) 20 Memory.twins).2.2 bundle
      hgenerate with ⟨cause, m', hwrite, hsame, -⟩ | ⟨m', hwrite, -, -⟩
    · simp only [hwrite] at hmade
      exact ⟨_, m', hwrite, hmade, hsame⟩
    · have hrefused :
          ((into "dist" (some "out/./b.js")).write 20 Memory.twins).1.toOption.isNone = true := by
        decide +kernel
      simp only [hwrite] at hrefused
      cases hrefused

end ModuleBundler.Bundler
