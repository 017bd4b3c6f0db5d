import ModuleBundler.Proofs.Discovery.Locality
import ModuleBundler.Proofs.Writing

namespace ModuleBundler.Bundler

open Memory (key)

section Local

variable {σ σ' : Type} [FileStore σ] [FileStore σ'] {b : Bundler} {fuel : Nat} {store : σ}
  {store' : σ'} {d : Discovery}

/-- The stores have the same files, and the same texts of the assets. -/
structure SameInputs (d : Discovery) (store : σ) (store' : σ') : Prop where
  isFile_eq : ∀ p, FileStore.isFile store' p = FileStore.isFile store p
  read_eq : ∀ a ∈ d.graph.assets, FileStore.read store' a.path = FileStore.read store a.path

theorem SameInputs.agreeOn (h : SameInputs d store store') (r : Resolver) (extract : Extractor) :
    (r.host (FileStore.files store) extract).AgreeOn (fun p => ∃ a ∈ d.graph.assets, a.path = p)
      (r.host (FileStore.files store') extract) := by
  have hfiles : (FileStore.files store').isFile = (FileStore.files store).isFile :=
    funext h.isFile_eq
  constructor
  · rfl
  · simp only [Resolver.host, hfiles]
  · simp only [Resolver.host, hfiles]
  · rintro p ⟨a, ha, rfl⟩
    change (FileStore.files store').load a.path = (FileStore.files store).load a.path
    have hread : (FileStore.files store').read a.path = (FileStore.files store).read a.path :=
      h.read_eq a ha
    unfold Files.load
    rw [hread]
  · rfl

theorem scan_of_sameInputs (hscan : b.scan fuel store = .ok (some d))
    (h : SameInputs d store store') : b.scan fuel store' = .ok (some d) :=
  Discovery.discover_of_agree hscan (h.agreeOn b.options.resolver b.extract)

theorem generate_eq_of_scan_eq (h : b.scan fuel store' = b.scan fuel store) :
    b.generate fuel store' = b.generate fuel store := by
  unfold generate
  rw [h]

end Local

section Session

/-- What a caller may ask of a bundler. -/
inductive Call where
  | scan
  | generate
  | write

/-- What comes back: the modules, or the bundle. -/
inductive Answer where
  | discovered (result : Except BuildError (Option Discovery))
  | bundled (result : Except BuildError (Option Bundle))

/-- The answer to a call, and the store after it. -/
def perform {σ : Type} [FileStore σ] (b : Bundler) (fuel : Nat) (store : σ) : Call → Answer × σ
  | .scan => (.discovered (b.scan fuel store), store)
  | .generate => (.bundled (b.generate fuel store), store)
  | .write =>
    let (result, store) := b.write fuel store
    (.bundled result, store)

/-- The answers to calls one after another, and the store after them. -/
def session {σ : Type} [FileStore σ] (b : Bundler) (fuel : Nat) :
    List Call → σ → List Answer × σ
  | [], store => ([], store)
  | call :: calls, store =>
    let (answer, store) := b.perform fuel store call
    let (answers, store) := b.session fuel calls store
    (answer :: answers, store)

/-- The answer to a call where these modules are found and this bundle is made. -/
def Call.answer (d : Discovery) (bundle : Bundle) : Call → Answer
  | .scan => .discovered (.ok (some d))
  | .generate | .write => .bundled (.ok (some bundle))

variable {b : Bundler} {fuel : Nat} {m m' : Memory} {d : Discovery} {bundle : Bundle}

/-- A store in which a bundle stands and is made again. -/
structure Settled (b : Bundler) (fuel : Nat) (d : Discovery) (bundle : Bundle) (m : Memory) :
    Prop where
  scan_eq : b.scan fuel m = .ok (some d)
  generate_eq : b.generate fuel m = .ok (some bundle)
  write_eq : b.write fuel m = (.ok (some bundle), m)

theorem Settled.perform_eq (h : Settled b fuel d bundle m) (call : Call) :
    b.perform fuel m call = (call.answer d bundle, m) := by
  cases call with
  | scan => rw [perform, h.scan_eq, Call.answer]
  | generate => rw [perform, h.generate_eq, Call.answer]
  | write =>
    unfold perform
    rw [h.write_eq]
    rfl

theorem Settled.session_eq (h : Settled b fuel d bundle m) (calls : List Call) :
    b.session fuel calls m = (calls.map (Call.answer d bundle), m) := by
  induction calls with
  | nil => rfl
  | cons call calls ih => simp only [session, h.perform_eq, ih, List.map_cons]

/-- A bundle that was written over a file settles, if that file is no module. -/
theorem settled_of_write (hscan : b.scan fuel m = .ok (some d))
    (hwrite : b.write fuel m = (.ok (some bundle), m'))
    (hfile : Memory.isFile m bundle.filename = true)
    (hapart : ∀ a ∈ d.graph.assets, key a.path ≠ key bundle.filename) :
    SameInputs d m m' ∧ Settled b fuel d bundle m' := by
  obtain ⟨hgenerate, hstore⟩ := stored_of_write hwrite
  have hsame : SameInputs d m m' := by
    refine ⟨Memory.isFile_write hstore hfile, fun a ha => ?_⟩
    have hread := (Discovery.faithful_of_discover hscan).source_eq a ha
    obtain ⟨bytes, hbytes, htext⟩ := Memory.read_eq_ok.mp hread
    refine Eq.trans (Memory.read_eq_ok.mpr ⟨bytes, ?_, htext⟩) hread.symm
    rw [Memory.bytes?_write hstore, if_neg (hapart a ha), hbytes]
  have hscan' := scan_of_sameInputs hscan hsame
  have hgenerate' := (generate_eq_of_scan_eq (hscan'.trans hscan.symm)).trans hgenerate
  exact ⟨hsame, hscan', hgenerate', write_of_stored hgenerate' (Memory.write_again hstore)⟩

end Session

/-- A build depends on which paths are files and on the texts of its own modules only: stores that
agree about these have the same modules, cycles and bundle. So after a bundle was written over a
file that is none of its modules, whatever is asked next has the same answers as before. -/
theorem build_local :
    (∀ {σ σ' : Type} [FileStore σ] [FileStore σ'] (b : Bundler) (fuel : Nat) (store : σ)
        (store' : σ') (d : Discovery),
      b.scan fuel store = .ok (some d) → SameInputs d store store' →
        b.scan fuel store' = .ok (some d) ∧
          ∃ bundle, b.generate fuel store = .ok (some bundle) ∧
            b.generate fuel store' = .ok (some bundle)) ∧
    ∀ (b : Bundler) (fuel : Nat) (m m' : Memory) (d : Discovery) (bundle : Bundle),
      b.scan fuel m = .ok (some d) → b.write fuel m = (.ok (some bundle), m') →
      Memory.isFile m bundle.filename = true →
      (∀ a ∈ d.graph.assets, key a.path ≠ key bundle.filename) →
        ∀ calls, b.session fuel calls m' = (calls.map (Call.answer d bundle), m') := by
  constructor
  · intro σ σ' _ _ b fuel store store' d hscan hsame
    have hscan' := scan_of_sameInputs hscan hsame
    refine ⟨hscan', ?_⟩
    rw [generate_eq_of_scan_eq (hscan'.trans hscan.symm)]
    rcases b.generate_eq fuel store with
      ⟨e, hnot, -⟩ | ⟨hnot, -⟩ | ⟨found, bundle, -, hgenerate⟩
    · rw [hscan] at hnot
      cases hnot
    · rw [hscan] at hnot
      cases hnot
    · exact ⟨bundle, hgenerate, hgenerate⟩
  · intro b fuel m m' d bundle hscan hwrite hfile hapart calls
    exact (settled_of_write hscan hwrite hfile hapart).2.session_eq calls

/-- A project that was built before. -/
def built : Memory := (Memory.twins.write ⟨"/p/dist/a.js"⟩ "old".toUTF8).2

/-- The old bundle is none of the modules, so writing the new one over it changes no answer. -/
theorem build_local_built : ∃ d bundle m',
    (into "dist" none).scan 20 built = .ok (some d) ∧
    (into "dist" none).scan 20 m' = .ok (some d) ∧
    (into "dist" none).session 20 [.write, .scan, .generate, .write] built =
      ([.bundled (.ok (some bundle)), .discovered (.ok (some d)), .bundled (.ok (some bundle)),
        .bundled (.ok (some bundle))], m') := by
  obtain ⟨d, hscan, hapart⟩ := exists_eq_ok_some_of (x := (into "dist" none).scan 20 built)
    (p := fun d => d.graph.assets.all fun a => decide (key a.path ≠ key ⟨"/p/dist/a.js"⟩))
    (by decide +kernel)
  obtain ⟨bundle, m', hwrite, hfilename⟩ := exists_write_eq
    (show ((into "dist" none).write 20 built).1.toOption.join.any
      (fun bundle => decide (bundle.filename = ⟨"/p/dist/a.js"⟩)) = true by decide +kernel)
  rw [decide_eq_true_eq] at hfilename
  rw [Array.all_eq_true_iff_forall_mem] at hapart
  have hfile : Memory.isFile built bundle.filename = true := by
    rw [hfilename]
    decide +kernel
  have hapart : ∀ a ∈ d.graph.assets, key a.path ≠ key bundle.filename := by
    intro a ha
    rw [hfilename]
    exact of_decide_eq_true (hapart a ha)
  have hsame := (settled_of_write hscan hwrite hfile hapart).1
  have hsession := build_local.2 _ 20 built m' d bundle hscan hwrite hfile hapart
    [.scan, .generate, .write]
  refine ⟨d, bundle, m', hscan, (build_local.1 _ 20 built m' d hscan hsame).1, ?_⟩
  rw [session, perform, hwrite]
  simp only [hsession]
  rfl

end ModuleBundler.Bundler
