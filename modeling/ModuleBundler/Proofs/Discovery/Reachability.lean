import ModuleBundler.Extract.Lines
import ModuleBundler.Proofs.Discovery.Invariant
import ModuleBundler.Proofs.Host
import ModuleBundler.Store.Memory

namespace ModuleBundler.Discovery

variable {ε : Type} {host : Host (Except ε)} {entry : String} {s t : State} {e : ε}

/-- The entry leads to this path: it is that of the entry, or a specifier in the text of such a
path names it. -/
inductive Reachable (host : Host (Except ε)) (entry : String) : Path → Prop where
  | entry {p : Path} (h : host.resolveEntry entry = .ok p) : Reachable host entry p
  | dependency {p q : Path} {source : String} {specifiers : List String} {specifier : String}
      (hp : Reachable host entry p) (hsource : host.load p = .ok source)
      (hspecifiers : host.extract source p = .ok specifiers) (hs : specifier ∈ specifiers)
      (hr : host.resolve specifier p = .ok q) : Reachable host entry q

namespace Invariant

theorem mem_specifiers (h : Invariant host entry s) {i j : Nat} (hi : i < s.registry.assets.size)
    {specifier : String} (hg : (s.registry.asset i).dependencies.get? specifier = some j) :
    specifier ∈ (s.registry.asset i).specifiers := by
  have hk : specifier ∈ (s.registry.asset i).dependencies.keys :=
    (DependencyMap.mem_keys_iff _ _).mpr ⟨j, hg⟩
  by_cases hv : i ∈ visiting s.stack
  · obtain ⟨f, hf, rfl⟩ := List.mem_map.mp hv
    rw [h.mapped.suspended f hf] at hk
    exact List.mem_of_mem_take (List.mem_eraseDups.mp hk)
  · rw [h.mapped.finished i hi hv] at hk
    exact List.mem_eraseDups.mp hk

/-- Whatever is registered, the entry leads to: it was imported by an older module. -/
theorem reachable (h : Invariant host entry s) {j : Nat} (hj : j < s.registry.assets.size) :
    Reachable host entry (s.registry.asset j).path := by
  -- on the number: the importer is older, and its path is reached before
  induction j using Nat.strong_induction_on with
  | _ j ih =>
    by_cases hzero : j = 0
    · rw [hzero]
      exact .entry h.registered.entry_resolved
    · obtain ⟨i, hij, specifier, hg⟩ := h.registered.imported j hj hzero
      have hi : i < s.registry.assets.size := hij.trans hj
      obtain ⟨-, hr⟩ := h.registered.resolved i hi specifier j hg
      exact .dependency (ih i hij hi) (h.registered.loaded i hi) (h.registered.extracted i hi)
        (h.mem_specifiers hi hg) hr

end Invariant

/-- What a discovery leaves behind: every specifier of every asset is recorded. -/
structure Explored (host : Host (Except ε)) (entry : String) (r : Registry) : Prop
    extends Registered host entry r where
  keys_eq : ∀ i < r.assets.size,
    (r.asset i).dependencies.keys = (r.asset i).specifiers.eraseDups

theorem Invariant.explored (h : Invariant host entry t) (ht : t.stack = []) :
    Explored host entry t.registry := by
  refine ⟨h.registered, ?_⟩
  intro i hi
  refine h.mapped.finished i hi ?_
  rw [ht]
  exact List.not_mem_nil

theorem explored_of_discover {fuel : Nat} {d : Discovery}
    (h : discover host fuel entry = .ok (some d)) :
    ∃ t, Reached host entry t ∧ d = t.finish 0 ∧ Explored host entry t.registry := by
  obtain ⟨t, hr, ht, hd⟩ := exists_reached_of_discover h
  exact ⟨t, hr, hd, hr.invariant.explored ht⟩

namespace Explored

variable {r : Registry}

/-- Every specifier leads to the asset of the path that it names. -/
theorem exists_target (h : Explored host entry r) {i : Nat} (hi : i < r.assets.size)
    {specifier : String} (hs : specifier ∈ (r.asset i).specifiers) :
    ∃ j < r.assets.size, (r.asset i).dependencies.get? specifier = some j ∧
      host.resolve specifier (r.asset i).path = .ok (r.asset j).path := by
  have hk : specifier ∈ (r.asset i).dependencies.keys := by
    rw [h.keys_eq i hi]
    exact List.mem_eraseDups.mpr hs
  obtain ⟨j, hj⟩ := (DependencyMap.mem_keys_iff _ _).mp hk
  obtain ⟨hlt, hr⟩ := h.resolved i hi specifier j hj
  exact ⟨j, hlt, hj, hr⟩

/-- Whatever the entry leads to is registered. -/
theorem exists_registered (h : Explored host entry r) {p : Path} (hp : Reachable host entry p) :
    ∃ j < r.assets.size, (r.asset j).path = p := by
  -- the host answers once and for all, so text and specifiers of a path are those registered
  induction hp with
  | entry hentry =>
    have hpath := h.entry_resolved
    rw [hentry] at hpath
    exact ⟨0, h.nonempty, (Except.ok.inj hpath).symm⟩
  | dependency _ hsource hspecifiers hs hr ih =>
    obtain ⟨i, hi, rfl⟩ := ih
    have hloaded := h.loaded i hi
    rw [hsource] at hloaded
    cases hloaded
    have hextracted := h.extracted i hi
    rw [hspecifiers] at hextracted
    cases hextracted
    obtain ⟨j, hj, -, hresolved⟩ := h.exists_target hi hs
    rw [hr] at hresolved
    exact ⟨j, hj, (Except.ok.inj hresolved).symm⟩

theorem mem_assets_iff (h : Explored host entry r)
    (hreach : ∀ i < r.assets.size, Reachable host entry (r.asset i).path) (p : Path) :
    (∃ a ∈ r.assets, a.path = p) ↔ Reachable host entry p := by
  constructor
  · rintro ⟨a, ha, rfl⟩
    obtain ⟨i, hi⟩ := Array.mem_iff_getElem?.mp ha
    obtain ⟨hlt, rfl⟩ := Registry.getElem?_eq_some_iff.mp hi
    exact hreach i hlt
  · intro hp
    obtain ⟨j, hj, hpath⟩ := h.exists_registered hp
    exact ⟨r.asset j, Array.mem_of_getElem? (r.getElem?_assets j hj), hpath⟩

theorem exists_importer (h : Explored host entry r) {b : Asset} (hb : b ∈ r.assets)
    (hne : b.index ≠ 0) :
    ∃ a ∈ r.assets, a.index < b.index ∧
      ∃ specifier, a.dependencies.get? specifier = some b.index := by
  obtain ⟨j, hj⟩ := Array.mem_iff_getElem?.mp hb
  obtain ⟨hlt, rfl⟩ := Registry.getElem?_eq_some_iff.mp hj
  have hindex := h.wellFormed.numbered j hlt
  rw [hindex] at hne ⊢
  obtain ⟨i, hij, hedge⟩ := h.imported j hlt hne
  have hi : i < r.assets.size := hij.trans hlt
  refine ⟨r.asset i, Array.mem_of_getElem? (r.getElem?_assets i hi), ?_, hedge⟩
  rw [h.wellFormed.numbered i hi]
  exact hij

end Explored

section Fault

variable {r : Resolver} {files : Files} {extract : Extractor} {fuel : Nat}

/-- A fault of the entry, or of a module that it leads to. -/
inductive Fault (r : Resolver) (files : Files) (extract : Extractor) (entry : String) :
    BuildError → Prop where
  | unresolvedEntry (h : r.resolveIn files.isFile r.cwd entry = none) :
      Fault r files extract entry (.unresolvedEntry entry r.cwd)
  | unresolved {p : Path} {source : String} {specifiers : List String} {specifier : String}
      (hp : Reachable (r.host files extract) entry p) (hsource : files.read p = .ok source)
      (hspecifiers : extract source p = .ok specifiers) (hs : specifier ∈ specifiers)
      (h : r.resolveIn files.isFile (r.directoryOf p) specifier = none) :
      Fault r files extract entry (.unresolved specifier p)
  | unreadable {p : Path} {cause : FileError} (hp : Reachable (r.host files extract) entry p)
      (h : files.read p = .error cause) : Fault r files extract entry (.unreadable p cause)
  | unparsable {p : Path} {source : String} {cause : String}
      (hp : Reachable (r.host files extract) entry p) (hsource : files.read p = .ok source)
      (h : extract source p = .error cause) : Fault r files extract entry (.unparsable p cause)

theorem StartFails.fault {e : BuildError} (h : StartFails (r.host files extract) entry e) :
    Fault r files extract entry e := by
  cases h with
  | resolve h =>
    obtain ⟨hnone, rfl⟩ := Resolver.resolveEntry_eq_error.mp h
    exact .unresolvedEntry hnone
  | load path h hsource =>
    obtain ⟨cause, hread, rfl⟩ := Files.load_eq_error.mp hsource
    exact .unreadable (.entry h) hread
  | extract path source h hsource hspecifiers =>
    obtain ⟨cause, hextract, rfl⟩ := Extractor.ofModule_eq_error.mp hspecifiers
    exact .unparsable (.entry h) (Files.load_eq_ok.mp hsource) hextract

/-- A failing step fails at the module on top of the stack, or at one that it imports. -/
theorem Fails.fault {e : BuildError} (hinv : Invariant (r.host files extract) entry s)
    (h : Fails (r.host files extract) s e) : Fault r files extract entry e := by
  have imported (i next : Nat) (rest : List Frame) (specifier : String) (target : Path)
      (hs : s.stack = ⟨i, next⟩ :: rest)
      (hn : (s.registry.asset i).specifiers[next]? = some specifier)
      (hr : (r.host files extract).resolve specifier (s.registry.asset i).path = .ok target) :
      Reachable (r.host files extract) entry target := by
    have hi := hinv.stacked.index_lt hs
    exact .dependency (hinv.reachable hi) (hinv.registered.loaded i hi)
      (hinv.registered.extracted i hi) (List.mem_of_getElem? hn) hr
  cases h with
  | resolve i next rest specifier hs hn hl hr =>
    have hi := hinv.stacked.index_lt hs
    obtain ⟨hnone, rfl⟩ := Resolver.resolve_eq_error.mp hr
    exact .unresolved (hinv.reachable hi) (Files.load_eq_ok.mp (hinv.registered.loaded i hi))
      (Extractor.ofModule_eq_ok.mp (hinv.registered.extracted i hi)) (List.mem_of_getElem? hn)
      hnone
  | load i next rest specifier target hs hn hl hr hj hsource =>
    obtain ⟨cause, hread, rfl⟩ := Files.load_eq_error.mp hsource
    exact .unreadable (imported i next rest specifier target hs hn hr) hread
  | extract i next rest specifier target source hs hn hl hr hj hsource hspecifiers =>
    obtain ⟨cause, hextract, rfl⟩ := Extractor.ofModule_eq_error.mp hspecifiers
    exact .unparsable (imported i next rest specifier target hs hn hr)
      (Files.load_eq_ok.mp hsource) hextract

theorem fault_of_discover {e : BuildError}
    (h : discover (r.host files extract) fuel entry = .error e) :
    Fault r files extract entry e := by
  rcases fails_of_discover h with hf | ⟨t, hr, hf⟩
  · exact hf.fault
  · exact hf.fault hr.invariant

/-- A finished discovery has registered what the entry leads to and nothing else, each module after
one that imports it, and no specifier among them leads nowhere; a discovery that fails names a fault
of something that the entry leads to. -/
theorem discover_exact (r : Resolver) (files : Files) (extract : Extractor) (fuel : Nat)
    (entry : String) :
    (∀ d, discover (r.host files extract) fuel entry = .ok (some d) →
      (∀ p, (∃ a ∈ d.graph.assets, a.path = p) ↔ Reachable (r.host files extract) entry p) ∧
      (∀ p, Reachable (r.host files extract) entry p → ∃ source specifiers,
        files.read p = .ok source ∧ extract source p = .ok specifiers ∧
          ∀ specifier ∈ specifiers, ∃ q, r.resolve files.isFile specifier p = .ok q) ∧
      ∀ b ∈ d.graph.assets, b.index ≠ d.graph.entry → ∃ a ∈ d.graph.assets,
        a.index < b.index ∧ ∃ specifier, a.dependencies.get? specifier = some b.index) ∧
    ∀ e, discover (r.host files extract) fuel entry = .error e →
      Fault r files extract entry e := by
  refine ⟨?_, fun e h => fault_of_discover h⟩
  intro d h
  obtain ⟨t, hreached, rfl, hexplored⟩ := explored_of_discover h
  refine ⟨?_, ?_, ?_⟩
  · exact hexplored.mem_assets_iff fun i hi => hreached.invariant.reachable hi
  · intro p hp
    obtain ⟨i, hi, rfl⟩ := hexplored.exists_registered hp
    refine ⟨_, _, Files.load_eq_ok.mp (hexplored.loaded i hi),
      Extractor.ofModule_eq_ok.mp (hexplored.extracted i hi), ?_⟩
    intro specifier hs
    obtain ⟨j, -, -, hr⟩ := hexplored.exists_target hi hs
    exact ⟨_, hr⟩
  · intro b hb hne
    exact hexplored.exists_importer hb hne

/-- A module that imports another and itself, and that one imports it back. -/
def tangle : Memory := ⟨[
  ("/p/a.js".toList, .file "import ./b\nimport ./a\nimport ./b".toUTF8),
  ("/p/b.js".toList, .file "import ./c\nimport ./a".toUTF8),
  ("/p/c.js".toList, .file "".toUTF8)]⟩

/-- With the extension the tangle is found from its entry; without, its first import is a fault. -/
theorem discover_exact_tangle :
    (∃ d, discover ((Resolver.mk ⟨"/p"⟩ [".js"]).host (FileStore.files tangle) Extract.lines) 20
        "a" = .ok (some d) ∧
      ∀ p, (∃ a ∈ d.graph.assets, a.path = p) ↔
        Reachable ((Resolver.mk ⟨"/p"⟩ [".js"]).host (FileStore.files tangle) Extract.lines) "a"
          p) ∧
    ∃ e, discover ((Resolver.mk ⟨"/p"⟩ []).host (FileStore.files tangle) Extract.lines) 20
        "a.js" = .error e ∧
      Fault ⟨⟨"/p"⟩, []⟩ (FileStore.files tangle) Extract.lines "a.js" e := by
  constructor
  · obtain ⟨d, hd⟩ := exists_eq_ok_some (x := discover ((Resolver.mk ⟨"/p"⟩ [".js"]).host
      (FileStore.files tangle) Extract.lines) 20 "a") (by decide +kernel)
    exact ⟨d, hd, ((discover_exact _ _ _ _ _).1 d hd).1⟩
  · obtain ⟨e, he⟩ := exists_eq_error (x := discover ((Resolver.mk ⟨"/p"⟩ []).host
      (FileStore.files tangle) Extract.lines) 20 "a.js") (by decide +kernel)
    exact ⟨e, he, (discover_exact _ _ _ _ _).2 e he⟩

end Fault

end ModuleBundler.Discovery
