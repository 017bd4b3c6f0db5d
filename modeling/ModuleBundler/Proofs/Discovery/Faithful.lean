import ModuleBundler.Proofs.Discovery.Reachability
import ModuleBundler.Proofs.Graph

namespace ModuleBundler

variable {r : Resolver} {files : Files} {extract : Extractor} {entry : String}

/-- The graph has the texts and specifiers of the files under its paths, and leads where the
specifiers do. -/
structure AssetGraph.Faithful (r : Resolver) (files : Files) (extract : Extractor) (entry : String)
    (g : AssetGraph) : Prop where
  entry_eq : g.entry = 0
  entry_resolved : ∃ a, g.assets[0]? = some a ∧ r.resolveEntry files.isFile entry = .ok a.path
  numbered : ∀ (i : Nat) (a : Asset), g.assets[i]? = some a → a.index = i
  distinct : ∀ (i j : Nat) (a b : Asset), g.assets[i]? = some a → g.assets[j]? = some b →
    a.path = b.path → i = j
  source_eq : ∀ a ∈ g.assets, files.read a.path = .ok a.source
  specifiers_eq : ∀ a ∈ g.assets, extract a.source a.path = .ok a.specifiers
  keys_eq : ∀ a ∈ g.assets, a.dependencies.keys = a.specifiers.eraseDups
  target_eq : ∀ a ∈ g.assets, ∀ specifier ∈ a.specifiers, ∃ (j : Nat) (b : Asset),
    a.dependencies.get? specifier = some j ∧ g.assets[j]? = some b ∧
      r.resolve files.isFile specifier a.path = .ok b.path

namespace AssetGraph.Faithful

variable {g : AssetGraph}

theorem closedAsset (h : g.Faithful r files extract entry) {a : Asset} (ha : a ∈ g.assets) :
    ClosedAsset g.assets.size a := by
  have hkeys := h.keys_eq a ha
  constructor
  · intro specifier hs
    rw [hkeys]
    exact List.mem_eraseDups.mpr hs
  · intro e he
    have hmem : e.1 ∈ a.dependencies.keys := List.mem_map_of_mem he
    have hget := DependencyMap.get?_of_mem (hkeys ▸ nodup_eraseDups a.specifiers) he
    rw [hkeys] at hmem
    obtain ⟨j, b, hj, hb, -⟩ := h.target_eq a ha e.1 (List.mem_eraseDups.mp hmem)
    rw [hget] at hj
    cases hj
    exact (Array.getElem?_eq_some_iff.mp hb).1

theorem closed (h : g.Faithful r files extract entry) : g.Closed := by
  refine ⟨?_, h.numbered, ?_, fun a ha => h.closedAsset ha⟩
  · obtain ⟨a, ha, -⟩ := h.entry_resolved
    rw [h.entry_eq]
    exact (Array.getElem?_eq_some_iff.mp ha).1
  · rw [List.nodup_iff_pairwise_ne, List.pairwise_map, List.pairwise_iff_getElem]
    intro i j hi hj hij heq
    have hlt := h.distinct i j _ _ (Array.getElem?_eq_getElem hi) (Array.getElem?_eq_getElem hj) heq
    omega

end AssetGraph.Faithful

namespace Discovery

theorem Explored.faithful {registry : Registry}
    (h : Explored (r.host files extract) entry registry) :
    (AssetGraph.mk registry.assets 0).Faithful r files extract entry := by
  have known {a : Asset} (ha : a ∈ registry.assets) :
      ∃ i < registry.assets.size, registry.asset i = a := by
    obtain ⟨i, hi⟩ := Array.mem_iff_getElem?.mp ha
    exact ⟨i, Registry.getElem?_eq_some_iff.mp hi⟩
  refine ⟨rfl, ⟨registry.asset 0, registry.getElem?_assets 0 h.nonempty, h.entry_resolved⟩, ?_, ?_,
    ?_, ?_, ?_, ?_⟩
  · intro i a ha
    obtain ⟨hi, rfl⟩ := Registry.getElem?_eq_some_iff.mp ha
    exact h.wellFormed.numbered i hi
  · intro i j a b ha hb hpath
    obtain ⟨hi, rfl⟩ := Registry.getElem?_eq_some_iff.mp ha
    obtain ⟨hj, rfl⟩ := Registry.getElem?_eq_some_iff.mp hb
    exact h.wellFormed.path_inj i j hi hj hpath
  · intro a ha
    obtain ⟨i, hi, rfl⟩ := known ha
    exact Files.load_eq_ok.mp (h.loaded i hi)
  · intro a ha
    obtain ⟨i, hi, rfl⟩ := known ha
    exact Extractor.ofModule_eq_ok.mp (h.extracted i hi)
  · intro a ha
    obtain ⟨i, hi, rfl⟩ := known ha
    exact h.keys_eq i hi
  · intro a ha specifier hs
    obtain ⟨i, hi, rfl⟩ := known ha
    obtain ⟨j, hj, hget, hr⟩ := h.exists_target hi hs
    exact ⟨j, registry.asset j, hget, registry.getElem?_assets j hj, hr⟩

theorem faithful_of_discover {fuel : Nat} {d : Discovery}
    (h : discover (r.host files extract) fuel entry = .ok (some d)) :
    d.graph.Faithful r files extract entry := by
  obtain ⟨t, -, rfl, hexplored⟩ := explored_of_discover h
  exact hexplored.faithful

theorem exists_toBundle {d : Discovery} (h : d.graph.Closed) (o : Options) :
    ∃ bundle, d.toBundle o = .ok bundle := by
  unfold toBundle
  rw [h.generate_eq]
  exact ⟨_, rfl⟩

end Discovery

namespace Bundler

variable {σ : Type} [FileStore σ]

theorem closed_of_scan {b : Bundler} {fuel : Nat} {store : σ} {d : Discovery}
    (h : b.scan fuel store = .ok (some d)) : d.graph.Closed :=
  (Discovery.faithful_of_discover h).closed

/-- Making the bundle of a finished discovery does not fail. -/
theorem generate_eq (b : Bundler) (fuel : Nat) (store : σ) :
    (∃ e, b.scan fuel store = .error e ∧ b.generate fuel store = .error e) ∨
    (b.scan fuel store = .ok none ∧ b.generate fuel store = .ok none) ∨
    ∃ d bundle, b.scan fuel store = .ok (some d) ∧ b.generate fuel store = .ok (some bundle) := by
  unfold generate
  cases h : b.scan fuel store with
  | error e => exact .inl ⟨e, rfl, rfl⟩
  | ok o =>
    cases o with
    | none => exact .inr (.inl ⟨rfl, rfl⟩)
    | some d =>
      obtain ⟨bundle, hbundle⟩ := Discovery.exists_toBundle (closed_of_scan h) b.options
      exact .inr (.inr ⟨d, bundle, rfl, by simp only [hbundle]⟩)

end Bundler

/-- The graph of a finished discovery is faithful to the files and passes its check. So the bundle
fails exactly as the discovery does, and never for the graph. -/
theorem discover_faithful :
    (∀ (r : Resolver) (files : Files) (extract : Extractor) (fuel : Nat) (entry : String)
        (d : Discovery),
      Discovery.discover (r.host files extract) fuel entry = .ok (some d) →
        d.graph.Faithful r files extract entry ∧ d.graph.validate = .ok () ∧
          ∀ cwd name, d.graph.generate cwd name = .ok (d.graph.bundleText cwd name)) ∧
    ∀ {σ : Type} [FileStore σ] (b : Bundler) (fuel : Nat) (store : σ),
      (∀ e, b.generate fuel store = .error e ↔ b.scan fuel store = .error e) ∧
      ((∃ bundle, b.generate fuel store = .ok (some bundle)) ↔
        ∃ d, b.scan fuel store = .ok (some d)) ∧
      ∀ violation, b.generate fuel store ≠ .error (.invariantViolation violation) := by
  constructor
  · intro r files extract fuel entry d h
    have hfaithful := Discovery.faithful_of_discover h
    have hclosed := hfaithful.closed
    exact ⟨hfaithful, (AssetGraph.validate_eq_ok_iff _).mpr hclosed, hclosed.generate_eq⟩
  · intro σ _ b fuel store
    rcases b.generate_eq fuel store with
      ⟨e, hscan, hgenerate⟩ | ⟨hscan, hgenerate⟩ | ⟨d, bundle, hscan, hgenerate⟩
    · rw [hscan, hgenerate]
      refine ⟨by simp, by simp, ?_⟩
      rintro violation ⟨⟩
      -- no fault of a module is one of the graph
      cases Discovery.fault_of_discover hscan
    · rw [hscan, hgenerate]
      simp
    · rw [hscan, hgenerate]
      simp

theorem discover_faithful_tangle :
    ∃ d, Discovery.discover ((Resolver.mk ⟨"/p"⟩ [".js"]).host
        (FileStore.files Discovery.tangle) Extract.lines) 20 "a" = .ok (some d) ∧
      d.graph.validate = .ok () := by
  obtain ⟨d, hd⟩ := exists_eq_ok_some (x := Discovery.discover ((Resolver.mk ⟨"/p"⟩ [".js"]).host
    (FileStore.files Discovery.tangle) Extract.lines) 20 "a") (by decide +kernel)
  exact ⟨d, hd, (discover_faithful.1 _ _ _ _ _ d hd).2.1⟩

end ModuleBundler
