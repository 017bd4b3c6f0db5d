import ModuleBundler.Proofs.Discovery.Recursive

namespace ModuleBundler

/-- Hosts whose answers are the same, but for the texts of paths outside a set. -/
structure Host.AgreeOn {m : Type → Type} (P : Path → Prop) (host host' : Host m) : Prop where
  cwd_eq : host'.cwd = host.cwd
  resolveEntry_eq : host'.resolveEntry = host.resolveEntry
  resolve_eq : host'.resolve = host.resolve
  load_eq : ∀ p, P p → host'.load p = host.load p
  extract_eq : host'.extract = host.extract

namespace Discovery

variable {ε : Type} {host host' : Host (Except ε)} {P : Path → Prop} {s t : State} {n : Nat}

/-- All assets of the registry have paths in the set. -/
def Within (P : Path → Prop) (r : Registry) : Prop := ∀ i < r.assets.size, P (r.asset i).path

theorem Within.of_extends {r r' : Registry} (h : Within P r') (hr : r.Extends r') :
    Within P r := by
  intro i hi
  rw [← hr.path i hi]
  exact h i (Nat.lt_of_lt_of_le hi hr.size_le)

/-- A step is a step with the other host as well, if the module it loads has the same text there. -/
theorem Step.of_agree (h : Step host s t) (hagree : host.AgreeOn P host')
    (hwithin : Within P t.registry) : Step host' s t := by
  cases h with
  | leave i next rest hs hn => exact .leave i next rest hs hn
  | skip i next rest specifier hs hn hl => exact .skip i next rest specifier hs hn hl
  | revisit i next rest specifier target j hs hn hl hr hj =>
    rw [← hagree.cwd_eq]
    exact .revisit i next rest specifier target j hs hn hl (hagree.resolve_eq ▸ hr) hj
  | descend i next rest specifier target source specifiers hs hn hl hr hj hsource hspecifiers =>
    have htarget : P target := by
      have hnew := hwithin s.registry.assets.size (by rw [Registry.size_grow]; omega)
      rwa [Registry.path_grow, if_pos rfl] at hnew
    exact .descend i next rest specifier target source specifiers hs hn hl
      (hagree.resolve_eq ▸ hr) hj ((hagree.load_eq target htarget).trans hsource)
      (hagree.extract_eq ▸ hspecifiers)

/-- No step takes a module away, so what was loaded on the way is among the modules at the end. -/
theorem Reaches.of_agree (h : Reaches host n s t) (hagree : host.AgreeOn P host')
    (hwithin : Within P t.registry) : Reaches host' n s t := by
  induction h with
  | refl s => exact .refl s
  | head hst hr ih =>
    exact .head (hst.of_agree hagree (hwithin.of_extends hr.extends)) (ih hwithin)

theorem Starts.of_agree {entry : String} {path : Path} {source : String}
    {specifiers : List String} (h : Starts host entry path source specifiers)
    (hagree : host.AgreeOn P host') (hpath : P path) :
    Starts host' entry path source specifiers :=
  ⟨hagree.resolveEntry_eq ▸ h.resolved, (hagree.load_eq path hpath).trans h.loaded,
    hagree.extract_eq ▸ h.extracted⟩

/-- A discovery is the same with every host that agrees about the modules it finds. -/
theorem discover_of_agree {fuel : Nat} {entry : String} {d : Discovery}
    (h : discover host fuel entry = .ok (some d))
    (hagree : host.AgreeOn (fun p => ∃ a ∈ d.graph.assets, a.path = p) host') :
    discover host' fuel entry = .ok (some d) := by
  rcases start_cases host entry with ⟨path, source, specifiers, hs, -⟩ | ⟨e, -, heq⟩
  · rw [discover_of_starts hs] at h
    rcases run_cases host 0 fuel (initial path source specifiers) with
      ⟨n, t, hn, hr, ht, heq⟩ | ⟨n, t, e, -, -, -, heq⟩ | ⟨t, -, heq⟩
    all_goals
      rw [h] at heq
      cases heq
    -- the set is known at the end only, where everything loaded on the way still is
    have hwithin : Within (fun p => ∃ a ∈ t.registry.assets, a.path = p) t.registry := by
      intro i hi
      exact ⟨t.registry.asset i, Array.mem_of_getElem? (t.registry.getElem?_assets i hi), rfl⟩
    have hfirst := hwithin.of_extends hr.extends 0 (by simp [initial])
    have hpath : ((initial path source specifiers).registry.asset 0).path = path := rfl
    rw [hpath] at hfirst
    rw [discover_of_starts (hs.of_agree hagree hfirst)]
    exact run_of_ended (hr.of_agree hagree hwithin) ht hn
  · rw [discover, heq] at h
    cases h

end Discovery

end ModuleBundler
