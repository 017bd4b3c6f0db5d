import ModuleBundler.Proofs.Discovery.Reachability
import ModuleBundler.Proofs.Walk

namespace ModuleBundler

namespace AssetGraph

/-- Asset `i` has a specifier that leads to asset `j`. -/
def Edge (g : AssetGraph) (i j : Nat) : Prop := ∃ specifier, g.dependency? i specifier = some j

/-- The assets of a walk by their names. -/
def cycleAlong (g : AssetGraph) (cwd : Path) (walk : List Nat) : Cycle :=
  ⟨walk.map fun i => g.assets[i]!.path.stable cwd⟩

end AssetGraph

namespace Registry

theorem edge_eq (r : Registry) (entry : Nat) : (AssetGraph.mk r.assets entry).Edge = r.Edge := by
  funext i j
  unfold AssetGraph.Edge AssetGraph.dependency? Edge
  rw [r.asset_eq_getD]
  cases r.assets[i]? with
  | none =>
    have hnone (specifier : String) : (default : Asset).dependencies.get? specifier = none := rfl
    simp [hnone]
  | some a => rfl

theorem Edge.lt_size {r : Registry} {i j : Nat} (h : r.Edge i j) : i < r.assets.size := by
  obtain ⟨specifier, h⟩ := h
  by_contra hge
  rw [r.asset_eq_getD, Array.getElem?_eq_none (Nat.le_of_not_lt hge)] at h
  cases h

theorem cycleAlong_congr {r r' : Registry} {cwd : Path} {walk : List Nat}
    (h : ∀ i ∈ walk, (r'.asset i).path = (r.asset i).path) :
    r'.cycleAlong cwd walk = r.cycleAlong cwd walk := by
  unfold cycleAlong
  congr 1
  apply List.map_congr_left
  intro i hi
  rw [h i hi]

end Registry

namespace Discovery

variable {ε : Type} {host : Host (Except ε)} {entry : String} {s t : State}
  {walks : List (List Nat)} {finished : List Nat}

/-- The line of all assets: those being visited, the oldest first, then the finished ones. -/
def line (stack : List Frame) (finished : List Nat) : List Nat :=
  (visiting stack).reverse ++ finished

/-- The cycles reported so far are those of the walks, and all edges that close none of them lead
forward. -/
structure Reported (cwd : Path) (s : State) (walks : List (List Nat)) (finished : List Nat) :
    Prop where
  cycles_eq : s.cycles = walks.map (s.registry.cycleAlong cwd)
  lt_size : ∀ walk ∈ walks, ∀ i ∈ walk, i < s.registry.assets.size
  isCycle : ∀ walk ∈ walks, IsCycle s.registry.Edge walk
  forward : ∀ i j, Unclosed s.registry.Edge walks i j →
    (line s.stack finished).idxOf i < (line s.stack finished).idxOf j

/-- Coming back to a module that is being visited reports the way down from it. -/
theorem Stacked.closedBy_cases (h : Stacked s.registry s.active s.stack) (cwd : Path) (j : Nat) :
    (j ∉ visiting s.stack ∧ closedBy cwd s j = []) ∨
    ∃ before below, (visiting s.stack).reverse = before ++ j :: below ∧
      closedBy cwd s j = [s.registry.cycleAlong cwd (j :: below ++ [j])] := by
  rcases Discovery.closedBy_cases cwd s j with
    ⟨hj, hcycles⟩ | ⟨before, below, hactive, -, hcycles⟩
  · rw [h.active_eq, List.mem_reverse] at hj
    exact .inl ⟨hj, hcycles⟩
  · exact .inr ⟨before, below, h.active_eq.symm.trans hactive, hcycles⟩

namespace Reported

variable {cwd : Path} {i j next : Nat} {rest : List Frame}

/-- What a new edge and new walks have to bring along for the report to stay right. -/
theorem extend (h : Reported cwd s walks finished) (more : List (List Nat))
    (hsize : s.registry.assets.size ≤ t.registry.assets.size)
    (hpath : ∀ k < s.registry.assets.size,
      (t.registry.asset k).path = (s.registry.asset k).path)
    (hedge : ∀ k m, t.registry.Edge k m ↔ s.registry.Edge k m ∨ k = i ∧ m = j)
    (hcycles : t.cycles = s.cycles ++ more.map (t.registry.cycleAlong cwd))
    (hmore : ∀ walk ∈ more, IsCycle t.registry.Edge walk ∧
      ∀ k ∈ walk, k < t.registry.assets.size)
    (hold : ∀ k m, s.registry.Edge k m →
      (line s.stack finished).idxOf k < (line s.stack finished).idxOf m →
        (line t.stack finished).idxOf k < (line t.stack finished).idxOf m)
    (hnew : (∀ walk ∈ walks ++ more, ¬ [i, j] <:+ walk) →
      (line t.stack finished).idxOf i < (line t.stack finished).idxOf j) :
    Reported cwd t (walks ++ more) finished := by
  refine ⟨?_, ?_, ?_, ?_⟩
  · rw [hcycles, h.cycles_eq, List.map_append]
    congr 1
    apply List.map_congr_left
    intro walk hwalk
    exact (Registry.cycleAlong_congr fun k hk => hpath k (h.lt_size walk hwalk k hk)).symm
  · intro walk hwalk k hk
    rcases List.mem_append.mp hwalk with hwalk | hwalk
    · exact Nat.lt_of_lt_of_le (h.lt_size walk hwalk k hk) hsize
    · exact (hmore walk hwalk).2 k hk
  · intro walk hwalk
    rcases List.mem_append.mp hwalk with hwalk | hwalk
    · exact (h.isCycle walk hwalk).mono fun k m he => (hedge k m).mpr (.inl he)
    · exact (hmore walk hwalk).1
  · intro k m ⟨hkm, hopen⟩
    rcases (hedge k m).mp hkm with he | ⟨rfl, rfl⟩
    · have hopen' := fun walk hw => hopen walk (List.mem_append_left more hw)
      exact hold k m he (h.forward k m ⟨he, hopen'⟩)
    · exact hnew hopen

/-- An edge to a module that is not being visited leads forward. -/
theorem revisit_finished (h : Reported cwd s walks finished) (hs : s.stack = ⟨i, next⟩ :: rest)
    (hi : i < s.registry.assets.size) {specifier : String}
    (hnew : (s.registry.asset i).dependencies.get? specifier = none) (hj : j ∉ visiting s.stack) :
    Reported cwd ⟨s.registry.link i specifier j, ⟨i, next + 1⟩ :: rest, s.active, s.cycles⟩ walks
      finished := by
  have hedge (k m : Nat) := s.registry.edge_link hi j k m hnew
  have hline : line (⟨i, next + 1⟩ :: rest) finished = line s.stack finished := by
    rw [hs]
    rfl
  have hextend := h.extend (t := ⟨s.registry.link i specifier j, ⟨i, next + 1⟩ :: rest, s.active,
    s.cycles⟩) [] (by simp) (by simp) hedge (by simp) (by simp) ?_ ?_
  · rw [List.append_nil] at hextend
    exact hextend
  · intro k m _ hlt
    rw [hline]
    exact hlt
  · intro _
    have htop : i ∈ (visiting s.stack).reverse := by
      rw [hs]
      simp [visiting]
    have hlt := List.idxOf_lt_length_of_mem htop
    rw [hline, line, List.idxOf_append, List.idxOf_append, if_pos htop,
      if_neg (fun hm => hj (List.mem_reverse.mp hm))]
    omega

/-- An edge back to a module that is being visited closes a cycle. -/
theorem revisit_visiting (h : Reported cwd s walks finished)
    (hstacked : Stacked s.registry s.active s.stack) (hs : s.stack = ⟨i, next⟩ :: rest)
    {specifier : String} (hnew : (s.registry.asset i).dependencies.get? specifier = none)
    {before below : List Nat} (hway : (visiting s.stack).reverse = before ++ j :: below) :
    Reported cwd ⟨s.registry.link i specifier j, ⟨i, next + 1⟩ :: rest, s.active,
      s.cycles ++ [s.registry.cycleAlong cwd (j :: below ++ [j])]⟩
      (walks ++ [j :: below ++ [j]]) finished := by
  have hi := hstacked.index_lt hs
  have hedge (k m : Nat) := s.registry.edge_link hi j k m hnew
  have hline : line (⟨i, next + 1⟩ :: rest) finished = line s.stack finished := by
    rw [hs]
    rfl
  have hchain : (visiting s.stack).reverse.IsChain (s.registry.link i specifier j).Edge := by
    rw [List.isChain_reverse]
    exact hstacked.edges.imp fun k m he => (hedge m k).mpr (.inl he)
  have hnodup : (visiting s.stack).reverse.Nodup :=
    List.nodup_reverse.mpr (hstacked.sorted.imp fun hlt => Nat.ne_of_gt hlt)
  have hlast : (visiting s.stack).reverse.getLast? = some i := by
    rw [List.getLast?_reverse, hs]
    rfl
  have hmem : ∀ k ∈ before ++ j :: below, k < s.registry.assets.size := fun k hk =>
    hstacked.lt_size k (List.mem_reverse.mp (hway ▸ hk))
  rw [hway] at hchain hnodup hlast
  obtain ⟨hcycle, hcloses⟩ :=
    isCycle_of_way hchain hnodup hlast ((hedge i j).mpr (.inr ⟨rfl, rfl⟩))
  refine h.extend [j :: below ++ [j]] (by simp) (by simp) hedge ?_ ?_ ?_ ?_
  · have hsame : (s.registry.link i specifier j).cycleAlong cwd (j :: below ++ [j]) =
        s.registry.cycleAlong cwd (j :: below ++ [j]) :=
      Registry.cycleAlong_congr fun k _ => s.registry.path_link i k specifier j
    rw [List.map_singleton, hsame]
  · intro walk hwalk
    rw [List.mem_singleton.mp hwalk]
    refine ⟨hcycle, ?_⟩
    intro k hk
    rw [Registry.size_link]
    apply hmem k
    rcases List.mem_append.mp hk with hk | hk
    · exact List.mem_append_right before hk
    · rw [List.mem_singleton.mp hk]
      exact List.mem_append_right before List.mem_cons_self
  · intro k m _ hlt
    rw [hline]
    exact hlt
  · intro hopen
    exact absurd hcloses (hopen _ (List.mem_append_right _ (List.mem_singleton_self _)))

/-- A new module stands in the line between those being visited and the finished ones. -/
theorem descend (h : Reported cwd s walks finished) (hinv : Invariant host entry s)
    (hs : s.stack = ⟨i, next⟩ :: rest) {specifier : String}
    (hnew : (s.registry.asset i).dependencies.get? specifier = none) (target : Path)
    (source : String) (specifiers : List String) :
    Reported cwd ⟨s.registry.grow i specifier target source specifiers,
      ⟨s.registry.assets.size, 0⟩ :: ⟨i, next + 1⟩ :: rest,
      activate s.active s.registry.assets.size, s.cycles⟩ walks finished := by
  have htop : i ∈ visiting s.stack := by
    rw [hs]
    exact List.mem_cons_self
  have hi := hinv.stacked.index_lt hs
  have hedge (k m : Nat) := s.registry.edge_grow hi target source specifiers k m hnew
  have hfresh : s.registry.assets.size ∉ (visiting s.stack).reverse := fun hm =>
    Nat.lt_irrefl _ (hinv.stacked.lt_size _ (List.mem_reverse.mp hm))
  have hline : line (⟨s.registry.assets.size, 0⟩ :: ⟨i, next + 1⟩ :: rest) finished =
      (visiting s.stack).reverse ++ s.registry.assets.size :: finished := by
    rw [hs]
    simp [line, visiting]
  have hextend := h.extend (t := ⟨s.registry.grow i specifier target source specifiers,
    ⟨s.registry.assets.size, 0⟩ :: ⟨i, next + 1⟩ :: rest,
    activate s.active s.registry.assets.size, s.cycles⟩) [] (by simp) ?_ hedge (by simp) (by simp)
    ?_ ?_
  · rw [List.append_nil] at hextend
    exact hextend
  · intro k hk
    rw [Registry.path_grow, if_neg (Nat.ne_of_lt hk)]
  · intro k m hedge hlt
    have hk := hedge.lt_size
    obtain ⟨specifier', hget⟩ := hedge
    obtain ⟨hm, -⟩ := hinv.registered.resolved k hk specifier' m hget
    rw [hline]
    exact idxOf_lt_insert (Nat.ne_of_lt hk) (Nat.ne_of_lt hm) hlt
  · intro _
    have hlt := List.idxOf_lt_length_of_mem (List.mem_reverse.mpr htop)
    rw [hline, List.idxOf_append, List.idxOf_append, if_pos (List.mem_reverse.mpr htop),
      if_neg hfresh, List.idxOf_cons_self]
    omega

theorem start (cwd path : Path) (source : String) (specifiers : List String) :
    Reported cwd (initial path source specifiers) [] [] := by
  refine ⟨rfl, by simp, by simp, ?_⟩
  intro i j ⟨hedge, _⟩
  have hi := hedge.lt_size
  rw [size_initial] at hi
  obtain ⟨specifier, hget⟩ := hedge
  rw [Nat.lt_one_iff.mp hi, asset_initial] at hget
  cases hget

theorem step (h : Reported host.cwd s walks finished) (hinv : Invariant host entry s)
    (hst : Step host s t) : ∃ walks' finished', Reported host.cwd t walks' finished' := by
  cases hst with
  | leave i next rest hs hn =>
    -- the finished module keeps its place in the line
    have hline : line rest (i :: finished) = line s.stack finished := by
      rw [hs]
      simp [line, visiting]
    refine ⟨walks, i :: finished, h.cycles_eq, h.lt_size, h.isCycle, ?_⟩
    rw [hline]
    exact h.forward
  | skip i next rest specifier hs hn hl =>
    have hline : line (⟨i, next + 1⟩ :: rest) finished = line s.stack finished := by
      rw [hs]
      rfl
    refine ⟨walks, finished, h.cycles_eq, h.lt_size, h.isCycle, ?_⟩
    rw [hline]
    exact h.forward
  | revisit i next rest specifier target j hs hn hl hr hj =>
    have hnew := get?_of_not_linked hl
    rcases hinv.stacked.closedBy_cases host.cwd j with
      ⟨hj, hcycles⟩ | ⟨before, below, hway, hcycles⟩
    · rw [hcycles, List.append_nil]
      exact ⟨walks, finished, h.revisit_finished hs (hinv.stacked.index_lt hs) hnew hj⟩
    · rw [hcycles]
      exact ⟨_, finished, h.revisit_visiting hinv.stacked hs hnew hway⟩
  | descend i next rest specifier target source specifiers hs hn hl hr hj hsource hspecifiers =>
    exact ⟨walks, finished,
      h.descend hinv hs (get?_of_not_linked hl) target source specifiers⟩

end Reported

theorem Reached.reported (h : Reached host entry t) :
    ∃ walks finished, Reported host.cwd t walks finished := by
  have hboth : Invariant host entry t ∧ ∃ walks finished, Reported host.cwd t walks finished := by
    refine h.preserves (P := fun s => Invariant host entry s ∧
      ∃ walks finished, Reported host.cwd s walks finished) ?_ ?_
    · intro path source specifiers hs
      exact ⟨.start hs, [], [], .start host.cwd path source specifiers⟩
    · rintro s t ⟨hinv, walks, finished, hreported⟩ hst
      exact ⟨hinv.step hst, hreported.step hinv hst⟩
  exact hboth.2

/-- A step that records a target which is not being visited reports nothing. -/
theorem cycles_eq_of_not_visiting (hinv : Invariant host entry s) (hst : Step host s t) {i j : Nat}
    {specifier : String} (hnone : (s.registry.asset i).dependencies.get? specifier = none)
    (hsome : (t.registry.asset i).dependencies.get? specifier = some j)
    (hj : j ∉ visiting s.stack) : t.cycles = s.cycles := by
  cases hst with
  | leave => rfl
  | skip => rfl
  | descend => rfl
  | revisit k next rest specifier' target m hs hn hl hr hm =>
    rw [Registry.get?_link _ _ _ _ _ (hinv.stacked.index_lt hs)] at hsome
    split_ifs at hsome with hc
    · cases hsome
      rcases hinv.stacked.closedBy_cases host.cwd j with ⟨-, hcycles⟩ | ⟨before, below, hway, -⟩
      · rw [hcycles, List.append_nil]
      · have hmem : j ∈ (visiting s.stack).reverse := by
          rw [hway]
          exact List.mem_append_right before List.mem_cons_self
        exact absurd (List.mem_reverse.mp hmem) hj
    · rw [hnone] at hsome
      cases hsome

/-- The reported cycles are cycles of the graph, and without the edges that close them it has none.
So nothing is reported exactly where the graph has no cycle, and coming back to a module that is
not being visited reports nothing. -/
theorem cycles_exact (host : Host (Except ε)) (fuel : Nat) (entry : String) (d : Discovery)
    (h : discover host fuel entry = .ok (some d)) :
    (∃ walks : List (List Nat), d.cycles = walks.map (d.graph.cycleAlong host.cwd) ∧
      (∀ walk ∈ walks, IsCycle d.graph.Edge walk ∧ ∀ i ∈ walk, i < d.graph.assets.size) ∧
      ∀ i, ¬ Relation.TransGen (Unclosed d.graph.Edge walks) i i) ∧
    (d.cycles = [] ↔ ∀ i, ¬ Relation.TransGen d.graph.Edge i i) ∧
    ∀ s t i j specifier, Reached host entry s → step host s = .ok t →
      (s.registry.asset i).dependencies.get? specifier = none →
      (t.registry.asset i).dependencies.get? specifier = some j →
      j ∉ visiting s.stack → t.cycles = s.cycles := by
  obtain ⟨u, hreached, -, rfl⟩ := exists_reached_of_discover h
  obtain ⟨walks, finished, hreported⟩ := hreached.reported
  have hedge : (u.finish 0).graph.Edge = u.registry.Edge := u.registry.edge_eq 0
  have hacyclic (i : Nat) : ¬ Relation.TransGen (Unclosed u.registry.Edge walks) i i :=
    acyclic_of_forward hreported.forward i
  rw [hedge]
  refine ⟨⟨walks, hreported.cycles_eq, ?_, hacyclic⟩, ?_, ?_⟩
  · intro walk hwalk
    exact ⟨hreported.isCycle walk hwalk, hreported.lt_size walk hwalk⟩
  · constructor
    · intro hnil i hcycle
      have hwalks : walks = [] := List.map_eq_nil_iff.mp (hreported.cycles_eq.symm.trans hnil)
      have hall (j k : Nat) (hjk : u.registry.Edge j k) : Unclosed u.registry.Edge walks j k :=
        ⟨hjk, by simp [hwalks]⟩
      exact hacyclic i (Relation.TransGen.mono hall i i hcycle)
    · intro hnone
      by_contra hne
      obtain ⟨walk, hwalk⟩ : ∃ walk, walk ∈ walks := by
        apply List.exists_mem_of_ne_nil
        intro hnil
        apply hne
        rw [State.finish, hreported.cycles_eq, hnil]
        rfl
      obtain ⟨i, hi⟩ := (hreported.isCycle walk hwalk).transGen
      exact hnone i hi
  · intro s t i j specifier hs hstep hnone hsome hj
    by_cases hstack : s.stack = []
    · rw [step, hstack] at hstep
      cases hstep
      rfl
    · exact cycles_eq_of_not_visiting hs.invariant (Step.of_step hstack hstep) hnone hsome hj

theorem cycles_exact_tangle :
    ∃ d, discover ((Resolver.mk ⟨"/p"⟩ [".js"]).host (FileStore.files tangle) Extract.lines) 20
        "a" = .ok (some d) ∧
      (d.cycles = [] ↔ ∀ i, ¬ Relation.TransGen d.graph.Edge i i) := by
  obtain ⟨d, hd⟩ := exists_eq_ok_some (x := discover ((Resolver.mk ⟨"/p"⟩ [".js"]).host
    (FileStore.files tangle) Extract.lines) 20 "a") (by decide +kernel)
  exact ⟨d, hd, (cycles_exact _ _ _ d hd).2.1⟩

example : ((discover ((Resolver.mk ⟨"/p"⟩ [".js"]).host (FileStore.files tangle) Extract.lines) 20
      "a").toOption.join.map (·.cycles)) =
    some [⟨["a.js", "b.js", "a.js"]⟩, ⟨["a.js", "a.js"]⟩] := by
  decide +kernel

end Discovery

end ModuleBundler
