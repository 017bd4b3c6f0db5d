import Mathlib.Data.List.Chain
import Mathlib.Data.List.Nodup
import Mathlib.Logic.Relation

namespace ModuleBundler

/-- A walk that comes back to where it starts and passes no place twice before. -/
structure IsCycle (edge : Nat → Nat → Prop) (walk : List Nat) : Prop where
  two_le : 2 ≤ walk.length
  closed : walk.head? = walk.getLast?
  distinct : walk.dropLast.Nodup
  edges : walk.IsChain edge

/-- An edge that is not the last of any of the walks. -/
def Unclosed (edge : Nat → Nat → Prop) (walks : List (List Nat)) (i j : Nat) : Prop :=
  edge i j ∧ ∀ walk ∈ walks, ¬ [i, j] <:+ walk

theorem IsCycle.mono {edge edge' : Nat → Nat → Prop} {walk : List Nat} (h : IsCycle edge walk)
    (he : ∀ i j, edge i j → edge' i j) : IsCycle edge' walk :=
  ⟨h.two_le, h.closed, h.distinct, h.edges.imp he⟩

theorem IsCycle.transGen {edge : Nat → Nat → Prop} {walk : List Nat} (h : IsCycle edge walk) :
    ∃ i, Relation.TransGen edge i i := by
  obtain ⟨hlength, hclosed, -, hedges⟩ := h
  match walk, hlength with
  | i :: j :: rest, _ =>
    obtain ⟨hij, hrest⟩ := List.isChain_cons_cons.mp hedges
    have hlast : (j :: rest).getLast (List.cons_ne_nil j rest) = i := by
      have hsome : (j :: rest).getLast? = some i := by
        rw [List.head?_cons, List.getLast?_cons_cons] at hclosed
        exact hclosed.symm
      rw [List.getLast?_eq_some_getLast (List.cons_ne_nil j rest)] at hsome
      exact Option.some.inj hsome
    refine ⟨i, ?_⟩
    apply Relation.TransGen.head' hij
    exact List.relationReflTransGen_of_exists_isChain_cons rest hrest hlast

/-- A way followed by an edge from its end back into it makes a cycle, closed by that edge. -/
theorem isCycle_of_way {edge : Nat → Nat → Prop} {before below : List Nat} {i j : Nat}
    (hchain : (before ++ j :: below).IsChain edge) (hnodup : (before ++ j :: below).Nodup)
    (hlast : (before ++ j :: below).getLast? = some i) (hij : edge i j) :
    IsCycle edge (j :: below ++ [j]) ∧ [i, j] <:+ j :: below ++ [j] := by
  have hchain' : (j :: below).IsChain edge := hchain.suffix (List.suffix_append before _)
  rw [List.getLast?_append_of_ne_nil _ (List.cons_ne_nil j below)] at hlast
  refine ⟨⟨by simp, ?_, ?_, ?_⟩, ?_⟩
  · rw [List.getLast?_concat]
    rfl
  · rw [List.dropLast_concat]
    exact (List.nodup_append.mp hnodup).2.1
  · rw [List.isChain_append]
    refine ⟨hchain', List.isChain_singleton j, ?_⟩
    intro k hk m hm
    rw [hlast] at hk
    cases hk
    cases hm
    exact hij
  · obtain ⟨init, hinit⟩ := List.getLast?_eq_some_iff.mp hlast
    rw [hinit, List.append_assoc]
    exact List.suffix_append init [i, j]

/-- Where every edge leads forward in a line, no walk comes back. -/
theorem acyclic_of_forward {edge : Nat → Nat → Prop} {line : List Nat}
    (h : ∀ i j, edge i j → line.idxOf i < line.idxOf j) (i : Nat) :
    ¬ Relation.TransGen edge i i := by
  have forward (j k : Nat) (hjk : Relation.TransGen edge j k) : line.idxOf j < line.idxOf k := by
    induction hjk with
    | single hedge => exact h _ _ hedge
    | tail _ hedge ih => exact ih.trans (h _ _ hedge)
  intro hcycle
  -- a walk back would lead before its own start
  exact Nat.lt_irrefl _ (forward i i hcycle)

/-- One more place in a line turns no edge around. -/
theorem idxOf_lt_insert {left right : List Nat} {i j n : Nat} (hi : i ≠ n) (hj : j ≠ n)
    (h : (left ++ right).idxOf i < (left ++ right).idxOf j) :
    (left ++ n :: right).idxOf i < (left ++ n :: right).idxOf j := by
  have hcons (k : Nat) (hk : k ≠ n) : (n :: right).idxOf k = right.idxOf k + 1 :=
    List.idxOf_cons_ne right (Ne.symm hk)
  rw [List.idxOf_append, List.idxOf_append] at h ⊢
  rw [hcons i hi, hcons j hj]
  by_cases hil : i ∈ left
  · by_cases hjl : j ∈ left
    · rw [if_pos hil, if_pos hjl] at h ⊢
      exact h
    · rw [if_pos hil, if_neg hjl] at h ⊢
      omega
  · by_cases hjl : j ∈ left
    · have hlt := List.idxOf_lt_length_of_mem hjl
      rw [if_neg hil, if_pos hjl] at h
      omega
    · rw [if_neg hil, if_neg hjl] at h ⊢
      omega

end ModuleBundler
