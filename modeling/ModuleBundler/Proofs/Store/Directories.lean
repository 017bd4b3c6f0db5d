import ModuleBundler.Proofs.Path.Place
import ModuleBundler.Proofs.Store.Key
import ModuleBundler.Proofs.Store.Write

namespace ModuleBundler.Memory

open ModuleBundler.Path (IsStep isIdle place)
open Text (split dropWhileEnd)

variable {m m' : Memory} {k u v w parent : List Char} {ks ws : List (List Char)} {p q : Path}
  {bytes : ByteArray}

/-- A store that came about by writes, refused ones among them. -/
inductive Reachable : Memory → Prop where
  | empty : Reachable empty
  | write {m : Memory} (h : Reachable m) (p : Path) (bytes : ByteArray) :
      Reachable (m.write p bytes).2

section Parent

theorem parentKey?_append (k : List Char) (hw : '/' ∉ w) : parentKey? (k ++ '/' :: w) = some k := by
  have hname : ∀ c ∈ w.reverse, decide (c ≠ '/') = true := by
    intro c hc
    rw [decide_eq_true_eq]
    rintro rfl
    exact hw (List.mem_reverse.mp hc)
  unfold parentKey?
  rw [List.reverse_append, List.reverse_cons, List.append_assoc,
    List.dropWhile_append_of_pos hname]
  simp

/-- What comes last in a key does not matter for what stands before its last `/`. -/
theorem parentKey?_concat (k : List Char) {c : Char} (hc : c ≠ '/') :
    parentKey? (k ++ [c]) = parentKey? k := by
  unfold parentKey?
  rw [List.reverse_append, List.reverse_singleton, List.singleton_append,
    List.dropWhile_cons_of_pos (by simpa using hc)]

/-- What stands before the last `/` of a key is followed by a name. -/
theorem exists_name_of_parentKey? (h : parentKey? k = some parent) :
    ∃ name, k = parent ++ '/' :: name ∧ '/' ∉ name := by
  have hsplit := List.takeWhile_append_dropWhile (p := (· ≠ '/')) (l := k.reverse)
  have hhead := List.head?_dropWhile_not (· ≠ '/') k.reverse
  unfold parentKey? at h
  cases hrest : k.reverse.dropWhile (· ≠ '/') with
  | nil =>
    rw [hrest] at h
    cases h
  | cons c before =>
    rw [hrest] at h hsplit hhead
    cases h
    obtain rfl : c = '/' := by simpa using hhead
    refine ⟨(k.reverse.takeWhile (· ≠ '/')).reverse, ?_, ?_⟩
    · have hreversed := congrArg List.reverse hsplit
      rw [List.reverse_reverse, List.reverse_append, List.reverse_cons, List.append_assoc]
        at hreversed
      exact hreversed.symm
    · intro hmem
      simpa using List.mem_takeWhile_imp (List.mem_reverse.mp hmem)

/-- There is a root, and whatever is stored is stored in something. -/
structure Rooted (m : Memory) : Prop where
  root : (m.get? []).isSome = true
  parent : ∀ k, (m.get? k).isSome = true → k ≠ [] →
    ∃ parent, parentKey? k = some parent ∧ (m.get? parent).isSome = true

namespace Rooted

theorem put (h : m.Rooted) (hkey : parentKey? k = some parent)
    (hparent : (m.get? parent).isSome = true) (e : Entry) : (m.put k e).Rooted := by
  refine ⟨isSome_get?_put k e h.root, fun k' hk' hne => ?_⟩
  rw [get?_put] at hk'
  split_ifs at hk' with heq
  · subst heq
    exact ⟨parent, hkey, isSome_get?_put k' e hparent⟩
  · obtain ⟨parent', hkey', hparent'⟩ := h.parent k' hk' hne
    exact ⟨parent', hkey', isSome_get?_put k e hparent'⟩

theorem createMissing (h : m.Rooted) (ks : List (List Char)) : (m.createMissing ks).2.Rooted := by
  induction ks generalizing m with
  | nil => exact h
  | cons k ks ih =>
    rcases m.createMissing_cons_cases k with ⟨made, hmakes, heq⟩ | ⟨e, -, -, heq⟩
    · rw [heq]
      cases hmakes with
      | held => exact ih h
      | created parent hnone hkey hparent => exact ih (h.put hkey hparent .directory)
    · rw [heq]
      exact h

theorem write (h : m.Rooted) (p : Path) (bytes : ByteArray) : (m.write p bytes).2.Rooted := by
  have hwrites := m.writes_write p bytes
  have hmade := h.createMissing (above p)
  generalize m.write p bytes = result at hwrites
  cases hwrites with
  | refused e => exact hmade
  | written made parent heq hkey hparent =>
    rw [heq] at hmade
    exact hmade.put hkey hparent (.file bytes)

/-- All directories above a key are there if the next one is. -/
theorem isSome_of_parent (h : m.Rooted) (hkey : parentKey? (u ++ '/' :: v) = some parent)
    (hparent : (m.get? parent).isSome = true) : (m.get? u).isSome = true := by
  -- from the end: at each `/`, the directory before it is there because the one below it is
  induction v using List.reverseRecOn generalizing parent with
  | nil =>
    rw [parentKey?_append u List.not_mem_nil] at hkey
    cases hkey
    exact hparent
  | append_singleton v c ih =>
    rw [← List.cons_append, ← List.append_assoc] at hkey
    by_cases hc : c = '/'
    · subst hc
      rw [parentKey?_append _ List.not_mem_nil] at hkey
      cases hkey
      obtain ⟨parent, hkey, hparent⟩ := h.parent _ hparent (by simp)
      exact ih hkey hparent
    · rw [parentKey?_concat _ hc] at hkey
      exact ih hkey hparent

end Rooted

theorem Reachable.rooted (h : Reachable m) : m.Rooted := by
  induction h with
  | empty =>
    refine ⟨rfl, fun k hk hne => ?_⟩
    rw [get?, Memory.empty, List.lookup_cons, beq_eq_false_iff_ne.mpr hne] at hk
    cases hk
  | write _ p bytes ih => exact ih.write p bytes

end Parent

section Key

theorem key_place (hws : ws ≠ []) (h : ∀ w ∈ ws, IsStep w) (hback : ∀ w ∈ ws, '\\' ∉ w) :
    key (place ws) = (place ws).chars := by
  refine key_eq_chars ?_ (Path.endsInSlash_place hws h)
  intro hc
  rw [Path.chars_place] at hc
  rcases List.mem_cons.mp hc with hc | hc
  · cases hc
  · rcases Text.mem_join hc with hc | ⟨w, hw, hc⟩
    · cases hc
    · exact hback w hw hc

/-- The key of a place is the key of the place above it and one more name. -/
theorem key_place_concat (h : ∀ v ∈ ws ++ [w], IsStep v) (hback : ∀ v ∈ ws ++ [w], '\\' ∉ v) :
    key (place (ws ++ [w])) = key (place ws) ++ '/' :: w := by
  rw [key_place (by simp) h hback, Path.chars_place, Text.join_concat]
  by_cases hws : ws = []
  · subst hws
    rfl
  · rw [if_neg hws, key_place hws (fun v hv => h v (List.mem_append_left _ hv))
      (fun v hv => hback v (List.mem_append_left _ hv)), Path.chars_place]
    simp

/-- A path without backslashes, and without empty or dot pieces before its last separators. -/
structure Direct (p : Path) : Prop where
  no_backslash : '\\' ∉ p.chars
  no_idle : ∀ w ∈ (split '/' (key p)).tail, isIdle w = false

instance (p : Path) : Decidable (Direct p) :=
  decidable_of_iff ('\\' ∉ p.chars ∧ ∀ w ∈ (split '/' (key p)).tail, isIdle w = false)
    ⟨fun ⟨hback, hidle⟩ => ⟨hback, hidle⟩, fun ⟨hback, hidle⟩ => ⟨hback, hidle⟩⟩

/-- A direct path to an ordinary name leads there step by step, and its key does so too. -/
theorem Direct.exists_spine (h : Direct p) (habsolute : p.isAbsolute = true)
    (hname : p.fileName?.isSome = true) :
    ∃ ws w, p.spine = ([], ws ++ [w]) ∧ key p = key (place ws) ++ '/' :: w ∧
      ∀ v ∈ ws ++ [w], IsStep v ∧ '\\' ∉ v := by
  obtain ⟨hback, hinside⟩ := h
  obtain ⟨n, hchars⟩ := exists_chars_eq_key_append hback
  have hpieces : p.pieces = split '/' (key p) ++ List.replicate n [] := by
    rw [Path.pieces, hchars, Text.split_append_replicate]
  cases hkey : key p with
  | nil =>
    have hspine : p.spine = ([], []) := by
      rw [Path.spine, hpieces, hkey]
      exact congrArg _ (Path.dropWhileEnd_append_replicate [] n)
    rw [Path.fileName?, hspine] at hname
    cases hname
  | cons c cs =>
    obtain rfl : c = '/' := by
      rw [Path.isAbsolute, hchars, hkey] at habsolute
      simpa using habsolute
    rw [hkey, split, if_pos rfl] at hinside hpieces
    have hall : ∀ v ∈ split '/' cs, IsStep v ∧ '\\' ∉ v := by
      intro v hv
      refine ⟨⟨hinside v hv, Text.not_mem_of_mem_split hv⟩, fun hcv => hback ?_⟩
      have hmem := (Text.sublist_of_mem_split hv).subset hcv
      rw [hchars, hkey]
      exact List.mem_append_left _ (List.mem_cons_of_mem _ hmem)
    have hsteps : ∀ v ∈ split '/' cs, IsStep v := fun v hv => (hall v hv).1
    have hspine : p.spine = ([], split '/' cs) := by
      rw [Path.spine, hpieces]
      refine congrArg _ ((Path.dropWhileEnd_append_replicate _ n).trans ?_)
      exact Path.dropWhileEnd_isIdle hsteps
    have hplace : '/' :: cs = key (place (split '/' cs)) := by
      rw [key_place (Text.split_ne_nil '/' cs) hsteps fun v hv => (hall v hv).2, Path.chars_place,
        Text.join_split]
    rw [hplace]
    obtain ⟨ws, w, hws⟩ := (List.eq_nil_or_concat' _).resolve_left (Text.split_ne_nil '/' cs)
    rw [hws] at hspine hall ⊢
    exact ⟨ws, w, hspine, key_place_concat (fun v hv => (hall v hv).1) fun v hv => (hall v hv).2,
      hall⟩

end Key

section Above

/-- A key is that of a path or of a directory above it. -/
def Over (u k : List Char) : Prop := u = k ∨ ∃ v, k = u ++ '/' :: v

theorem Over.trans (h : Over u v) (h' : Over v k) : Over u k := by
  rcases h with rfl | ⟨v', rfl⟩
  · exact h'
  · rcases h' with rfl | ⟨k', rfl⟩
    · exact .inr ⟨v', rfl⟩
    · exact .inr ⟨v' ++ '/' :: k', by simp⟩

/-- The key of what stands before a slash. -/
theorem over_key_append (before after : List Char) :
    Over (key (.ofChars before)) (key (.ofChars (before ++ '/' :: after))) := by
  unfold key
  rw [Path.chars_ofChars, Path.chars_ofChars, List.map_append, List.map_cons, if_neg (by decide)]
  generalize before.map _ = before
  generalize after.map _ = after
  obtain ⟨slashes, hbefore, hslashes⟩ := Text.exists_dropWhileEnd_append (· = '/') before
  by_cases hall : ∀ c ∈ '/' :: after, decide (c = '/') = true
  · left
    rw [Text.dropWhileEnd_append _ _ _ hall]
  · -- slashes at the end of what stands before are between the two keys
    right
    have hname : ∃ c ∈ after, decide (c = '/') = false := by simpa using hall
    obtain ⟨c, hc, hname⟩ := hname
    have hkept : dropWhileEnd (· = '/') (before ++ '/' :: after) =
        before ++ '/' :: dropWhileEnd (· = '/') after := by
      rw [List.append_cons, Text.dropWhileEnd_append_of_mem _ hc hname, ← List.append_cons]
    rw [hkept]
    nth_rewrite 1 [hbefore]
    cases slashes with
    | nil => exact ⟨dropWhileEnd (· = '/') after, by simp⟩
    | cons c' cs =>
      obtain rfl : c' = '/' := of_decide_eq_true (hslashes c' List.mem_cons_self)
      exact ⟨cs ++ '/' :: dropWhileEnd (· = '/') after, by simp⟩

/-- The key of a parent is that of a directory above. -/
theorem over_of_parent (habsolute : p.isAbsolute = true) (hq : p.parent? = some q) :
    q.isAbsolute = true ∧ Over (key q) (key p) := by
  obtain ⟨before, after, hp, hbefore⟩ := Path.exists_chars_of_parent habsolute hq
  have hover := over_key_append before after
  rw [← hp, Path.ofChars_chars] at hover
  rcases hbefore with ⟨hbefore, hq⟩ | ⟨rfl, rfl⟩
  · rw [← hbefore, Path.ofChars_chars] at hover
    exact ⟨hq, hover⟩
  · exact ⟨rfl, hover⟩

theorem over_of_mem_above (habsolute : p.isAbsolute = true) (hk : k ∈ above p) :
    Over k (key p) := by
  unfold above at hk
  cases hq : p.parent? with
  | none =>
    rw [hq] at hk
    cases hk
  | some q =>
    rw [hq] at hk
    obtain ⟨dir, hdir, rfl⟩ := List.mem_map.mp hk
    -- every ancestor is absolute, so the next one is above it
    have hall : ∀ dir ∈ q.ancestors, dir.isAbsolute = true ∧ Over (key dir) (key p) := by
      refine Path.forall_mem_ancestors (over_of_parent habsolute hq) ?_
      rintro q r ⟨hq, hover⟩ hr
      obtain ⟨hr, hover'⟩ := over_of_parent hq hr
      exact ⟨hr, hover'.trans hover⟩
    exact (hall dir (List.mem_reverse.mp hdir)).2

/-- Where the directory that its key asks for is there, a file can be written to any absolute path,
however it is spelled. -/
theorem Rooted.write_eq_ok (h : m.Rooted) (habsolute : p.isAbsolute = true)
    (hkey : parentKey? (key p) = some parent) (hparent : (m.get? parent).isSome = true)
    (bytes : ByteArray) : ∃ m', m.write p bytes = (.ok (), m') := by
  obtain ⟨made, hmade⟩ : ∃ made, m.createMissing (above p) = (.ok (), made) := by
    refine exists_createMissing fun k hk => ?_
    rcases over_of_mem_above habsolute hk with rfl | ⟨v, hv⟩
    · exact .inr ⟨parent, hkey, hparent⟩
    · rw [hv] at hkey
      exact .inl (.inr (h.isSome_of_parent hkey hparent))
  have hgrows := m.grows_createMissing (above p)
  rw [hmade] at hgrows
  exact ⟨_, write_of_createMissing hmade hkey (hgrows.isSome hparent) bytes⟩

end Above

section Directories

/-- Where the root holds something, the directories down to a place can be created. -/
theorem createMissing_place (hroot : (m.get? []).isSome = true) (h : ∀ w ∈ ws, IsStep w)
    (hback : ∀ w ∈ ws, '\\' ∉ w) :
    ∃ m', m.createMissing ((place ws).ancestors.reverse.map key) = (.ok (), m') ∧
      (m'.get? (key (place ws))).isSome = true := by
  -- each ancestor in turn: its key goes one name below the key created just before it
  induction ws using List.reverseRecOn with
  | nil => exact ⟨m, createMissing_of_held_cons (.inl rfl) [], hroot⟩
  | append_singleton ws w ih =>
    obtain ⟨made, hmade, hparent⟩ := ih (fun v hv => h v (List.mem_append_left _ hv))
      (fun v hv => hback v (List.mem_append_left _ hv))
    have hkey := key_place_concat h hback
    have hparentKey : parentKey? (key (place (ws ++ [w]))) = some (key (place ws)) := by
      rw [hkey, parentKey?_append _ (h w (by simp)).no_slash]
    have hne : key (place (ws ++ [w])) ≠ [] := by simp [hkey]
    rw [Path.ancestors_place_concat h, List.reverse_cons, List.map_append,
      createMissing_append hmade, List.map_singleton]
    obtain ⟨m', hm'⟩ : ∃ m', made.createMissing [key (place (ws ++ [w]))] = (.ok (), m') := by
      refine exists_createMissing fun k hk => .inr ⟨_, ?_, hparent⟩
      rw [List.mem_singleton.mp hk, hparentKey]
    exact ⟨m', hm', (held_of_createMissing hm' _ List.mem_cons_self).resolve_left hne⟩

theorem above_of_spine (hspine : p.spine = ([], ws ++ [w])) (h : ∀ v ∈ ws ++ [w], IsStep v) :
    above p = (place ws).ancestors.reverse.map key := by
  rw [above, Path.parent?_of_spine hspine (by simp) h, List.dropLast_concat]

/-- Where the root holds something, a file can be written to any direct path to a name: directories
are created under the keys of its ancestors, and for such a path the key asks for one of these. -/
theorem Direct.write_eq_ok (h : Direct p) (hroot : (m.get? []).isSome = true)
    (habsolute : p.isAbsolute = true) (hname : p.fileName?.isSome = true) (bytes : ByteArray) :
    ∃ m', m.write p bytes = (.ok (), m') := by
  obtain ⟨ws, w, hspine, hkey, hall⟩ := h.exists_spine habsolute hname
  obtain ⟨made, hmade, hparent⟩ := createMissing_place hroot
    (fun v hv => (hall v (List.mem_append_left _ hv)).1)
    (fun v hv => (hall v (List.mem_append_left _ hv)).2)
  refine ⟨_, write_of_createMissing ?_ ?_ hparent bytes⟩
  · rw [above_of_spine hspine fun v hv => (hall v hv).1]
    exact hmade
  · rw [hkey, parentKey?_append _ (hall w (by simp)).1.no_slash]

end Directories

end ModuleBundler.Memory
