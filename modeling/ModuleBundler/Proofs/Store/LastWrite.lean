import ModuleBundler.Proofs.Resolution
import ModuleBundler.Proofs.Store.Directories
import ModuleBundler.Proofs.Writing

namespace ModuleBundler.Memory

variable {m m' : Memory} {k : List Char} {ks : List (List Char)} {p : Path} {e : Entry}

/-- A call to a store: to write bytes under a path. -/
structure Call where
  path : Path
  bytes : ByteArray

/-- The store after calls one after another. -/
def applyAll (m : Memory) (calls : List Call) : Memory :=
  calls.foldl (fun m c => (m.write c.path c.bytes).2) m

/-- The store after calls one after another, the first of them to an empty one. -/
def replay (calls : List Call) : Memory := empty.applyAll calls

/-- Those of the calls that succeed, made one after another. -/
def succeeding (m : Memory) : List Call → List Call
  | [] => []
  | c :: calls =>
    match m.write c.path c.bytes with
    | (.ok (), m') => c :: m'.succeeding calls
    | (.error _, m') => m'.succeeding calls

section Keys

/-- The root is a directory, and every other key is a row of names with single slashes between them,
which is a key as well without its last name. -/
structure Treelike (m : Memory) : Prop where
  root : m.get? [] = some .directory
  no_backslash : ∀ k, (m.get? k).isSome = true → '\\' ∉ k
  no_double_slash : ∀ k, (m.get? k).isSome = true → ¬['/', '/'] <:+: k
  no_slash_at_end : ∀ k, (m.get? k).isSome = true → ¬['/'] <:+ k
  parent : ∀ k, (m.get? k).isSome = true → k ≠ [] →
    ∃ parent name, k = parent ++ '/' :: name ∧ '/' ∉ name ∧ (m.get? parent).isSome = true

/-- The root is a directory, and every key is that of a path. -/
structure Keyed (m : Memory) : Prop where
  root : m.get? [] = some .directory
  exists_path : ∀ k, (m.get? k).isSome = true → ∃ p, key p = k

theorem Grows.keyed (h : Grows ks m m') (hm : m.Keyed) (hks : ∀ k ∈ ks, ∃ p, key p = k) :
    m'.Keyed := by
  constructor
  · rcases h [] with heq | ⟨-, hnone, -⟩
    · exact heq.trans hm.root
    · rw [hm.root] at hnone
      cases hnone
  · intro k hk
    rcases h k with heq | ⟨hmem, -, -⟩
    · exact hm.exists_path k (heq ▸ hk)
    · exact hks k hmem

theorem exists_path_of_mem_above (h : k ∈ above p) : ∃ q, key q = k := by
  unfold above at h
  cases hparent : p.parent? with
  | none =>
    rw [hparent] at h
    cases h
  | some dir =>
    rw [hparent] at h
    obtain ⟨q, -, hq⟩ := List.mem_map.mp h
    exact ⟨q, hq⟩

namespace Keyed

theorem put (h : m.Keyed) (hne : key p ≠ []) (e : Entry) : (m.put (key p) e).Keyed := by
  constructor
  · rw [get?_put, if_neg hne.symm]
    exact h.root
  · intro k hk
    rw [get?_put] at hk
    split_ifs at hk with hkey
    · exact ⟨p, hkey.symm⟩
    · exact h.exists_path k hk

theorem write (h : m.Keyed) (p : Path) (bytes : ByteArray) : (m.write p bytes).2.Keyed := by
  have hmade := (m.grows_createMissing (above p)).keyed h fun _ => exists_path_of_mem_above
  have hwrites := m.writes_write p bytes
  generalize m.write p bytes = result at hwrites
  cases hwrites with
  | refused e => exact hmade
  | written made parent heq hkey hparent =>
    rw [heq] at hmade
    refine hmade.put ?_ (.file bytes)
    intro hnil
    rw [hnil] at hkey
    cases hkey

end Keyed

theorem Reachable.keyed (h : Reachable m) : m.Keyed := by
  induction h with
  | empty =>
    refine ⟨rfl, fun k hk => ⟨⟨""⟩, ?_⟩⟩
    rw [get?, Memory.empty, List.lookup_cons] at hk
    split at hk
    · rename_i hnil
      exact (beq_iff_eq.mp hnil).symm
    · cases hk
  | write _ p bytes ih => exact ih.write p bytes

theorem Reachable.treelike (h : Reachable m) : m.Treelike := by
  have hkeyed := h.keyed
  have hrooted := h.rooted
  have no_slash_at_end (k : List Char) (hk : (m.get? k).isSome = true) : ¬['/'] <:+ k := by
    obtain ⟨p, rfl⟩ := hkeyed.exists_path k hk
    exact not_slash_suffix_key p
  refine ⟨hkeyed.root, ?_, ?_, no_slash_at_end, ?_⟩
  · intro k hk
    obtain ⟨p, rfl⟩ := hkeyed.exists_path k hk
    exact backslash_not_mem_key p
  · -- of two slashes in a row, the first would stand at the end of a key above
    rintro k hk ⟨u, v, rfl⟩
    obtain ⟨parent, hkey, hparent⟩ := hrooted.parent _ hk (by simp)
    have hfirst : u ++ ['/', '/'] ++ v = (u ++ ['/']) ++ '/' :: v := by simp
    rw [hfirst] at hkey
    exact no_slash_at_end _ (hrooted.isSome_of_parent hkey hparent) (List.suffix_append u ['/'])
  · intro k hk hne
    obtain ⟨parent, hkey, hparent⟩ := hrooted.parent k hk hne
    obtain ⟨name, hname, hslash⟩ := exists_name_of_parentKey? hkey
    exact ⟨parent, name, hname, hslash, hparent⟩

end Keys

section Calls

theorem applyAll_cons (m : Memory) (c : Call) (calls : List Call) :
    m.applyAll (c :: calls) = (m.write c.path c.bytes).2.applyAll calls := rfl

theorem Reachable.applyAll (h : Reachable m) (calls : List Call) :
    Reachable (m.applyAll calls) := by
  induction calls generalizing m with
  | nil => exact h
  | cons c calls ih => exact ih (h.write c.path c.bytes)

/-- Under every key stands what the last of the calls that succeeded there has put, and what was
there before if there was none. -/
theorem bytes?_applyAll (m : Memory) (calls : List Call) (p : Path) :
    (m.applyAll calls).bytes? p =
      (((m.succeeding calls).filter (key ·.path = key p)).getLast?.map (·.bytes)).or
        (m.bytes? p) := by
  induction calls generalizing m with
  | nil => rfl
  | cons c calls ih =>
    rcases hwrite : m.write c.path c.bytes with ⟨⟨e⟩ | ⟨⟨⟩⟩, m'⟩
    · have hsucceeding : m.succeeding (c :: calls) = m'.succeeding calls := by
        rw [succeeding, hwrite]
      rw [applyAll_cons, hwrite, ih, hsucceeding, (grows_of_refused hwrite).bytes?_eq]
    · have hsucceeding : m.succeeding (c :: calls) = c :: m'.succeeding calls := by
        rw [succeeding, hwrite]
      rw [applyAll_cons, hwrite, ih, hsucceeding, bytes?_write hwrite]
      by_cases hkey : key c.path = key p
      · rw [if_pos hkey.symm, List.filter_cons_of_pos (by simpa using hkey), List.getLast?_cons]
        cases ((m'.succeeding calls).filter (key ·.path = key p)).getLast? <;> rfl
      · rw [if_neg (Ne.symm hkey), List.filter_cons_of_neg (by simpa using hkey)]

theorem bytes?_replay (calls : List Call) (p : Path) : (replay calls).bytes? p =
    ((empty.succeeding calls).filter (key ·.path = key p)).getLast?.map (·.bytes) := by
  have hempty : empty.bytes? p = none := by
    unfold bytes? get? Memory.empty
    rw [List.lookup_cons]
    cases key p <;> rfl
  rw [replay, bytes?_applyAll, hempty, Option.or_none]

theorem isFile_replay (calls : List Call) (p : Path) : (replay calls).isFile p = true ↔
    ∃ c ∈ empty.succeeding calls, key c.path = key p := by
  rw [isFile_eq_isSome, bytes?_replay, Option.isSome_map, List.getLast?_isSome, Ne,
    List.filter_eq_nil_iff]
  simp

end Calls

/-- What discovery finds is a file, so it fails to read only what is not a text. -/
theorem notText_of_scan {b : Bundler} {fuel : Nat} {cause : FileError}
    (h : b.scan fuel m = .error (.unreadable p cause)) :
    cause = .notText ∧ m.read p = .error .notText := by
  cases Discovery.fault_of_discover h with
  | unreadable hp hread =>
    have hread : m.read p = .error cause := hread
    rcases isFile_iff_read.mp hp.isFile with ⟨text, htext⟩ | hnot
    · rw [hread] at htext
      cases htext
    · rw [hread] at hnot
      cases hnot
      exact ⟨rfl, hread⟩

/-- After any writes, the keys are those of a tree below the root. A path has the bytes of the last
write to its key that succeeded, and is a file exactly if there was one. A file can be read, unless
its bytes are not UTF-8, and that is all for which a discovery can fail to read one. -/
theorem replay_last_write (calls : List Call) :
    (replay calls).Treelike ∧
    (∀ p, (replay calls).bytes? p =
      ((empty.succeeding calls).filter (key ·.path = key p)).getLast?.map (·.bytes)) ∧
    (∀ p, (replay calls).isFile p = true ↔
      ∃ c ∈ empty.succeeding calls, key c.path = key p) ∧
    (∀ p, (replay calls).isFile p = true ↔
      (∃ text, (replay calls).read p = .ok text) ∨ (replay calls).read p = .error .notText) ∧
    (∀ p, (replay calls).read p = .error .notText ↔
      ∃ bytes, (replay calls).bytes? p = some bytes ∧ ¬bytes.IsValidUTF8) ∧
    ∀ (b : Bundler) (fuel : Nat) (p : Path) (cause : FileError),
      b.scan fuel (replay calls) = .error (.unreadable p cause) →
        cause = .notText ∧ ∃ bytes, (replay calls).bytes? p = some bytes ∧ ¬bytes.IsValidUTF8 := by
  refine ⟨(Reachable.empty.applyAll calls).treelike, bytes?_replay calls, isFile_replay calls,
    fun p => isFile_iff_read, fun p => read_eq_notText, ?_⟩
  intro b fuel p cause h
  obtain ⟨hcause, hread⟩ := notText_of_scan h
  exact ⟨hcause, read_eq_notText.mp hread⟩

/-- Writes that put a file in place of a directory, go on below it, use another spelling of a key,
and are refused after a directory was made; the entry is no text. -/
def tumult : List Call :=
  [⟨⟨"/p/dist/a.js"⟩, "old".toUTF8⟩, ⟨⟨"/p/dist"⟩, "file".toUTF8⟩, ⟨⟨"/p/dist/b/c.js"⟩, "".toUTF8⟩,
    ⟨⟨"/q/./a.js"⟩, "refused".toUTF8⟩, ⟨⟨"\\p\\dist\\a.js/"⟩, "new".toUTF8⟩,
    ⟨⟨"/p/a.js"⟩, ⟨#[0xff, 0xfe]⟩⟩]

theorem replay_last_write_tumult :
    ((replay tumult).get? "/q".toList).isSome = true ∧
    (∃ parent name, "/p/dist/b".toList = parent ++ '/' :: name ∧ '/' ∉ name ∧
      ((replay tumult).get? parent).isSome = true) ∧
    (replay tumult).bytes? ⟨"/p/dist/a.js"⟩ = some "new".toUTF8 ∧
    (Bundler.into "dist" none).scan 20 (replay tumult) =
      .error (.unreadable ⟨"/p/a.js"⟩ .notText) ∧
    ∃ bytes, (replay tumult).bytes? ⟨"/p/a.js"⟩ = some bytes ∧ ¬bytes.IsValidUTF8 := by
  obtain ⟨htree, hbytes, -, -, -, hread⟩ := replay_last_write tumult
  have hscan : (Bundler.into "dist" none).scan 20 (replay tumult) =
      .error (.unreadable ⟨"/p/a.js"⟩ .notText) := by rfl
  refine ⟨by decide +kernel, htree.parent _ (by decide +kernel) (by decide), ?_, hscan,
    (hread _ _ _ _ hscan).2⟩
  rw [hbytes]
  decide +kernel

end ModuleBundler.Memory
