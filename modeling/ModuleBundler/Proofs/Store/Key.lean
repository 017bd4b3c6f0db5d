import Mathlib.Data.Fintype.EquivFin
import Mathlib.Data.Set.Finite.List
import ModuleBundler.Proofs.Path.Steps
import ModuleBundler.Store.Memory

namespace ModuleBundler

instance finite_char : Finite Char := by
  have hlt (c : Char) : c.toNat < 0x110000 := by
    rcases c.valid with h | h
    · exact Nat.lt_trans h (by decide)
    · exact h.2
  refine Finite.of_injective (fun c : Char => (⟨c.toNat, hlt c⟩ : Fin 0x110000)) ?_
  intro c d h
  exact Char.toNat_inj.mp (Fin.mk.inj h)

/-- Paths of bounded length are finitely many. -/
theorem Path.finite_length_le (n : Nat) : {p : Path | p.chars.length ≤ n}.Finite := by
  refine ((List.finite_length_le Char n).image Path.ofChars).subset ?_
  intro p hp
  exact ⟨p.chars, hp, Path.ofChars_chars p⟩

namespace Memory

open Text (dropWhileEnd)

variable {m : Memory} {p : Path} {w : List Char}

/-- What a key spells `/`. -/
def isSeparator (c : Char) : Bool := c = '/' || c = '\\'

/-- The number of separators at the end of a text. -/
def slack (cs : List Char) : Nat := (cs.reverse.takeWhile isSeparator).length

theorem slack_le_length (cs : List Char) : slack cs ≤ cs.length :=
  (List.takeWhile_sublist isSeparator).length_le.trans_eq List.length_reverse

theorem slack_le_of_mem_split {sep : Char} {cs : List Char} (h : w ∈ Text.split sep cs) :
    slack w ≤ cs.length :=
  (slack_le_length w).trans (Text.sublist_of_mem_split h).length_le

/-- A path is as long as its key and the separators at its end. -/
theorem length_key (p : Path) : (key p).length + slack p.chars = p.chars.length := by
  have hfold : (fun c => decide (c = '/')) ∘ (fun c => if c = '\\' then '/' else c) =
      isSeparator := by
    funext c
    by_cases hc : c = '\\' <;> simp [isSeparator, hc]
  rw [key, dropWhileEnd, List.length_reverse, ← List.map_reverse, List.dropWhile_map, hfold,
    List.length_map, slack, Nat.add_comm, ← List.length_append, List.takeWhile_append_dropWhile,
    List.length_reverse]

/-- Of a text that ends in another with a name in it, only the other counts. -/
theorem slack_append (as : List Char) (h : ∃ c ∈ w, isSeparator c = false) :
    slack (as ++ w) = slack w := by
  obtain ⟨c, hc, hname⟩ := h
  have hne : (w.reverse.takeWhile isSeparator).length ≠ w.reverse.length := by
    intro hall
    have hself := (List.takeWhile_prefix isSeparator).eq_of_length hall
    have htrue := List.all_eq_true.mp (List.all_takeWhile (p := isSeparator) (l := w.reverse)) c
      (hself.symm ▸ List.mem_reverse.mpr hc)
    rw [hname] at htrue
    cases htrue
  rw [slack, List.reverse_append, List.takeWhile_append, if_neg hne, slack]

theorem exists_entry_of_isFile (h : isFile m p = true) : ∃ e ∈ m.entries, e.1 = key p := by
  unfold isFile at h
  split at h
  · rename_i bytes hget
    obtain ⟨before, behind, hentries, -⟩ := List.lookup_eq_some_iff.mp hget
    exact ⟨(key p, .file bytes), by simp [hentries], rfl⟩
  · cases h

/-- A store has finitely many files, and each has finitely many paths with so few separators at
their ends. -/
theorem finite_paths (m : Memory) (n : Nat) :
    {p | isFile m p = true ∧ slack p.chars ≤ n}.Finite := by
  have hkeys : {e | e ∈ m.entries}.Finite := m.entries.finite_toSet
  refine (hkeys.biUnion fun e _ => Path.finite_length_le (e.1.length + n)).subset ?_
  rintro p ⟨hfile, hslack⟩
  obtain ⟨e, he, hkey⟩ := exists_entry_of_isFile hfile
  have hlength := length_key p
  rw [← hkey] at hlength
  refine Set.mem_biUnion he ?_
  change p.chars.length ≤ e.1.length + n
  omega

/-- The texts of a store are finitely many. -/
theorem finite_sources (m : Memory) : {source | ∃ p, read m p = .ok source}.Finite := by
  have hentries : {e | e ∈ m.entries}.Finite := m.entries.finite_toSet
  have hone (e : List Char × Entry) :
      {source | ∃ bytes, e.2 = .file bytes ∧ decodeText bytes = .ok source}.Subsingleton := by
    rintro s ⟨bytes, he, hs⟩ t ⟨bytes', he', ht⟩
    rw [he] at he'
    cases he'
    rw [hs] at ht
    cases ht
    rfl
  refine (hentries.biUnion fun e _ => (hone e).finite).subset ?_
  rintro source ⟨p, hread⟩
  unfold read at hread
  split at hread
  · cases hread
  · cases hread
  · rename_i bytes hget
    obtain ⟨before, behind, hm, -⟩ := List.lookup_eq_some_iff.mp hget
    exact Set.mem_biUnion (x := (key p, .file bytes)) (by simp [hm]) ⟨bytes, rfl, hread⟩

/-- Without backslashes, only slashes at the end are not in the key. -/
theorem key_of_no_backslash (hback : '\\' ∉ p.chars) :
    key p = dropWhileEnd (· = '/') p.chars := by
  have hmap : p.chars.map (fun c => if c = '\\' then '/' else c) = p.chars := by
    refine List.map_congr_left (g := id) ?_ |>.trans (List.map_id _)
    intro c hc
    rw [if_neg, id]
    rintro rfl
    exact hback hc
  rw [key, hmap]

/-- A path without backslashes and without `/` at its end is its own key. -/
theorem key_eq_chars (hback : '\\' ∉ p.chars) (hend : p.endsInSlash = false) : key p = p.chars := by
  rw [key_of_no_backslash hback]
  refine Text.dropWhileEnd_eq_self ?_
  intro c hc
  rw [decide_eq_false_iff_not]
  rintro rfl
  rw [Path.endsInSlash, hc] at hend
  cases hend

/-- A path without backslashes is its key and slashes behind it. -/
theorem exists_chars_eq_key_append (hback : '\\' ∉ p.chars) :
    ∃ n, p.chars = key p ++ List.replicate n '/' := by
  obtain ⟨ys, hchars, hys⟩ := Text.exists_dropWhileEnd_append (· = '/') p.chars
  rw [← key_of_no_backslash hback] at hchars
  have hreplicate : ys = List.replicate ys.length '/' :=
    List.eq_replicate_of_mem fun y hy => of_decide_eq_true (hys y hy)
  exact ⟨ys.length, hreplicate ▸ hchars⟩

theorem backslash_not_mem_key (p : Path) : '\\' ∉ key p := by
  intro h
  obtain ⟨c, -, hc⟩ := List.mem_map.mp (Text.mem_of_mem_dropWhileEnd h)
  split_ifs at hc with hback
  · cases hc
  · exact hback hc

theorem not_slash_suffix_key (p : Path) : ¬['/'] <:+ key p := by
  rintro ⟨before, hkey⟩
  have hne : key p ≠ [] := by simp [← hkey]
  obtain ⟨init, c, hlast, hc⟩ := Text.dropWhileEnd_eq_concat hne
  have hsame : [c] = ['/'] := (List.append_inj' (hlast.symm.trans hkey.symm) rfl).2
  rw [List.singleton_inj.mp hsame] at hc
  cases hc

/-- A module that imports another under two spellings, and that one imports it back. -/
def twins : Memory :=
  let first := empty.write ⟨"/p/a.js"⟩ "import ./lib/b\nimport ./lib\\b".toUTF8
  (first.2.write ⟨"/p/lib/b.js"⟩ "import /p/a".toUTF8).2

end Memory

end ModuleBundler
