import Mathlib.Tactic.Common
import ModuleBundler.Store.Memory

namespace ModuleBundler

theorem decodeText_toUTF8 (s : String) : decodeText s.toUTF8 = .ok s := by
  have hread : String.fromUTF8? s.toUTF8 = some s := dif_pos s.isValidUTF8
  rw [decodeText, hread]

theorem decodeText_eq_error {bytes : ByteArray} {e : FileError} :
    decodeText bytes = .error e ↔ e = .notText ∧ ¬bytes.IsValidUTF8 := by
  unfold decodeText String.fromUTF8?
  by_cases h : bytes.IsValidUTF8 <;> simp [h, eq_comm]

namespace Memory

variable {m m' m'' : Memory} {k k' : List Char} {ks ks' : List (List Char)} {p q : Path}
  {bytes : ByteArray}

section Put

theorem lookup_filter_ne (k k' : List Char) (es : List (List Char × Entry)) :
    (es.filter (·.1 ≠ k)).lookup k' = if k' = k then none else es.lookup k' := by
  induction es with
  | nil => simp
  | cons e es ih =>
    obtain ⟨first, entry⟩ := e
    by_cases hfirst : first = k
    · rw [List.filter_cons_of_neg (by simpa using hfirst), ih]
      split_ifs with hk
      · rfl
      · rw [List.lookup_cons, beq_eq_false_iff_ne.mpr (hfirst ▸ hk)]
    · rw [List.filter_cons_of_pos (by simpa using hfirst)]
      by_cases hk : k' = first
      · subst hk
        rw [List.lookup_cons_self, List.lookup_cons_self, if_neg hfirst]
      · rw [List.lookup_cons, List.lookup_cons, beq_eq_false_iff_ne.mpr hk]
        exact ih

theorem get?_put (m : Memory) (k k' : List Char) (e : Entry) :
    (m.put k e).get? k' = if k' = k then some e else m.get? k' := by
  unfold put get?
  by_cases hk : k' = k
  · subst hk
    rw [List.lookup_cons_self, if_pos rfl]
  · rw [List.lookup_cons, beq_eq_false_iff_ne.mpr hk, if_neg hk]
    exact (lookup_filter_ne k k' m.entries).trans (if_neg hk)

/-- What is put again under the same key takes the place of what was put before. -/
theorem put_put (m : Memory) (k : List Char) (e e' : Entry) :
    (m.put k e).put k e' = m.put k e' := by
  unfold put
  rw [List.filter_cons_of_neg (by simp), List.filter_filter]
  simp only [Bool.and_self]

theorem isSome_get?_put (k : List Char) (e : Entry) (h : (m.get? k').isSome = true) :
    ((m.put k e).get? k').isSome = true := by
  rw [get?_put]
  split_ifs
  · rfl
  · exact h

end Put

/-- The second store has what the first has, and directories under some of the keys that held
nothing. -/
def Grows (ks : List (List Char)) (m m' : Memory) : Prop :=
  ∀ k, m'.get? k = m.get? k ∨ k ∈ ks ∧ m.get? k = none ∧ m'.get? k = some .directory

namespace Grows

theorem refl (ks : List (List Char)) (m : Memory) : Grows ks m m := fun _ => .inl rfl

theorem trans (h : Grows ks m m') (h' : Grows ks m' m'') : Grows ks m m'' := by
  intro k
  rcases h' k with heq | ⟨hk, hnone, hsome⟩
  · rcases h k with heq' | ⟨hk, hnone, hsome⟩
    · exact .inl (heq.trans heq')
    · exact .inr ⟨hk, hnone, heq.trans hsome⟩
  · rcases h k with heq' | ⟨-, -, hsome'⟩
    · exact .inr ⟨hk, heq' ▸ hnone, hsome⟩
    · rw [hsome'] at hnone
      cases hnone

theorem mono (h : Grows ks m m') (hks : ∀ k ∈ ks, k ∈ ks') : Grows ks' m m' :=
  fun k => (h k).imp_right fun ⟨hk, hrest⟩ => ⟨hks k hk, hrest⟩

theorem put (hnone : m.get? k = none) : Grows [k] m (m.put k .directory) := by
  intro k'
  rw [get?_put]
  split_ifs with h
  · subst h
    exact .inr ⟨List.mem_cons_self, hnone, rfl⟩
  · exact .inl rfl

theorem isSome (h : Grows ks m m') (hk : (m.get? k).isSome = true) :
    (m'.get? k).isSome = true := by
  rcases h k with heq | ⟨-, -, hsome⟩
  · rw [heq]
    exact hk
  · rw [hsome]
    rfl

end Grows

section Create

theorem create_eq_ok {e : Entry} : m.create k e = .ok m' ↔
    ∃ parent, parentKey? k = some parent ∧ (m.get? parent).isSome = true ∧ m' = m.put k e := by
  unfold create
  cases parentKey? k with
  | none => simp
  | some parent =>
    simp only [Option.some.injEq, exists_eq_left']
    split_ifs with hparent
    · simp only [Except.ok.injEq, hparent, true_and]
      exact eq_comm
    · simp [hparent]

/-- A key that needs no directory of its own: that of the root, or one that holds something. -/
def Held (m : Memory) (k : List Char) : Prop := k = [] ∨ (m.get? k).isSome = true

theorem Grows.held (h : Grows ks m m') (hk : m.Held k) : m'.Held k := hk.imp_right h.isSome

theorem createMissing_of_held_cons (h : m.Held k) (ks : List (List Char)) :
    m.createMissing (k :: ks) = m.createMissing ks := by
  rw [createMissing, if_pos]
  simpa [Held] using h

/-- What becomes of a store that is to have a directory: it has one, or one is put into the
directory above. -/
inductive Makes (m : Memory) (k : List Char) : Memory → Prop where
  | held (h : m.Held k) : Makes m k m
  | created (parent : List Char) (hnone : m.get? k = none) (hkey : parentKey? k = some parent)
      (hparent : (m.get? parent).isSome = true) : Makes m k (m.put k .directory)

theorem Makes.grows (h : Makes m k m') : Grows [k] m m' := by
  cases h with
  | held => exact .refl _ m
  | created parent hnone => exact .put hnone

theorem Makes.held_self (h : Makes m k m') : m'.Held k := by
  cases h with
  | held h => exact h
  | created => exact .inr (by rw [get?_put, if_pos rfl]; rfl)

/-- The first directory is made, or there is none above it. -/
theorem createMissing_cons_cases (m : Memory) (k : List Char) :
    (∃ m', Makes m k m' ∧ ∀ ks, m.createMissing (k :: ks) = m'.createMissing ks) ∨
    ∃ e, ¬m.Held k ∧ m.create k .directory = .error e ∧
      ∀ ks, m.createMissing (k :: ks) = (.error e, m) := by
  by_cases hk : m.Held k
  · exact .inl ⟨m, .held hk, createMissing_of_held_cons hk⟩
  · have hneg : ¬(decide (k = []) || (m.get? k).isSome) = true := by simpa [Held] using hk
    cases hcreate : m.create k .directory with
    | error e =>
      refine .inr ⟨e, hk, rfl, fun ks => ?_⟩
      rw [createMissing, if_neg hneg, hcreate]
    | ok m' =>
      obtain ⟨parent, hkey, hparent, rfl⟩ := create_eq_ok.mp hcreate
      have hnone : m.get? k = none := by
        rw [← Option.not_isSome_iff_eq_none]
        exact fun hsome => hk (.inr hsome)
      refine .inl ⟨_, .created parent hnone hkey hparent, fun ks => ?_⟩
      rw [createMissing, if_neg hneg, hcreate]

theorem createMissing_of_held (h : ∀ k ∈ ks, m.Held k) : m.createMissing ks = (.ok (), m) := by
  induction ks with
  | nil => rfl
  | cons k ks ih =>
    rw [createMissing_of_held_cons (h k List.mem_cons_self)]
    exact ih fun k' hk' => h k' (List.mem_cons_of_mem k hk')

theorem createMissing_append (h : m.createMissing ks = (.ok (), m')) (ks' : List (List Char)) :
    m.createMissing (ks ++ ks') = m'.createMissing ks' := by
  induction ks generalizing m with
  | nil =>
    cases h
    rfl
  | cons k ks ih =>
    rcases m.createMissing_cons_cases k with ⟨made, -, heq⟩ | ⟨e, -, -, heq⟩
    · rw [List.cons_append, heq]
      rw [heq] at h
      exact ih h
    · rw [heq] at h
      cases h

/-- Whether or not all directories can be created, those that were are new. -/
theorem grows_createMissing (m : Memory) (ks : List (List Char)) :
    Grows ks m (m.createMissing ks).2 := by
  induction ks generalizing m with
  | nil => exact .refl [] m
  | cons k ks ih =>
    rcases m.createMissing_cons_cases k with ⟨made, hmakes, heq⟩ | ⟨e, -, -, heq⟩
    · rw [heq]
      have hfirst : Grows (k :: ks) m made := hmakes.grows.mono (by simp)
      exact hfirst.trans ((ih made).mono fun _ => List.mem_cons_of_mem k)
    · rw [heq]
      exact .refl _ m

/-- Where all directories could be created, none is missing. -/
theorem held_of_createMissing (h : m.createMissing ks = (.ok (), m')) : ∀ k ∈ ks, m'.Held k := by
  induction ks generalizing m with
  | nil => exact fun k hk => absurd hk List.not_mem_nil
  | cons k ks ih =>
    rcases m.createMissing_cons_cases k with ⟨made, hmakes, heq⟩ | ⟨e, -, -, heq⟩
    · rw [heq] at h
      have hgrows := grows_createMissing made ks
      rw [h] at hgrows
      intro k' hk'
      rcases List.mem_cons.mp hk' with rfl | hk'
      · exact hgrows.held hmakes.held_self
      · exact ih h k' hk'
    · rw [heq] at h
      cases h

/-- Directories can be created where each is there or goes into one that is. -/
theorem exists_createMissing (h : ∀ k ∈ ks, m.Held k ∨
      ∃ parent, parentKey? k = some parent ∧ (m.get? parent).isSome = true) :
    ∃ m', m.createMissing ks = (.ok (), m') := by
  induction ks generalizing m with
  | nil => exact ⟨m, rfl⟩
  | cons k ks ih =>
    rcases m.createMissing_cons_cases k with ⟨made, hmakes, heq⟩ | ⟨e, hheld, hcreate, -⟩
    · rw [heq]
      refine ih fun k' hk' => ?_
      rcases h k' (List.mem_cons_of_mem k hk') with hheld | ⟨parent, hkey, hparent⟩
      · exact .inl (hmakes.grows.held hheld)
      · exact .inr ⟨parent, hkey, hmakes.grows.isSome hparent⟩
    · obtain ⟨parent, hkey, hparent⟩ := (h k List.mem_cons_self).resolve_left hheld
      rw [create_eq_ok.mpr ⟨parent, hkey, hparent, rfl⟩] at hcreate
      cases hcreate

end Create

section Write

/-- The keys of the directories above a path, outermost first. -/
def above (p : Path) : List (List Char) :=
  match p.parent? with
  | some dir => dir.ancestors.reverse.map key
  | none => []

theorem write_eq (m : Memory) (p : Path) (bytes : ByteArray) :
    m.write p bytes =
      match m.createMissing (above p) with
      | (.error e, m) => (.error e, m)
      | (.ok (), m) =>
        match m.create (key p) (.file bytes) with
        | .ok m' => (.ok (), m')
        | .error e => (.error e, m) := rfl

/-- What a write can come to. -/
inductive Writes (m : Memory) (p : Path) (bytes : ByteArray) :
    Except FileError Unit × Memory → Prop where
  | refused (e : FileError) : Writes m p bytes (.error e, (m.createMissing (above p)).2)
  | written (made : Memory) (parent : List Char)
      (hmade : m.createMissing (above p) = (.ok (), made)) (hkey : parentKey? (key p) = some parent)
      (hparent : (made.get? parent).isSome = true) :
      Writes m p bytes (.ok (), made.put (key p) (.file bytes))

theorem writes_write (m : Memory) (p : Path) (bytes : ByteArray) :
    Writes m p bytes (m.write p bytes) := by
  have hrefused : ∀ e, Writes m p bytes (.error e, (m.createMissing (above p)).2) := .refused
  rw [write_eq]
  rcases hmade : m.createMissing (above p) with ⟨⟨e⟩ | ⟨⟨⟩⟩, made⟩
  all_goals rw [hmade] at hrefused
  · exact hrefused e
  · simp only
    cases hcreate : made.create (key p) (.file bytes) with
    | error e => exact hrefused e
    | ok m' =>
      obtain ⟨parent, hkey, hparent, rfl⟩ := create_eq_ok.mp hcreate
      exact .written made parent hmade hkey hparent

/-- Where the directories above can be created, and the key asks for one that is there then, a file
can be written. -/
theorem write_of_createMissing {made : Memory} {parent : List Char}
    (hmade : m.createMissing (above p) = (.ok (), made)) (hkey : parentKey? (key p) = some parent)
    (hparent : (made.get? parent).isSome = true) (bytes : ByteArray) :
    m.write p bytes = (.ok (), made.put (key p) (.file bytes)) := by
  have hcreate : made.create (key p) (.file bytes) = .ok (made.put (key p) (.file bytes)) :=
    create_eq_ok.mpr ⟨parent, hkey, hparent, rfl⟩
  simp only [write_eq, hmade, hcreate]

/-- A file that was written can be written again, and that changes nothing more. -/
theorem write_again (h : m.write p bytes = (.ok (), m')) : m'.write p bytes = (.ok (), m') := by
  have hwrites := m.writes_write p bytes
  rw [h] at hwrites
  cases hwrites with
  | written made parent hmade hkey hparent =>
    have hheld : ∀ k ∈ above p, (made.put (key p) (.file bytes)).Held k :=
      fun k hk => (held_of_createMissing hmade k hk).imp_right (isSome_get?_put _ _)
    rw [write_of_createMissing (createMissing_of_held hheld) hkey (isSome_get?_put _ _ hparent),
      put_put]

end Write

section Files

/-- The bytes of the file that a path names. -/
def bytes? (m : Memory) (p : Path) : Option ByteArray :=
  match m.get? (key p) with
  | some (.file bytes) => some bytes
  | _ => none

theorem isFile_eq_isSome (m : Memory) (p : Path) : isFile m p = (m.bytes? p).isSome := by
  unfold isFile bytes?
  split <;> simp_all

theorem read_eq_ok {text : String} : read m p = .ok text ↔
    ∃ bytes, m.bytes? p = some bytes ∧ decodeText bytes = .ok text := by
  unfold read bytes?
  split <;> simp_all

theorem read_eq_notText : read m p = .error .notText ↔
    ∃ bytes, m.bytes? p = some bytes ∧ ¬bytes.IsValidUTF8 := by
  unfold read bytes?
  split <;> simp_all [decodeText_eq_error]

/-- A file can be read, unless its bytes are not a text. -/
theorem isFile_iff_read :
    isFile m p = true ↔ (∃ text, read m p = .ok text) ∨ read m p = .error .notText := by
  unfold isFile read
  split
  · rename_i bytes hget
    simp only [hget, true_iff]
    cases hread : decodeText bytes with
    | ok text => exact .inl ⟨text, rfl⟩
    | error e => exact .inr (congrArg _ (decodeText_eq_error.mp hread).1)
  · split <;> simp_all

theorem Grows.bytes?_eq (h : Grows ks m m') (p : Path) : m'.bytes? p = m.bytes? p := by
  unfold bytes?
  rcases h (key p) with heq | ⟨-, hnone, hsome⟩
  · rw [heq]
  · rw [hnone, hsome]

/-- Both stores have the same under a path: no file, or files with the same bytes. -/
structure SameFile (m m' : Memory) (p : Path) : Prop where
  isFile_eq : isFile m' p = isFile m p
  bytes_eq : m'.bytes? p = m.bytes? p

theorem sameFile_of_bytes_eq (h : m'.bytes? p = m.bytes? p) : SameFile m m' p :=
  ⟨by rw [isFile_eq_isSome, isFile_eq_isSome, h], h⟩

theorem bytes?_put (m : Memory) (k : List Char) (bytes : ByteArray) (p : Path) :
    (m.put k (.file bytes)).bytes? p = if key p = k then some bytes else m.bytes? p := by
  unfold bytes?
  rw [get?_put]
  split_ifs <;> rfl

/-- A refused write adds directories at most. -/
theorem grows_of_refused {e : FileError} (h : m.write p bytes = (.error e, m')) :
    Grows (above p) m m' := by
  have hwrites := m.writes_write p bytes
  rw [h] at hwrites
  cases hwrites with
  | refused e => exact m.grows_createMissing (above p)

/-- A write changes the file that it names and no other. -/
theorem bytes?_write (h : m.write p bytes = (.ok (), m')) (q : Path) :
    m'.bytes? q = if key q = key p then some bytes else m.bytes? q := by
  have hwrites := m.writes_write p bytes
  rw [h] at hwrites
  cases hwrites with
  | written made parent hmade =>
    have hgrows := m.grows_createMissing (above p)
    rw [hmade] at hgrows
    rw [bytes?_put, hgrows.bytes?_eq]

/-- Where a file was there before, writing it makes no file appear. -/
theorem isFile_write (h : m.write p bytes = (.ok (), m')) (hfile : isFile m p = true) (q : Path) :
    isFile m' q = isFile m q := by
  rw [isFile_eq_isSome] at hfile
  rw [isFile_eq_isSome, isFile_eq_isSome, bytes?_write h]
  split_ifs with hkey
  · have hsame : m.bytes? q = m.bytes? p := by rw [bytes?, bytes?, hkey]
    rw [hsame, hfile]
    rfl
  · rfl

end Files

end Memory

end ModuleBundler
