import Mathlib.Data.List.Basic
import ModuleBundler.Proofs.Ecma.Reading

namespace ModuleBundler.Ecma

/-- Whether the text is a whole number in base 10. One that begins with a zero has no other
digit. -/
def isWholeNumber (cs : List Char) : Bool :=
  cs.all Char.isDigit && (cs.head?.any (· ≠ '0') || cs = ['0'])

theorem head?_toDigits {n : Nat} (h : 0 < n) :
    (Nat.toDigits 10 n).head?.any (· ≠ '0') = true := by
  induction n using Nat.strongRecOn with
  | ind n ih =>
    by_cases hlt : n < 10
    · have all : ∀ m : Fin 10, 0 < m.val → Nat.digitChar m.val ≠ '0' := by decide
      simpa [Nat.toDigits_of_lt_base hlt] using all ⟨n, hlt⟩ h
    · rw [Nat.toDigits_of_base_le (by decide) (by omega),
        List.head?_append_of_ne_nil _ Nat.toDigits_ne_nil]
      exact ih (n / 10) (Nat.div_lt_self h (by decide)) (by omega)

theorem isWholeNumber_toDigits (n : Nat) : isWholeNumber (Nat.toDigits 10 n) = true := by
  have hdigits : (Nat.toDigits 10 n).all Char.isDigit = true :=
    List.all_eq_true.mpr fun c hc => Nat.isDigit_of_mem_toDigits (by decide) (by decide) hc
  rw [isWholeNumber, hdigits, Bool.true_and]
  rcases Nat.eq_zero_or_pos n with rfl | hn
  · rfl
  · rw [head?_toDigits hn, Bool.true_or]

/-- No number goes on with the text. -/
def EndsNumber (t : List Char) : Prop :=
  ∀ c ∈ t.head?, isNameStart c = false ∧ c.isDigit = false ∧ c ≠ '.'

theorem EndsNumber.ne {c d : Char} {t : List Char} (h : EndsNumber (c :: t))
    (hd : isNameStart d = true) : c ≠ d := by
  rintro rfl
  rw [(h c rfl).1] at hd
  cases hd

theorem afterDigits_append {w t : List Char} (hw : w.all Char.isDigit = true) (hne : w ≠ [])
    (ht : EndsNumber t) : afterDigits Char.isDigit (w ++ t) = some t := by
  induction w with
  | nil => exact absurd rfl hne
  | cons c w ih =>
    obtain ⟨hc, hw⟩ := Bool.and_eq_true_iff.mp hw
    cases w with
    | nil =>
      cases t with
      | nil => simp [afterDigits, hc]
      | cons d t =>
        have hline : d ≠ '_' := ht.ne (by decide)
        rw [List.singleton_append, afterDigits, if_pos hc, if_neg (by simp [(ht d rfl).2.1])]
        exact hline
    | cons d w =>
      have hd : d.isDigit = true := (Bool.and_eq_true_iff.mp hw).1
      have hback := ih hw (List.cons_ne_nil d w)
      rw [List.cons_append] at hback
      have hline : d ≠ '_' := by rintro rfl; cases hd
      rw [List.cons_append, List.cons_append, afterDigits, if_pos hc, if_pos hd, hback]
      exact hline

theorem afterDecimal_append {w t : List Char} (hw : w.all Char.isDigit = true) (hne : w ≠ [])
    (ht : EndsNumber t) : afterDecimal (w ++ t) = some t := by
  rw [afterDecimal, afterDigits_append hw hne ht]
  cases t with
  | nil => rfl
  | cons c t =>
    have hpoint : c ≠ '.' := (ht c rfl).2.2
    have hn : c ≠ 'n' := ht.ne (by decide)
    have he : c ≠ 'e' := ht.ne (by decide)
    have hE : c ≠ 'E' := ht.ne (by decide)
    simp [afterOptionalExponent, hpoint, hn, he, hE]

theorem afterNumber_append {w t : List Char} (hw : isWholeNumber w = true) (ht : EndsNumber t) :
    afterNumber (w ++ t) = some t := by
  obtain ⟨hdigits, hzero⟩ := Bool.and_eq_true_iff.mp hw
  cases w with
  | nil => simp at hzero
  | cons c w =>
    have hdecimal := afterDecimal_append hdigits (List.cons_ne_nil c w) ht
    have hc : c.isDigit = true := (Bool.and_eq_true_iff.mp hdigits).1
    have hpoint : c ≠ '.' := by rintro rfl; cases hc
    by_cases h : c = '0'
    · subst h
      obtain rfl : w = [] := by simpa using hzero
      cases t with
      | nil => rfl
      | cons d t =>
        have hletters : ['x', 'X', 'o', 'O', 'b', 'B', '_'].all isNameStart = true := by decide
        have hother : ∀ e ∈ ['x', 'X', 'o', 'O', 'b', 'B', '_'], d ≠ e := fun e he =>
          ht.ne (List.all_eq_true.mp hletters e he)
        simp only [List.forall_mem_cons] at hother
        simpa [afterNumber, hother, (ht d rfl).2.1] using hdecimal
    · simpa [afterNumber, hpoint, h] using hdecimal

theorem afterNumeral_append {w t : List Char} (hw : isWholeNumber w = true) (ht : EndsNumber t) :
    afterNumeral (w ++ t) = some t := by
  rw [afterNumeral, afterNumber_append hw ht]
  cases t with
  | nil => rfl
  | cons c t =>
    obtain ⟨hname, hdigit, -⟩ := ht c rfl
    simp [hname, hdigit]

/-- The character starts neither a gap nor a token that a quote or a name starts. -/
def StartsNumberOnly (c : Char) : Prop :=
  isLineEnd c = false ∧ isGapChar c = false ∧ c ≠ '/' ∧
    ¬(c = '\x22' ∨ c = '\x27') ∧ ¬(isNameStart c = true ∨ c = '\\')

theorem startsNumberOnly_of_isDigit {c : Char} (h : c.isDigit = true) : StartsNumberOnly c := by
  have all : ∀ m : Fin 10, StartsNumberOnly (Char.ofNat (48 + m.val)) := by
    unfold StartsNumberOnly
    decide
  have hrange : 48 ≤ c.toNat ∧ c.toNat ≤ 57 := Char.isDigit_iff_toNat.mp h
  have hc : c = Char.ofNat (48 + (c.toNat - 48)) := by
    rw [Nat.add_sub_cancel' hrange.1, Char.ofNat_toNat]
  rw [hc]
  exact all ⟨c.toNat - 48, by omega⟩

theorem scan_number {w t : List Char} (hw : isWholeNumber w = true) (ht : EndsNumber t) :
    scan (w ++ t) = (.number, t) := by
  have hend := afterNumeral_append hw ht
  obtain ⟨hdigits, hzero⟩ := Bool.and_eq_true_iff.mp hw
  cases w with
  | nil => simp at hzero
  | cons c w =>
    have hc : c.isDigit = true := (Bool.and_eq_true_iff.mp hdigits).1
    obtain ⟨-, -, -, hquote, hname⟩ := startsNumberOnly_of_isDigit hc
    rw [List.cons_append] at hend ⊢
    simp [scan, hquote, hname, hc, hend]

theorem Cursor.begins_number {w : List Char} (hw : isWholeNumber w = true) (t : List Char) :
    Begins (w ++ t) := by
  obtain ⟨hdigits, hzero⟩ := Bool.and_eq_true_iff.mp hw
  cases w with
  | nil => simp at hzero
  | cons c w =>
    have hc : c.isDigit = true := (Bool.and_eq_true_iff.mp hdigits).1
    obtain ⟨hend, hgap, hslash, -⟩ := startsNumberOnly_of_isDigit hc
    exact begins_cons ⟨hend, hgap, hslash⟩ (w ++ t)

end ModuleBundler.Ecma
