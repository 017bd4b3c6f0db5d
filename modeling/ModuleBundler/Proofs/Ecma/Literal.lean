import Mathlib.Data.List.Basic
import ModuleBundler.Ecma.StringLiteral
import ModuleBundler.Ecma.StringValue

namespace ModuleBundler.Ecma

open Text (hexDigit hexValue? hexValue?_hexDigit fourHexDigits)

theorem hexDigit_ne_brace {n : Nat} (h : n < 16) : hexDigit n ≠ '\x7b' := by
  have all : ∀ m : Fin 16, hexDigit m.val ≠ '\x7b' := by decide
  exact all ⟨n, h⟩

/-- Reading an escape by code point goes through its four digits, first one first. -/
theorem readCodes_unicodeEscape {n : Nat} (h : n < 0x10000) (seen : List Nat) (rest : List Char) :
    readCodes '\x22' seen .plain (unicodeEscape n ++ rest) =
      readCodes '\x22' (n :: seen) .plain rest := by
  have hdigit (k : Nat) : hexValue? (hexDigit (k % 16)) = some (k % 16) :=
    hexValue?_hexDigit (Nat.mod_lt k (by decide))
  have hbrace := hexDigit_ne_brace (Nat.mod_lt (n / 4096) (by decide : 0 < 16))
  have hvalue : 16 * (16 * (16 * (n / 4096 % 16) + n / 256 % 16) + n / 16 % 16) + n % 16 = n := by
    omega
  simp [unicodeEscape, fourHexDigits, readCodes, escapeStep, plainStep, backslashStep, hbrace,
    hdigit, hvalue]

theorem readCodes_escapeChar (c : Char) (seen : List Nat) (rest : List Char) :
    readCodes '\x22' seen .plain (escapeChar c ++ rest) =
      readCodes '\x22' (c.toNat :: seen) .plain rest := by
  unfold escapeChar
  split_ifs with hquote hback hb hf hn hr ht hu
  · subst hquote
    rfl
  · subst hback
    rfl
  · subst hb
    rfl
  · subst hf
    rfl
  · subst hn
    rfl
  · subst hr
    rfl
  · subst ht
    rfl
  · refine readCodes_unicodeEscape ?_ seen rest
    simp only [Bool.or_eq_true, decide_eq_true_eq] at hu
    rcases hu with (hu | rfl) | rfl
    · omega
    · decide
    · decide
  · simp [readCodes, escapeStep, plainStep, hquote, hback, hn, hr]

/-- Behind the opening quote stand the characters of the text and the closing quote. -/
theorem readCodes_literal (cs : List Char) (seen : List Nat) (rest : List Char) :
    readCodes '\x22' seen .plain (cs.flatMap escapeChar ++ '\x22' :: rest) =
      some ((cs.map Char.toNat).reverse ++ seen, rest) := by
  induction cs generalizing seen with
  | nil => rfl
  | cons c cs ih =>
    rw [List.flatMap_cons, List.append_assoc, readCodes_escapeChar, ih]
    simp

/-- A character is no half of a pair. -/
theorem not_half (c : Char) : isHighHalf c.toNat = false ∧ isLowHalf c.toNat = false := by
  have hvalid : c.toNat < 0xd800 ∨ 0xdfff < c.toNat ∧ c.toNat < 0x110000 := c.valid
  simp only [isHighHalf, isLowHalf, Bool.and_eq_false_iff, decide_eq_false_iff_not]
  omega

theorem joinHalves_of_not_high {codes : List Nat} (h : ∀ n ∈ codes, isHighHalf n = false)
    (joined : List Nat) : joinHalves joined codes = codes.reverse ++ joined := by
  induction codes generalizing joined with
  | nil => rfl
  | cons n ns ih =>
    have hns := ih fun m hm => h m (List.mem_cons_of_mem n hm)
    cases joined with
    | nil => simp [joinHalves, hns]
    | cons low after => simp [joinHalves, hns, h n List.mem_cons_self]

theorem textOfCodes_chars (cs : List Char) :
    textOfCodes (cs.map Char.toNat) = String.ofList cs := by
  have hwhole : ((cs.map Char.toNat).any fun n => isHighHalf n || isLowHalf n) = false := by
    simp [List.any_eq_false, not_half]
  rw [textOfCodes, if_neg (by simpa using hwhole)]
  simp [Function.comp_def, Char.ofNat_toNat]

/-- Behind its opening quote, a literal is read as the text it was printed from. -/
theorem stringValue?_literal (cs t : List Char) :
    stringValue? '\x22' (cs.flatMap escapeChar ++ '\x22' :: t) = some (String.ofList cs, t) := by
  have hcodes : ∀ n ∈ (cs.map Char.toNat).reverse, isHighHalf n = false := by
    simp [not_half]
  simp only [stringValue?, readCodes_literal, List.append_nil, Option.map_some,
    joinHalves_of_not_high hcodes, List.reverse_reverse, textOfCodes_chars]

/-- The character is neither a control below the space nor a line separator of Unicode. -/
def IsPrintable (c : Char) : Prop := 0x20 ≤ c.toNat ∧ c ≠ '\u2028' ∧ c ≠ '\u2029'

instance : DecidablePred IsPrintable := fun c =>
  inferInstanceAs (Decidable (0x20 ≤ c.toNat ∧ c ≠ '\u2028' ∧ c ≠ '\u2029'))

theorem isPrintable_of_all {cs : List Char} (h : cs.all (decide <| IsPrintable ·) = true) :
    ∀ c ∈ cs, IsPrintable c := by
  simpa using h

theorem isPrintable_hexDigit {n : Nat} (h : n < 16) : IsPrintable (hexDigit n) := by
  have all : ∀ m : Fin 16, IsPrintable (hexDigit m.val) := by decide
  exact all ⟨n, h⟩

theorem isPrintable_unicodeEscape (n : Nat) : ∀ c ∈ unicodeEscape n, IsPrintable c := by
  have hdigit (k : Nat) : IsPrintable (hexDigit (k % 16)) :=
    isPrintable_hexDigit (Nat.mod_lt k (by decide))
  simp only [unicodeEscape, fourHexDigits, List.forall_mem_cons]
  exact ⟨by decide, by decide, hdigit _, hdigit _, hdigit _, hdigit _, by simp⟩

theorem isPrintable_escapeChar (c : Char) : ∀ d ∈ escapeChar c, IsPrintable d := by
  unfold escapeChar
  split_ifs with hquote hback hb hf hn hr ht hu
  any_goals exact isPrintable_of_all rfl
  · exact isPrintable_unicodeEscape c.toNat
  · simp only [Bool.or_eq_true, decide_eq_true_eq, not_or, Nat.not_lt] at hu
    intro d hd
    rw [List.mem_singleton.mp hd]
    exact ⟨hu.1.1, hu.1.2, hu.2⟩

/-- What stands in a literal can stand on one line of any script. -/
theorem isPrintable_literal (v : String) : ∀ c ∈ (literal v).toList, IsPrintable c := by
  intro c hc
  simp only [literal, literalChars, String.toList_ofList, List.mem_cons, List.mem_append,
    List.mem_flatMap, List.not_mem_nil, or_false] at hc
  rcases hc with (rfl | ⟨d, -, hd⟩) | rfl
  · decide
  · exact isPrintable_escapeChar d c hd
  · decide

/-- A literal says where it ends. -/
theorem literalChars_append_inj {cs ds t u : List Char}
    (h : literalChars cs ++ t = literalChars ds ++ u) : cs = ds ∧ t = u := by
  simp only [literalChars, List.cons_append, List.append_assoc, List.cons.injEq, true_and,
    List.nil_append] at h
  have hread := readCodes_literal cs [] t
  rw [h, readCodes_literal ds [] u] at hread
  simp only [List.append_nil, Option.some.injEq, Prod.mk.injEq, List.reverse_inj] at hread
  have hinj : Function.Injective Char.toNat := fun c d hcd => Char.toNat_inj.mp hcd
  exact ⟨(hinj.list_map hread.1).symm, hread.2.symm⟩

end ModuleBundler.Ecma
