namespace ModuleBundler.Decimal

/-- The whole number nearest to `num / den`; halfway goes to the even neighbour. -/
def roundHalfEven (num den : Nat) : Nat :=
  let q := num / den
  let r := num % den
  if 2 * r < den then q
  else if den < 2 * r then q + 1
  else if q % 2 = 0 then q else q + 1

/-- A quotient with two decimals. -/
def hundredths (num den : Nat) : String :=
  let n := roundHalfEven (100 * num) den
  let fraction := toString (n % 100)
  toString (n / 100) ++ "." ++ (if n % 100 < 10 then "0" ++ fraction else fraction)

theorem roundHalfEven_near (num den : Nat) (h : 0 < den) :
    2 * num ≤ 2 * den * roundHalfEven num den + den ∧
    2 * den * roundHalfEven num den ≤ 2 * num + den := by
  have hd := Nat.div_add_mod num den
  have hm := Nat.mod_lt num h
  simp only [roundHalfEven, Nat.mul_assoc]
  split
  · constructor <;> omega
  · split
    · rw [Nat.mul_add, Nat.mul_one]
      constructor <;> omega
    · split
      · constructor <;> omega
      · rw [Nat.mul_add, Nat.mul_one]
        constructor <;> omega

theorem roundHalfEven_of_tie {num den : Nat} (h : 2 * (num % den) = den) :
    roundHalfEven num den % 2 = 0 := by
  simp only [roundHalfEven, h, Nat.lt_irrefl, if_false]
  split <;> omega

end ModuleBundler.Decimal
