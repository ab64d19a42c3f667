import AuthBroker.Proofs.Binary64.Nearest
import AuthBroker.Proofs.Text.Decimal
import Mathlib.Data.List.TakeWhile

/-! # Shortest decimals

The shortest decimal of a rank reads back to the rank (`rank_shortest`). Its significant digits are a
run of digits with no zero in front, and count in the power of ten that its first digit stands at
(`Decimal.value_digits`). -/

namespace AuthBroker.Binary64

/-! ## Reading back -/

theorem rank_of_neighbour? {rank p q : Nat} {power : Int} {d : Decimal}
    (h : neighbour? rank p q power = some d) : d.rank = rank := by
  obtain ⟨coefficient, -, hcandidate⟩ := List.exists_of_findSome?_eq_some h
  obtain ⟨hrank, hd⟩ := Option.ite_none_right_eq_some.mp hcandidate
  rw [← Option.some.inj hd]
  exact hrank

theorem value_exactDecimal (rank : Nat) : (exactDecimal rank).value = value (ratio rank) := by
  rw [value_ratio, exactDecimal]
  by_cases h : 0 ≤ exponent rank
  · obtain ⟨n, hn⟩ := Int.eq_ofNat_of_zero_le h
    simp [hn, Decimal.value]
  · obtain ⟨n, hn⟩ := Int.eq_ofNat_of_zero_le (show 0 ≤ -exponent rank by omega)
    have hpower : exponent rank = -(n : Int) := by omega
    have hten : (10 : ℚ) ^ n = 2 ^ n * 5 ^ n := by
      rw [← mul_pow]
      norm_num
    rw [if_neg h, hpower]
    simp only [Decimal.value, neg_neg, Int.toNat_natCast, Nat.pow_eq, Nat.cast_mul, Nat.cast_pow,
      Nat.cast_ofNat, zpow_neg, zpow_natCast, hten]
    field_simp

theorem rank_exactDecimal (rank : Nat) : (exactDecimal rank).rank = rank := by
  rw [Decimal.rank_eq_of_value (ratio_snd_pos rank) (value_exactDecimal rank), nearestRank_ratio]

/-- The shortest decimal of a rank reads back to it. -/
theorem rank_shortest (rank : Nat) : (shortest rank).rank = rank := by
  simp only [shortest]
  cases h : (List.range 17).findSome? fun n : Nat =>
      neighbour? rank (ratio rank).1 (ratio rank).2
        (floorLog10 (ratio rank).1 (ratio rank).2 - n) with
  | none => exact rank_exactDecimal rank
  | some d =>
    obtain ⟨n, -, hn⟩ := List.exists_of_findSome?_eq_some h
    exact rank_of_neighbour? hn

/-! ## Significant digits -/

theorem digitsValue_eq (cs : List Char) : digitsValue cs = Nat.ofDigitChars 10 cs 0 := by
  rw [digitsValue, Nat.ofDigitChars_eq_foldl]

namespace Decimal

variable {d : Decimal}

/-- The digits of the coefficient are the significant ones and zeros after them. -/
theorem exists_digits (d : Decimal) :
    ∃ zeros, Nat.toDigits 10 d.coefficient = d.digits ++ List.replicate zeros '0' := by
  set cs := Nat.toDigits 10 d.coefficient with hcs
  have hzeros : (cs.reverse.takeWhile (· == '0')).reverse =
      List.replicate (cs.reverse.takeWhile (· == '0')).length '0' := by
    rw [List.eq_replicate_iff]
    refine ⟨List.length_reverse, ?_⟩
    intro c hc
    simpa using List.mem_takeWhile_imp (List.mem_reverse.mp hc)
  refine ⟨(cs.reverse.takeWhile (· == '0')).length, ?_⟩
  rw [← hzeros, digits, ← List.reverse_append, List.takeWhile_append_dropWhile,
    List.reverse_reverse]

theorem isDigit_of_mem_digits {c : Char} (h : c ∈ d.digits) : c.isDigit = true := by
  obtain ⟨zeros, hzeros⟩ := d.exists_digits
  have hmem : c ∈ Nat.toDigits 10 d.coefficient := by
    rw [hzeros]
    exact List.mem_append_left _ h
  exact Text.isDigit_of_mem_toDigits hmem

theorem digits_ne_nil (h : 0 < d.coefficient) : d.digits ≠ [] := by
  intro hnil
  obtain ⟨zeros, hzeros⟩ := d.exists_digits
  rw [hnil, List.nil_append] at hzeros
  have hfront := Text.head?_toDigits_ne_zero h
  have hlength : 0 < (Nat.toDigits 10 d.coefficient).length := Nat.length_toDigits_pos
  rw [hzeros] at hfront hlength
  cases zeros with
  | zero => simp at hlength
  | succ n => exact hfront rfl

theorem head?_digits (h : 0 < d.coefficient) : d.digits.head? ≠ some '0' := by
  obtain ⟨zeros, hzeros⟩ := d.exists_digits
  have hfront := Text.head?_toDigits_ne_zero h
  rw [hzeros, List.head?_append_of_ne_nil _ (digits_ne_nil h)] at hfront
  exact hfront

/-- The value of a decimal counts its significant digits in the power of ten of the last one. -/
theorem value_digits (d : Decimal) :
    d.value = (⟨digitsValue d.digits, d.leading + 1 - d.digits.length⟩ : Decimal).value := by
  obtain ⟨zeros, hzeros⟩ := d.exists_digits
  have hcoefficient : d.coefficient = digitsValue d.digits * 10 ^ zeros := by
    rw [← Nat.ofDigitChars_ten_toDigits (n := d.coefficient), hzeros, Nat.ofDigitChars_append,
      Nat.ofDigitChars_replicate_zero, digitsValue_eq, Nat.mul_comm]
  have hpower : d.leading + 1 - d.digits.length = zeros + d.power := by
    rw [leading, hzeros, List.length_append, List.length_replicate]
    push_cast
    omega
  rw [value, hcoefficient, hpower, value, zpow_add₀ (by norm_num), zpow_natCast]
  push_cast
  ring

end Decimal

theorem coefficient_shortest_pos {rank : Nat} (h : 0 < rank) : 0 < (shortest rank).coefficient := by
  apply Nat.pos_of_ne_zero
  intro hzero
  have hrank := rank_shortest rank
  rw [Decimal.rank_of_coefficient_zero hzero] at hrank
  omega

end AuthBroker.Binary64
