import AuthBroker.Binary64.Decimal
import Mathlib.Algebra.Order.Field.Power
import Mathlib.Data.Int.Log
import Mathlib.Data.Rat.Floor
import Mathlib.Tactic.FieldSimp
import Mathlib.Tactic.Linarith
import Mathlib.Tactic.NormNum
import Mathlib.Tactic.Positivity
import Mathlib.Tactic.Ring

/-! # The nearest number

The rank nearest to a fraction depends on the value of the fraction alone (`nearestRank_congr`), and
the rank nearest to the value of a rank is that rank (`nearestRank_ratio`). Reading a decimal leaves a
far power of ten out of account, which changes nothing (`Decimal.toBinary64_eq`). -/

namespace AuthBroker.Binary64

/-! ## Values of fractions -/

def value (fraction : Nat × Nat) : ℚ :=
  fraction.1 / fraction.2

section
variable {base p q : Nat}

theorem scale_snd_pos (hbase : 0 < base) (hq : 0 < q) (power : Int) :
    0 < (scale base p q power).2 := by
  rw [scale]
  split
  · exact hq
  · exact Nat.mul_pos hq (Nat.pow_pos hbase)

theorem value_scale (hbase : 0 < base) (power : Int) :
    value (scale base p q power) = (p / q : ℚ) * (base : ℚ) ^ power := by
  have hne : (base : ℚ) ≠ 0 := by positivity
  by_cases h : 0 ≤ power
  · obtain ⟨n, rfl⟩ := Int.eq_ofNat_of_zero_le h
    simp [value, scale]
    ring
  · obtain ⟨n, hn⟩ := Int.eq_ofNat_of_zero_le (show 0 ≤ -power by omega)
    obtain rfl : power = -(n : Int) := by omega
    simp only [value, scale, if_neg h, neg_neg, Int.toNat_natCast, Nat.pow_eq, Nat.cast_mul,
      Nat.cast_pow, zpow_neg, zpow_natCast]
    rw [div_mul_eq_div_div, div_eq_mul_inv _ ((base : ℚ) ^ n)]

theorem reaches_iff (hbase : 0 < base) (hq : 0 < q) (power : Int) :
    reaches base p q power = true ↔ (base : ℚ) ^ power ≤ p / q := by
  have hvalue := value_scale (p := 1) (q := 1) hbase power
  have hbottom : (0 : ℚ) < (scale base 1 1 power).2 := by
    exact_mod_cast scale_snd_pos hbase Nat.one_pos power
  have hpos : (0 : ℚ) < q := by exact_mod_cast hq
  simp only [value, Nat.cast_one, div_one, one_mul] at hvalue
  rw [← hvalue, div_le_div_iff₀ hbottom hpos, reaches]
  simp only [decide_eq_true_eq]
  norm_cast

end

/-! ## The integer part of a logarithm -/

theorem floorLog2_eq_log {p q : Nat} (hp : 0 < p) (hq : 0 < q) :
    floorLog2 p q = Int.log 2 (p / q : ℚ) := by
  have hpq : (0 : ℚ) < p / q := by positivity
  have hlower : (2 : ℚ) ^ p.log2 ≤ p := by exact_mod_cast Nat.log2_self_le hp.ne'
  have hupper : (p : ℚ) < 2 ^ (p.log2 + 1) := by exact_mod_cast Nat.lt_log2_self
  have hlower' : (2 : ℚ) ^ q.log2 ≤ q := by exact_mod_cast Nat.log2_self_le hq.ne'
  have hupper' : (q : ℚ) < 2 ^ (q.log2 + 1) := by exact_mod_cast Nat.lt_log2_self
  -- the logarithms of numerator and denominator tell that of the fraction up to one
  have habove : Int.log 2 (p / q : ℚ) < (p.log2 : Int) - q.log2 + 1 := by
    rw [← Int.lt_zpow_iff_log_lt (by decide) hpq, div_lt_iff₀ (by positivity)]
    calc (p : ℚ) < 2 ^ (p.log2 + 1) := hupper
      _ = 2 ^ ((p.log2 : Int) - q.log2 + 1) * 2 ^ q.log2 := by
        rw [← zpow_natCast, ← zpow_natCast, ← zpow_add₀ (by norm_num)]
        congr 1
        push_cast
        omega
      _ ≤ 2 ^ ((p.log2 : Int) - q.log2 + 1) * q := by gcongr
  have hbelow : (p.log2 : Int) - q.log2 - 1 ≤ Int.log 2 (p / q : ℚ) := by
    rw [← Int.zpow_le_iff_le_log (by decide) hpq, le_div_iff₀ (by positivity)]
    calc (2 : ℚ) ^ ((p.log2 : Int) - q.log2 - 1) * q
        ≤ 2 ^ ((p.log2 : Int) - q.log2 - 1) * 2 ^ (q.log2 + 1) := by gcongr
      _ = 2 ^ p.log2 := by
        rw [← zpow_natCast, ← zpow_natCast, ← zpow_add₀ (by norm_num)]
        congr 1
        push_cast
        omega
      _ ≤ p := hlower
  have hguess : reaches 2 p q ((p.log2 : Int) - q.log2) = true ↔
      (p.log2 : Int) - q.log2 ≤ Int.log 2 (p / q : ℚ) := by
    rw [reaches_iff Nat.two_pos hq, Int.zpow_le_iff_le_log (by decide) hpq]
  simp only [floorLog2]
  split
  · next h =>
    have := hguess.mp h
    omega
  · next h =>
    have := mt hguess.mpr h
    omega

/-! ## The nearest integer -/

theorem roundHalfEven_scale {k : Nat} (hk : 0 < k) (p q : Nat) :
    roundHalfEven (k * p) (k * q) = roundHalfEven p q := by
  have hlt : 2 * (k * (p % q)) < k * q ↔ 2 * (p % q) < q := by
    rw [Nat.mul_left_comm, Nat.mul_lt_mul_left hk]
  have heq : 2 * (k * (p % q)) = k * q ↔ 2 * (p % q) = q := by
    rw [Nat.mul_left_comm, Nat.mul_right_inj hk.ne']
  simp only [roundHalfEven, Nat.mul_div_mul_left _ _ hk, Nat.mul_mod_mul_left, hlt, beq_iff_eq, heq,
    Bool.or_eq_true, Bool.and_eq_true, decide_eq_true_eq]

theorem roundHalfEven_mul_self {q : Nat} (hq : 0 < q) (n : Nat) : roundHalfEven (n * q) q = n := by
  simp [roundHalfEven, hq]

theorem roundHalfEven_eq_zero {p q : Nat} (h : 2 * p < q) : roundHalfEven p q = 0 := by
  have hlt : p < q := by omega
  simp [roundHalfEven, Nat.div_eq_of_lt hlt, Nat.mod_eq_of_lt hlt, h]

theorem roundHalfEven_congr {f g : Nat × Nat} (hf : 0 < f.2) (hg : 0 < g.2)
    (h : value f = value g) : roundHalfEven f.1 f.2 = roundHalfEven g.1 g.2 := by
  have hcross : f.1 * g.2 = g.1 * f.2 := by
    rw [value, value, div_eq_div_iff (by positivity) (by positivity)] at h
    exact_mod_cast h
  calc roundHalfEven f.1 f.2 = roundHalfEven (g.2 * f.1) (g.2 * f.2) :=
        (roundHalfEven_scale hg f.1 f.2).symm
    _ = roundHalfEven (f.2 * g.1) (f.2 * g.2) := by
        rw [Nat.mul_comm g.2 f.1, hcross, Nat.mul_comm g.1, Nat.mul_comm g.2 f.2]
    _ = roundHalfEven g.1 g.2 := roundHalfEven_scale hf g.1 g.2

/-! ## The nearest rank -/

/-- The power of two by which the significand of the nearest rank counts. -/
def unitPower (x : ℚ) : Int :=
  max (-1074) (Int.log 2 x - 52)

theorem nearestRank_eq {p q : Nat} (hp : 0 < p) (hq : 0 < q) :
    nearestRank p q = (unitPower (p / q) + 1074).toNat * binade +
      roundHalfEven (scale 2 p q (-unitPower (p / q))).1 (scale 2 p q (-unitPower (p / q))).2 := by
  rw [nearestRank, if_neg hp.ne', floorLog2_eq_log hp hq]
  rfl

theorem nearestRank_zero (q : Nat) : nearestRank 0 q = 0 := by
  rw [nearestRank, if_pos rfl]

/-- The nearest rank depends on the value alone. -/
theorem nearestRank_congr {f g : Nat × Nat} (hf : 0 < f.2) (hg : 0 < g.2)
    (h : value f = value g) : nearestRank f.1 f.2 = nearestRank g.1 g.2 := by
  have hzero : f.1 = 0 ↔ g.1 = 0 := by
    have hleft : value f = 0 ↔ f.1 = 0 := by simp [value, hf.ne']
    have hright : value g = 0 ↔ g.1 = 0 := by simp [value, hg.ne']
    rw [← hleft, h, hright]
  by_cases hp : f.1 = 0
  · rw [hp, hzero.mp hp, nearestRank_zero, nearestRank_zero]
  · have hp' : g.1 ≠ 0 := mt hzero.mpr hp
    rw [nearestRank_eq (Nat.pos_of_ne_zero hp) hf, nearestRank_eq (Nat.pos_of_ne_zero hp') hg]
    rw [value, value] at h
    rw [h]
    congr 1
    apply roundHalfEven_congr (scale_snd_pos Nat.two_pos hf _) (scale_snd_pos Nat.two_pos hg _)
    rw [value_scale Nat.two_pos, value_scale Nat.two_pos, h]

/-- When the value counted in the unit of the nearest rank is an integer, nothing is rounded. -/
theorem nearestRank_of_value {p q n : Nat} (hp : 0 < p) (hq : 0 < q)
    (h : (p / q : ℚ) = n * 2 ^ unitPower (p / q)) :
    nearestRank p q = (unitPower (p / q) + 1074).toNat * binade + n := by
  rw [nearestRank_eq hp hq]
  congr 1
  have hbottom := scale_snd_pos (p := p) Nat.two_pos hq (-unitPower (p / q))
  have hvalue : value (scale 2 p q (-unitPower (p / q))) = value (n, 1) := by
    rw [value_scale Nat.two_pos, Nat.cast_ofNat, zpow_neg, ← div_eq_mul_inv, value, Nat.cast_one,
      div_one, div_eq_iff (by positivity)]
    exact h
  rw [roundHalfEven_congr hbottom Nat.one_pos hvalue]
  simpa using roundHalfEven_mul_self Nat.one_pos n

/-! ## The rank nearest to the value of a rank -/

theorem value_ratio (rank : Nat) :
    value (ratio rank) = significand rank * (2 : ℚ) ^ exponent rank := by
  rw [ratio, value_scale Nat.two_pos, Nat.cast_one, div_one, Nat.cast_ofNat]

theorem ratio_snd_pos (rank : Nat) : 0 < (ratio rank).2 :=
  scale_snd_pos Nat.two_pos Nat.one_pos _

theorem significand_pos {rank : Nat} (h : 0 < rank) : 0 < significand rank := by
  rw [significand]
  split
  · exact h
  · exact Nat.add_pos_left (by decide) _

theorem significand_lt (rank : Nat) : significand rank < 2 * binade := by
  rw [significand]
  split
  · omega
  · have := Nat.mod_lt rank (show 0 < binade by decide)
    omega

theorem ratio_fst_pos {rank : Nat} (h : 0 < rank) : 0 < (ratio rank).1 := by
  rw [ratio, scale]
  split
  · exact Nat.mul_pos (significand_pos h) (Nat.pow_pos Nat.two_pos)
  · exact significand_pos h

theorem binade_eq : (binade : ℚ) = 2 ^ (52 : Int) := by
  norm_num [binade]

theorem unitPower_ratio {rank : Nat} (h : 0 < rank) :
    unitPower (value (ratio rank)) = exponent rank := by
  have hs : (0 : ℚ) < significand rank := by exact_mod_cast significand_pos h
  have hpos : (0 : ℚ) < value (ratio rank) := by
    rw [value_ratio]
    positivity
  have hbelow : Int.log 2 (value (ratio rank)) < exponent rank + 53 := by
    rw [← Int.lt_zpow_iff_log_lt (by decide) hpos, value_ratio]
    have hlt : (significand rank : ℚ) < 2 * binade := by exact_mod_cast significand_lt rank
    calc (significand rank : ℚ) * 2 ^ exponent rank < 2 * binade * 2 ^ exponent rank := by gcongr
      _ = (2 : Nat) ^ (exponent rank + 53) := by
        rw [binade_eq, Nat.cast_ofNat, zpow_add₀ (by norm_num)]
        ring
  rw [unitPower]
  by_cases hlt : rank < binade
  · have hexponent : exponent rank = -1074 := by rw [exponent, if_pos hlt]
    omega
  · have hexponent : exponent rank = (rank / binade : Nat) - 1075 := by rw [exponent, if_neg hlt]
    have hcount : 1 ≤ rank / binade := (Nat.one_le_div_iff (by decide)).mpr (by omega)
    have habove : exponent rank + 52 ≤ Int.log 2 (value (ratio rank)) := by
      rw [← Int.zpow_le_iff_le_log (by decide) hpos, value_ratio]
      have hle : (binade : ℚ) ≤ significand rank := by
        have : binade ≤ significand rank := by
          rw [significand, if_neg hlt]
          omega
        exact_mod_cast this
      calc ((2 : Nat) : ℚ) ^ (exponent rank + 52) = binade * 2 ^ exponent rank := by
            rw [binade_eq, Nat.cast_ofNat, zpow_add₀ (by norm_num)]
            ring
        _ ≤ significand rank * 2 ^ exponent rank := by gcongr
    omega

theorem exponent_add_significand (rank : Nat) :
    (exponent rank + 1074).toNat * binade + significand rank = rank := by
  rw [exponent, significand]
  by_cases h : rank < binade
  · simp [if_pos h]
  · have hcount : 1 ≤ rank / binade := (Nat.one_le_div_iff (by decide)).mpr (by omega)
    have hsum := Nat.div_add_mod rank binade
    obtain ⟨n, hn⟩ := Nat.exists_eq_add_of_le hcount
    have hunit : ((rank / binade : Nat) - 1075 + 1074 : Int).toNat = n := by omega
    rw [if_neg h, if_neg h, hunit]
    rw [hn, Nat.mul_add, Nat.mul_one, Nat.mul_comm] at hsum
    omega

/-- The rank nearest to the value of a rank is that rank. -/
theorem nearestRank_ratio (rank : Nat) : nearestRank (ratio rank).1 (ratio rank).2 = rank := by
  by_cases h : rank = 0
  · subst h
    rfl
  · have hpos := Nat.pos_of_ne_zero h
    have hunit : unitPower ((ratio rank).1 / (ratio rank).2) = exponent rank := unitPower_ratio hpos
    have hexact := nearestRank_of_value (n := significand rank) (ratio_fst_pos hpos)
      (ratio_snd_pos rank) (by rw [hunit]; exact value_ratio rank)
    rw [hexact, hunit, exponent_add_significand]

/-! ## Decimals -/

namespace Decimal

def value (d : Decimal) : ℚ :=
  d.coefficient * 10 ^ d.power

theorem value_scale_ten (coefficient : Nat) (power : Int) :
    Binary64.value (scale 10 coefficient 1 power) = coefficient * 10 ^ power := by
  rw [Binary64.value_scale (by decide), Nat.cast_one, div_one, Nat.cast_ofNat]

theorem rank_eq_of_value {d : Decimal} {f : Nat × Nat} (hf : 0 < f.2)
    (h : d.value = Binary64.value f) : d.rank = nearestRank f.1 f.2 := by
  rw [rank]
  apply nearestRank_congr (scale_snd_pos (by decide) Nat.one_pos _) hf
  rw [value_scale_ten]
  exact h

/-- Decimals of one value read alike. -/
theorem rank_congr {d e : Decimal} (h : d.value = e.value) : d.rank = e.rank := by
  apply rank_eq_of_value (scale_snd_pos (by decide) Nat.one_pos _)
  rw [value_scale_ten]
  exact h

theorem rank_of_coefficient_zero {d : Decimal} (h : d.coefficient = 0) : d.rank = 0 := by
  have hvalue : d.value = Binary64.value (0, 1) := by simp [value, Binary64.value, h]
  rw [rank_eq_of_value Nat.one_pos hvalue, nearestRank_zero]

theorem value_pos {d : Decimal} (h : 0 < d.coefficient) : 0 < d.value := by
  rw [value]
  positivity

/-! ## Far powers -/

theorem rank_eq {d : Decimal} (h : 0 < d.coefficient) :
    ∃ f : Nat × Nat, 0 < f.2 ∧ Binary64.value f = d.value * 2 ^ (-unitPower d.value) ∧
      d.rank = (unitPower d.value + 1074).toNat * binade + roundHalfEven f.1 f.2 := by
  have hvalue : Binary64.value (scale 10 d.coefficient 1 d.power) = d.value := value_scale_ten _ _
  have hbottom := scale_snd_pos (p := d.coefficient) (show 0 < 10 by decide) Nat.one_pos d.power
  rw [rank]
  generalize scale 10 d.coefficient 1 d.power = f at hvalue hbottom
  have htop : 0 < f.1 := by
    have hpos : 0 < Binary64.value f := hvalue ▸ value_pos h
    rw [Binary64.value, div_pos_iff_of_pos_right (by exact_mod_cast hbottom)] at hpos
    exact_mod_cast hpos
  have hunit : unitPower (f.1 / f.2) = unitPower d.value := congrArg unitPower hvalue
  refine ⟨scale 2 f.1 f.2 (-unitPower d.value), ?_, ?_, ?_⟩
  · exact scale_snd_pos Nat.two_pos hbottom _
  · rw [value_scale Nat.two_pos, Nat.cast_ofNat, ← hvalue]
    rfl
  · rw [← hunit]
    exact nearestRank_eq htop hbottom

theorem two_pow_le : (2 : ℚ) ^ 1300 ≤ 10 ^ farPower :=
  calc (2 : ℚ) ^ 1300 = (2 ^ 13) ^ 100 := by rw [← pow_mul]
    _ ≤ (10 ^ 4) ^ 100 := by
      gcongr
      norm_num
    _ = 10 ^ farPower := by rw [← pow_mul, farPower]

/-- From the far power of ten on, the rank is none of a finite number. -/
theorem rankCount_le_rank {d : Decimal} (h : (10 : ℚ) ^ farPower ≤ d.value) :
    rankCount ≤ d.rank := by
  have hpos : 0 < d.value := lt_of_lt_of_le (by positivity) h
  have hcoefficient : 0 < d.coefficient := by
    apply Nat.pos_of_ne_zero
    intro hzero
    simp [value, hzero] at hpos
  have hlog : 1300 ≤ Int.log 2 d.value := by
    rw [← Int.zpow_le_iff_le_log (by decide) hpos]
    exact_mod_cast two_pow_le.trans h
  have hunit : 2047 ≤ (unitPower d.value + 1074).toNat := by
    rw [unitPower]
    omega
  obtain ⟨f, -, -, hrank⟩ := rank_eq hcoefficient
  have hbinades := Nat.mul_le_mul_right binade hunit
  rw [hrank, rankCount]
  omega

/-- What is below the inverse of the far power of ten reads as zero. -/
theorem rank_eq_zero {d : Decimal} (h : d.value * 10 ^ farPower < 1) : d.rank = 0 := by
  by_cases hzero : d.coefficient = 0
  · exact rank_of_coefficient_zero hzero
  · have hcoefficient := Nat.pos_of_ne_zero hzero
    have hpos := value_pos hcoefficient
    have hsmall : d.value * 2 ^ 1300 < 1 :=
      lt_of_le_of_lt (mul_le_mul_of_nonneg_left two_pow_le hpos.le) h
    have hlog : Int.log 2 d.value < -1300 := by
      rw [← Int.lt_zpow_iff_log_lt (by decide) hpos, Nat.cast_ofNat, zpow_neg,
        lt_inv_comm₀ hpos (by positivity), ← one_div, lt_div_iff₀ hpos, mul_comm]
      exact_mod_cast hsmall
    have hunit : unitPower d.value = -1074 := by
      rw [unitPower]
      omega
    obtain ⟨f, hbottom, hvalue, hrank⟩ := rank_eq hcoefficient
    have hhalf : 2 * f.1 < f.2 := by
      have hless : 2 * Binary64.value f < 1 := by
        rw [hvalue, hunit, neg_neg]
        calc 2 * (d.value * 2 ^ (1074 : Int)) = d.value * 2 ^ (1074 + 1 : Int) := by
              rw [zpow_add_one₀ (by norm_num), mul_left_comm, mul_comm 2]
          _ ≤ d.value * 2 ^ (1300 : Int) :=
            mul_le_mul_of_nonneg_left (zpow_le_zpow_right₀ (by norm_num) (by decide)) hpos.le
          _ < 1 := by exact_mod_cast hsmall
      rw [Binary64.value, ← mul_div_assoc, div_lt_one (by exact_mod_cast hbottom)] at hless
      exact_mod_cast hless
    rw [hrank, hunit, roundHalfEven_eq_zero hhalf]
    rfl

/-- A power of ten from which down a decimal is nearest to zero. -/
def lowest (d : Decimal) : Int :=
  -((Nat.toDigits 10 d.coefficient).length + farPower : Nat)

theorem le_value {d : Decimal} (h : 0 < d.coefficient) (hpower : (farPower : Int) ≤ d.power) :
    (10 : ℚ) ^ farPower ≤ d.value := by
  have hone : (1 : ℚ) ≤ d.coefficient := by exact_mod_cast h
  calc (10 : ℚ) ^ farPower = 1 * 10 ^ (farPower : Int) := by rw [one_mul, zpow_natCast]
    _ ≤ d.coefficient * 10 ^ d.power :=
      mul_le_mul hone (zpow_le_zpow_right₀ (by norm_num) hpower) (by positivity) (by positivity)

theorem value_lt {d : Decimal} (h : d.power ≤ d.lowest) : d.value * 10 ^ farPower < 1 := by
  rw [lowest] at h
  have hlength : d.coefficient < 10 ^ (Nat.toDigits 10 d.coefficient).length :=
    (Nat.length_toDigits_le_iff (by decide) Nat.length_toDigits_pos).mp le_rfl
  generalize (Nat.toDigits 10 d.coefficient).length = n at h hlength
  have hcoefficient : (d.coefficient : ℚ) < 10 ^ n := by exact_mod_cast hlength
  calc d.value * 10 ^ farPower = d.coefficient * 10 ^ (d.power + farPower) := by
        rw [value, mul_assoc, zpow_add₀ (by norm_num), zpow_natCast]
    _ ≤ d.coefficient * 10 ^ (-n : Int) := by
      apply mul_le_mul_of_nonneg_left _ (by positivity)
      apply zpow_le_zpow_right₀ (by norm_num)
      push_cast at h
      omega
    _ < 10 ^ n * 10 ^ (-n : Int) := by gcongr
    _ = 1 := by rw [zpow_neg, zpow_natCast, mul_inv_cancel₀ (by positivity)]

/-- The decimal with its power kept within the far ones. -/
def kept (d : Decimal) : Decimal :=
  ⟨d.coefficient, max d.lowest (min farPower d.power)⟩

theorem rank_kept (d : Decimal) :
    d.kept.rank = d.rank ∨ rankCount ≤ d.kept.rank ∧ rankCount ≤ d.rank := by
  have hkept : d.kept.power = max d.lowest (min farPower d.power) := rfl
  have hlowest : d.lowest ≤ 0 := by
    rw [lowest]
    omega
  by_cases hzero : d.coefficient = 0
  · left
    rw [rank_of_coefficient_zero hzero, rank_of_coefficient_zero (d := d.kept) hzero]
  by_cases hfar : (farPower : Int) ≤ d.power
  · have hpos := Nat.pos_of_ne_zero hzero
    exact .inr ⟨rankCount_le_rank (le_value (d := d.kept) hpos (by omega)),
      rankCount_le_rank (le_value hpos hfar)⟩
  left
  by_cases hlow : d.power ≤ d.lowest
  · have hlow' : d.kept.power ≤ d.kept.lowest := by
      have hsame : d.kept.lowest = d.lowest := rfl
      omega
    rw [rank_eq_zero (value_lt hlow), rank_eq_zero (value_lt hlow')]
  · have hpower : d.kept.power = d.power := by omega
    rw [rank, rank, hpower]
    rfl

/-- Reading a decimal gives the number nearest to it, however far its power of ten. -/
theorem toBinary64_eq (negative : Bool) (d : Decimal) :
    d.toBinary64 negative =
      if h : d.rank < rankCount then .finite negative ⟨d.rank, h⟩ else .infinite negative := by
  have hread : d.toBinary64 negative =
      if h : d.kept.rank < rankCount then .finite negative ⟨d.kept.rank, h⟩
      else .infinite negative := rfl
  rw [hread]
  rcases rank_kept d with hsame | ⟨hkept, hrank⟩
  · simp only [hsame]
  · rw [dif_neg (by omega), dif_neg (by omega)]

theorem toBinary64_of_rank {d : Decimal} {rank : Fin rankCount} (h : d.rank = rank)
    (negative : Bool) : d.toBinary64 negative = .finite negative rank := by
  have hlt : d.rank < rankCount := h ▸ rank.isLt
  rw [toBinary64_eq, dif_pos hlt]
  simp [h]

end Decimal

end AuthBroker.Binary64
