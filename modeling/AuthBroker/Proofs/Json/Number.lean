import AuthBroker.Document.Display
import AuthBroker.Proofs.Binary64.Shortest
import AuthBroker.Proofs.Json.Grammar

/-! # Written numbers as JSON numbers

An integer is written as a JSON integer (`isNumber_intText`), and a finite number, whatever the layout,
as a JSON number with a point or an exponent that reads back to it (`isNumber_finiteText`). -/

namespace AuthBroker.Json

open Binary64

/-! ## Values of digits -/

theorem digitsValue_append_zeros (digits : List Char) (n : Nat) :
    digitsValue (digits ++ List.replicate n '0') = digitsValue digits * 10 ^ n := by
  rw [digitsValue_eq, digitsValue_eq, Nat.ofDigitChars_append, Nat.ofDigitChars_replicate_zero,
    Nat.mul_comm]

theorem digitsValue_zeros_append (n : Nat) (digits : List Char) :
    digitsValue (List.replicate n '0' ++ digits) = digitsValue digits := by
  rw [digitsValue_eq, digitsValue_eq, Nat.ofDigitChars_append, Nat.ofDigitChars_replicate_zero,
    Nat.mul_zero]

theorem digitsValue_toDigits (n : Nat) : digitsValue (Nat.toDigits 10 n) = n := by
  rw [digitsValue_eq, Nat.ofDigitChars_ten_toDigits]

/-! ## Runs of digits -/

theorem isDigits_toDigits (n : Nat) : IsDigits (Nat.toDigits 10 n) :=
  ⟨Nat.toDigits_ne_nil, fun _ => Text.isDigit_of_mem_toDigits⟩

theorem isDigit_of_mem_zeros {n : Nat} : ∀ c ∈ List.replicate n '0', c.isDigit = true := by
  intro c hc
  rw [List.eq_of_mem_replicate hc]
  rfl

theorem IsDigits.zeros_append {digits : List Char} (h : IsDigits digits) (n : Nat) :
    IsDigits (List.replicate n '0' ++ digits) where
  ne_nil := by simp [h.ne_nil]
  isDigit := List.forall_mem_append.mpr ⟨isDigit_of_mem_zeros, h.isDigit⟩

theorem IsDigits.append_zeros {digits : List Char} (h : IsDigits digits) (n : Nat) :
    IsDigits (digits ++ List.replicate n '0') where
  ne_nil := by simp [h.ne_nil]
  isDigit := List.forall_mem_append.mpr ⟨h.isDigit, isDigit_of_mem_zeros⟩

theorem IsDigits.take {digits : List Char} (h : IsDigits digits) (n : Nat) :
    IsDigits (digits.take (n + 1)) where
  ne_nil := by simp [h.ne_nil]
  isDigit c hc := h.isDigit c (List.mem_of_mem_take hc)

theorem isWhole_zero : IsWhole ['0'] where
  ne_nil := List.cons_ne_nil _ _
  isDigit := List.forall_mem_singleton.mpr rfl
  front _ := rfl

theorem IsDigits.isWhole {digits : List Char} (h : IsDigits digits)
    (hfront : digits.head? ≠ some '0') : IsWhole digits where
  toIsDigits := h
  front hzero := absurd hzero hfront

theorem isWhole_toDigits (n : Nat) : IsWhole (Nat.toDigits 10 n) := by
  by_cases h : n = 0
  · subst h
    exact isWhole_zero
  · exact (isDigits_toDigits n).isWhole (Text.head?_toDigits_ne_zero (Nat.pos_of_ne_zero h))

theorem isNumber_intText (n : Int) : IsNumber (Document.intText n) (.int n) := by
  have hnumber : IsNumber (sign (decide (n < 0)) ++ Nat.toDigits 10 n.natAbs) _ :=
    .integer (isWhole_toDigits n.natAbs)
  rw [integer, digitsValue_toDigits] at hnumber
  by_cases hneg : n < 0
  · have habs : -(n.natAbs : Int) = n := by omega
    simp only [sign, hneg, decide_true, if_true, habs] at hnumber
    simpa only [Document.intText, hneg, if_true] using hnumber
  · have habs : (n.natAbs : Int) = n := by omega
    simp only [sign, hneg, decide_false, Bool.false_eq_true, if_false, habs] at hnumber
    simpa only [Document.intText, hneg, if_false] using hnumber

theorem isExponent_exponentText (width : Nat) (power : Int) :
    IsExponent ('e' :: exponentText width power) power := by
  have hmark : 'e' ∈ exponentMarks := by decide
  have hdigits := (isDigits_toDigits power.natAbs).zeros_append
    (width - (Nat.toDigits 10 power.natAbs).length)
  have hvalue := digitsValue_zeros_append (width - (Nat.toDigits 10 power.natAbs).length)
    (Nat.toDigits 10 power.natAbs)
  rw [digitsValue_toDigits] at hvalue
  by_cases hneg : power < 0
  · have habs : -(power.natAbs : Int) = power := by omega
    have hminus := IsExponent.minus hmark hdigits
    rw [hvalue, habs] at hminus
    simpa [exponentText, hneg] using hminus
  · have habs : (power.natAbs : Int) = power := by omega
    have hplus := IsExponent.plus hmark hdigits
    rw [hvalue, habs] at hplus
    simpa [exponentText, hneg] using hplus

/-! ## Written decimals -/

/-- A text without sign, with a point or an exponent, that writes a value. -/
inductive Writes : List Char → ℚ → Prop
  | intro {whole point fraction exponent : List Char} {power : Int} : IsWhole whole →
      IsFraction point fraction → IsExponent exponent power → point ++ exponent ≠ [] →
      Writes (whole ++ (point ++ exponent))
        (Decimal.value ⟨digitsValue (whole ++ fraction), power - fraction.length⟩)

theorem Writes.isNumber {text : List Char} {d : Decimal} {rank : Fin rankCount}
    (h : Writes text d.value) (hrank : d.rank = rank) (negative : Bool) :
    IsNumber (sign negative ++ text) (.float (.finite negative rank)) := by
  generalize hvalue : d.value = x at h
  cases h with
  | @intro whole point fraction exponent power hwhole hpoint hexponent hne =>
    have hread : nearest negative whole fraction power = .float (.finite negative rank) := by
      rw [nearest, Decimal.toBinary64_of_rank ((Decimal.rank_congr hvalue).symm.trans hrank)]
    rw [← hread]
    exact .nearest hwhole hpoint hexponent hne

/-- The value of significant digits whose first stands at a power of ten. -/
def placed (digits : List Char) (leading : Int) : ℚ :=
  Decimal.value ⟨digitsValue digits, leading + 1 - digits.length⟩

section
variable {digits : List Char} {leading : Int}

/-- Below one, zeros stand between the point and the digits. -/
theorem writes_below (h : IsDigits digits) (hleading : leading < 0) :
    Writes ('0' :: '.' :: (List.replicate (-leading - 1).toNat '0' ++ digits))
      (placed digits leading) := by
  generalize hn : (-leading - 1).toNat = n
  have hwrites := Writes.intro isWhole_zero (.present (h.zeros_append n)) .absent (by simp)
  have hvalue : digitsValue (['0'] ++ (List.replicate n '0' ++ digits)) = digitsValue digits := by
    rw [← List.append_assoc]
    exact digitsValue_zeros_append (n + 1) digits
  have hpower : (0 : Int) - (List.replicate n '0' ++ digits).length =
      leading + 1 - digits.length := by
    rw [List.length_append, List.length_replicate]
    push_cast
    omega
  rw [List.append_nil, hvalue, hpower] at hwrites
  exact hwrites

/-- From one on, the digits reach the unit, if need be with zeros after them. -/
theorem writes_above (h : IsDigits digits) (hfront : digits.head? ≠ some '0') (n : Nat) :
    Writes (digits.take (n + 1) ++ List.replicate (n + 1 - digits.length) '0' ++
      '.' :: (if (digits.drop (n + 1)).isEmpty then ['0'] else digits.drop (n + 1)))
      (placed digits n) := by
  by_cases hlength : digits.length ≤ n + 1
  · obtain ⟨k, hk⟩ := Nat.exists_eq_add_of_le hlength
    have hzeros : n + 1 - digits.length = k := by omega
    rw [List.take_of_length_le hlength, List.drop_of_length_le hlength, hzeros]
    have hwhole : IsWhole (digits ++ List.replicate k '0') := by
      apply (h.append_zeros k).isWhole
      rwa [List.head?_append_of_ne_nil _ h.ne_nil]
    have hwrites := Writes.intro hwhole (.present isWhole_zero.toIsDigits) .absent (by simp)
    have hdigits : digitsValue (digits ++ List.replicate k '0' ++ ['0']) =
        digitsValue digits * 10 ^ (k + 1) := by
      rw [← digitsValue_append_zeros, List.replicate_succ', List.append_assoc]
    have hplaced : placed digits n = digitsValue digits * 10 ^ k := by
      have hpower : (n : Int) + 1 - digits.length = k := by omega
      rw [placed, hpower, Decimal.value, zpow_natCast]
    have hvalue : Decimal.value
        ⟨digitsValue (digits ++ List.replicate k '0' ++ ['0']), 0 - (['0'] : List Char).length⟩ =
        placed digits n := by
      rw [hplaced, hdigits, Decimal.value]
      norm_num [pow_succ]
      ring
    rw [List.append_nil, hvalue] at hwrites
    exact hwrites
  · have hzeros : n + 1 - digits.length = 0 := by omega
    have hdrop : digits.drop (n + 1) ≠ [] := by
      simp only [ne_eq, List.drop_eq_nil_iff]
      omega
    have hempty : (digits.drop (n + 1)).isEmpty = false := by simpa using hdrop
    have hwhole : IsWhole (digits.take (n + 1)) := by
      apply (h.take n).isWhole
      rwa [List.head?_take, if_neg (Nat.succ_ne_zero n)]
    have hfraction : IsDigits (digits.drop (n + 1)) :=
      ⟨hdrop, fun c hc => h.isDigit c (List.mem_of_mem_drop hc)⟩
    have hwrites := Writes.intro hwhole (.present hfraction) .absent (by simp)
    have hpower : (0 : Int) - (digits.drop (n + 1)).length = n + 1 - digits.length := by
      rw [List.length_drop]
      omega
    rw [List.append_nil, List.take_append_drop, hpower] at hwrites
    rw [hzeros, hempty, List.replicate_zero, List.append_nil]
    exact hwrites

theorem isFraction_of_isDigit {fraction : List Char} (h : ∀ c ∈ fraction, c.isDigit = true) :
    IsFraction (if fraction.isEmpty then [] else '.' :: fraction) fraction := by
  cases fraction with
  | nil => exact .absent
  | cons c more => exact .present ⟨by simp, h⟩

/-- With an exponent, one digit stands in front of the point. -/
theorem writes_scaled (h : IsDigits digits) (hfront : digits.head? ≠ some '0') (width : Nat) :
    Writes (digits.take 1 ++ (if (digits.drop 1).isEmpty then [] else '.' :: digits.drop 1) ++
      'e' :: exponentText width leading) (placed digits leading) := by
  have hwhole : IsWhole (digits.take 1) := by
    apply (h.take 0).isWhole
    rwa [List.head?_take, if_neg Nat.one_ne_zero]
  have hpoint := isFraction_of_isDigit fun c hc => h.isDigit c (List.mem_of_mem_drop (i := 1) hc)
  have hwrites := Writes.intro hwhole hpoint (isExponent_exponentText width leading) (by simp)
  have hpower : leading - (digits.drop 1).length = leading + 1 - digits.length := by
    have hlength := List.length_pos_iff.mpr h.ne_nil
    rw [List.length_drop]
    omega
  rw [List.take_append_drop, hpower, ← List.append_assoc] at hwrites
  exact hwrites

theorem writes_place (layout : Layout) (h : IsDigits digits) (hfront : digits.head? ≠ some '0')
    (leading : Int) : Writes (layout.place digits leading) (placed digits leading) := by
  rw [Layout.place]
  split
  · split
    · next hneg => exact writes_below h hneg
    · next hneg =>
      have hcast : (leading.toNat : Int) = leading := by omega
      have hwrites := writes_above h hfront leading.toNat
      rw [hcast] at hwrites
      exact hwrites
  · exact writes_scaled h hfront layout.exponentWidth

end

theorem isDigits_digits {d : Decimal} (h : 0 < d.coefficient) : IsDigits d.digits :=
  ⟨Decimal.digits_ne_nil h, fun _ => Decimal.isDigit_of_mem_digits⟩

theorem writes_zero : Writes ['0', '.', '0'] (Decimal.value ⟨0, 0⟩) := by
  have hwrites := Writes.intro isWhole_zero (.present isWhole_zero.toIsDigits) .absent (by simp)
  have hvalue : Decimal.value ⟨digitsValue ['0', '0'], 0 - (['0'] : List Char).length⟩ =
      Decimal.value ⟨0, 0⟩ := by
    simp [Decimal.value, digitsValue]
  rw [← hvalue]
  exact hwrites

/-- A finite number is written as a JSON number that reads back to it. -/
theorem isNumber_finiteText (layout : Layout) (negative : Bool) (rank : Fin rankCount) :
    IsNumber (layout.finiteText negative rank) (.float (.finite negative rank)) := by
  rw [Layout.finiteText]
  by_cases hzero : (rank : Nat) = 0
  · rw [if_pos hzero]
    apply writes_zero.isNumber
    rw [Decimal.rank_of_coefficient_zero rfl, hzero]
  · have hpos := coefficient_shortest_pos (Nat.pos_of_ne_zero hzero)
    have hwrites := writes_place layout (isDigits_digits hpos) (Decimal.head?_digits hpos)
      (shortest rank).leading
    rw [if_neg hzero]
    rw [placed, ← Decimal.value_digits] at hwrites
    exact hwrites.isNumber (rank_shortest rank) negative

end AuthBroker.Json
