import AuthBroker.Document.Display
import AuthBroker.Proofs.Text.Integer
import Mathlib.Algebra.Order.Ring.Nat

/-! # Integers written in decimal

The decimal digits of a number are a run of digits with the number as its value, and the first of
them is no zero unless it stands alone. A run of digits is below the power of ten that its length
tells, so the written integers of at most 4300 digits denote exactly the integers below `10 ^ 4300`,
and each of these is read back from its own decimal form (`isInteger_intText`). -/

namespace AuthBroker.Text

/-! ## Digits -/

theorem digitValue?_of_isDigit {c : Char} (h : c.isDigit = true) :
    digitValue? c = some (c.toNat - '0'.toNat) := by
  have hrange : 48 ≤ c.toNat ∧ c.toNat ≤ 57 := by
    simp only [Char.isDigit, Bool.and_eq_true, decide_eq_true_eq] at h
    exact ⟨UInt32.le_iff_toNat_le.mp h.1, UInt32.le_iff_toNat_le.mp h.2⟩
  -- the zero of this script is the first one of the list
  have hzeros : digitZeros = 0x30 :: digitZeros.tail := rfl
  have hfound : digitZeros.find? (fun first => first ≤ c.toNat && c.toNat < first + 10) =
      some 0x30 := by
    rw [hzeros]
    apply List.find?_cons_of_pos
    simp only [Bool.and_eq_true, decide_eq_true_eq]
    omega
  rw [digitValue?, hfound]
  rfl

theorem digitValue?_lt {c : Char} {d : Nat} (h : digitValue? c = some d) : d < 10 := by
  obtain ⟨first, hfirst, rfl⟩ := Option.map_eq_some_iff.mp h
  have hrange := List.find?_some hfirst
  simp only [Bool.and_eq_true, decide_eq_true_eq] at hrange
  omega

/-! ## Runs of digits -/

/-- The digits of a run one by one. -/
def digitValues (cs : List Char) : List Nat :=
  cs.map fun c => c.toNat - '0'.toNat

theorem ofDigits_digitValues (cs : List Char) :
    ofDigits 10 (digitValues cs) = Nat.ofDigitChars 10 cs 0 := by
  rw [ofDigits, digitValues, List.foldl_map, Nat.ofDigitChars_eq_foldl]

theorem digitRun_of_isDigit {cs : List Char} (hne : cs ≠ []) (h : ∀ c ∈ cs, c.isDigit = true) :
    DigitRun digitValue? cs (digitValues cs) := by
  induction cs with
  | nil => exact absurd rfl hne
  | cons c rest ih =>
    have hc := digitValue?_of_isDigit (h c List.mem_cons_self)
    by_cases hrest : rest = []
    · subst hrest
      exact .last hc
    · exact .next hc (ih hrest fun other hother => h other (List.mem_cons_of_mem _ hother))

theorem DigitRun.lt {cs : List Char} {ds : List Nat} (h : DigitRun digitValue? cs ds) :
    ∀ d ∈ ds, d < 10 := by
  induction h with
  | last hc => simpa using digitValue?_lt hc
  | next hc _ ih =>
    rw [List.forall_mem_cons]
    exact ⟨digitValue?_lt hc, ih⟩
  | underscore hc _ ih =>
    rw [List.forall_mem_cons]
    exact ⟨digitValue?_lt hc, ih⟩

theorem ofDigits_lt {base : Nat} {ds : List Nat} (h : ∀ d ∈ ds, d < base) :
    ofDigits base ds < base ^ ds.length := by
  -- whatever was read before, a digit more takes the bound to the next power
  have hfrom : ∀ n, ds.foldl (fun n d => base * n + d) n < base ^ ds.length * (n + 1) := by
    induction ds with
    | nil =>
      intro n
      simp
    | cons d rest ih =>
      intro n
      have hd := h d List.mem_cons_self
      have hrest := ih (fun other hother => h other (List.mem_cons_of_mem _ hother)) (base * n + d)
      have hstep : base * n + d + 1 ≤ base * (n + 1) := by
        rw [Nat.mul_succ]
        omega
      calc (d :: rest).foldl (fun n d => base * n + d) n
          < base ^ rest.length * (base * n + d + 1) := hrest
        _ ≤ base ^ rest.length * (base * (n + 1)) := Nat.mul_le_mul_left _ hstep
        _ = base ^ (d :: rest).length * (n + 1) := by
          rw [List.length_cons, pow_succ, mul_assoc]
  simpa [ofDigits] using hfrom 0

/-! ## The digits of a number -/

/-- The decimal digits of a positive number do not start with a zero. -/
theorem head?_toDigits_ne_zero {n : Nat} (h : 0 < n) : (Nat.toDigits 10 n).head? ≠ some '0' := by
  induction n using Nat.strongRecOn with
  | _ n ih =>
    rw [Nat.toDigits_eq_if (by decide)]
    by_cases hlt : n < 10
    · rw [if_pos hlt]
      have hdigit : ∀ m < 10, 0 < m → some m.digitChar ≠ some '0' := by decide
      exact hdigit n hlt h
    · have hfront := ih (n / 10) (by omega) (by omega)
      rw [if_neg hlt]
      cases hdigits : Nat.toDigits 10 (n / 10) with
      | nil => exact absurd hdigits Nat.toDigits_ne_nil
      | cons c rest =>
        rw [hdigits] at hfront
        exact hfront

theorem isDigit_of_mem_toDigits {n : Nat} {c : Char} (h : c ∈ Nat.toDigits 10 n) :
    c.isDigit = true :=
  Nat.isDigit_of_mem_toDigits (by decide) (by decide) h

theorem toDigits_injective : Function.Injective (Nat.toDigits 10) := by
  intro m n h
  rw [← Nat.ofDigitChars_ten_toDigits (n := m), h, Nat.ofDigitChars_ten_toDigits]

theorem toString_injective : Function.Injective (toString : Nat → String) := by
  intro m n h
  apply toDigits_injective
  rw [← Nat.toList_repr, ← Nat.toList_repr]
  exact congrArg String.toList h

/-! ## Integers -/

/-- A written integer has no more digits than the limit, and so it is bounded. -/
theorem IsInteger.natAbs_lt {token : List Char} {n : Int} (h : IsInteger token n) :
    n.natAbs < 10 ^ digitLimit := by
  have hbound : ∀ {cs ds}, DigitRun digitValue? cs ds → ds.length ≤ digitLimit →
      ofDigits 10 ds < 10 ^ digitLimit := by
    intro cs ds hrun hlength
    have hlt := ofDigits_lt hrun.lt
    have hle : 10 ^ ds.length ≤ 10 ^ digitLimit := Nat.pow_le_pow_right (by decide) hlength
    omega
  cases h with
  | unsigned hrun hlength => exact hbound hrun hlength
  | plus hrun hlength => exact hbound hrun hlength
  | minus hrun hlength =>
    rw [Int.natAbs_neg]
    exact hbound hrun hlength

/-- An integer within the limit is what its decimal form denotes. -/
theorem isInteger_intText {n : Int} (h : n.natAbs < 10 ^ digitLimit) :
    IsInteger (Document.intText n) n := by
  have hrun := digitRun_of_isDigit (Nat.toDigits_ne_nil (n := n.natAbs) (b := 10))
    fun c => isDigit_of_mem_toDigits
  have hvalue : ofDigits 10 (digitValues (Nat.toDigits 10 n.natAbs)) = n.natAbs := by
    rw [ofDigits_digitValues, Nat.ofDigitChars_ten_toDigits]
  have hlength : (digitValues (Nat.toDigits 10 n.natAbs)).length ≤ digitLimit := by
    rw [digitValues, List.length_map]
    exact (Nat.length_toDigits_le_iff (by decide) (by decide)).mpr h
  by_cases hneg : n < 0
  · have htext : Document.intText n = '-' :: Nat.toDigits 10 n.natAbs := by
      simp [Document.intText, hneg]
    have hminus := IsInteger.minus hrun hlength
    have hn : -(n.natAbs : Int) = n := by omega
    rw [hvalue, hn] at hminus
    rwa [htext]
  · have htext : Document.intText n = Nat.toDigits 10 n.natAbs := by
      simp [Document.intText, hneg]
    have hplain := IsInteger.unsigned hrun hlength
    have hn : (n.natAbs : Int) = n := by omega
    rw [hvalue, hn] at hplain
    rwa [htext]

/-- A number with too many decimal digits cannot be read. -/
theorem lt_of_isInteger_toDigits {n : Nat} {m : Int} (h : IsInteger (Nat.toDigits 10 n) m) :
    n < 10 ^ digitLimit := by
  generalize htoken : Nat.toDigits 10 n = token at h
  have hdigits : ∀ c ∈ token, c.isDigit = true := by
    rw [← htoken]
    exact fun c => isDigit_of_mem_toDigits
  cases h with
  | @unsigned _ ds hrun hlength =>
    subst htoken
    have hown := digitRun_of_isDigit Nat.toDigits_ne_nil hdigits
    have hsame : some (digitValues (Nat.toDigits 10 n)) = some ds := by
      rw [← digitRun?_of_digitRun digitValue?_underscore hown,
        digitRun?_of_digitRun digitValue?_underscore hrun]
    rw [← Option.some.inj hsame, digitValues, List.length_map] at hlength
    exact (Nat.length_toDigits_le_iff (by decide) (by decide)).mp hlength
  | plus => exact absurd (hdigits '+' List.mem_cons_self) (by decide)
  | minus => exact absurd (hdigits '-' List.mem_cons_self) (by decide)

end AuthBroker.Text

/-! ## The text of an integer -/

namespace AuthBroker.Document

theorem isDigit_or_minus_of_mem_intText {n : Int} {c : Char} (h : c ∈ intText n) :
    c.isDigit = true ∨ c = '-' := by
  rcases List.mem_append.mp h with hsign | hdigits
  · split at hsign
    · exact .inr (List.mem_singleton.mp hsign)
    · cases hsign
  · exact .inl (Text.isDigit_of_mem_toDigits hdigits)

theorem notMem_intText {c : Char} (hdigit : c.isDigit = false) (hminus : c ≠ '-') (n : Int) :
    c ∉ intText n := by
  intro h
  rcases isDigit_or_minus_of_mem_intText h with hc | hc
  · rw [hdigit] at hc
    cases hc
  · exact hminus hc

theorem intText_natCast (n : Nat) : intText n = Nat.toDigits 10 n := by
  simp [intText]

theorem intText_injective : Function.Injective intText := by
  have hminus : ∀ m k : Nat, Nat.toDigits 10 m ≠ '-' :: Nat.toDigits 10 k := by
    intro m k h
    have hmem : '-' ∈ Nat.toDigits 10 m := by
      rw [h]
      exact List.mem_cons_self
    exact absurd (Text.isDigit_of_mem_toDigits hmem) (by decide)
  intro n n' h
  unfold intText at h
  by_cases hn : n < 0
  · by_cases hn' : n' < 0
    · rw [if_pos hn, if_pos hn'] at h
      have habs := Text.toDigits_injective (List.cons.inj h).2
      omega
    · rw [if_pos hn, if_neg hn'] at h
      exact absurd h.symm (hminus _ _)
  · by_cases hn' : n' < 0
    · rw [if_neg hn, if_pos hn'] at h
      exact absurd h (hminus _ _)
    · rw [if_neg hn, if_neg hn'] at h
      have habs := Text.toDigits_injective h
      omega

end AuthBroker.Document
