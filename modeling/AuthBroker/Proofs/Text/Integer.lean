import AuthBroker.Text.Integer

/-! # What counts as an integer

The grammar of written integers: a sign or none, then a run of digits of any script, where a
single underscore may stand between two digits, and of at most 4300 digits. `readInt?` accepts
exactly the texts of the grammar (`readInt?_eq_some_iff`), with the value that the digits denote. -/

namespace AuthBroker.Text

/-! ## Runs of digits -/

/-- A run of digits with the values of its digits. An underscore stands between two digits only,
and two underscores never stand together. -/
inductive DigitRun (value? : Char → Option Nat) : List Char → List Nat → Prop
  | last {c : Char} {d : Nat} : value? c = some d → DigitRun value? [c] [d]
  | next {c : Char} {d : Nat} {cs : List Char} {ds : List Nat} :
      value? c = some d → DigitRun value? cs ds → DigitRun value? (c :: cs) (d :: ds)
  | underscore {c : Char} {d : Nat} {cs : List Char} {ds : List Nat} :
      value? c = some d → DigitRun value? cs ds → DigitRun value? (c :: '_' :: cs) (d :: ds)

/-- A run starts with a digit. -/
theorem DigitRun.head {value? : Char → Option Nat} {cs : List Char} {ds : List Nat}
    (h : DigitRun value? cs ds) : ∃ c rest, cs = c :: rest ∧ (value? c).isSome := by
  cases h with
  | last hc => exact ⟨_, _, rfl, by rw [hc]; rfl⟩
  | next hc _ => exact ⟨_, _, rfl, by rw [hc]; rfl⟩
  | underscore hc _ => exact ⟨_, _, rfl, by rw [hc]; rfl⟩

theorem digitRun_of_digitRun? {value? : Char → Option Nat} {cs : List Char} {ds : List Nat}
    (h : digitRun? value? cs = some ds) : DigitRun value? cs ds := by
  fun_induction digitRun? value? cs generalizing ds with
  | case1 => cases h
  | case2 c =>
    obtain ⟨d, hd, rfl⟩ := Option.map_eq_some_iff.mp h
    exact .last hd
  | case3 c rest ih =>
    simp only [Option.bind_eq_bind, Option.bind_eq_some_iff, Option.pure_def,
      Option.some.injEq] at h
    obtain ⟨d, hd, ds, hds, rfl⟩ := h
    exact .underscore hd (ih hds)
  | case4 c rest _ _ ih =>
    simp only [Option.bind_eq_bind, Option.bind_eq_some_iff, Option.pure_def,
      Option.some.injEq] at h
    obtain ⟨d, hd, ds, hds, rfl⟩ := h
    exact .next hd (ih hds)

theorem digitRun?_of_digitRun {value? : Char → Option Nat} (hu : value? '_' = none)
    {cs : List Char} {ds : List Nat} (h : DigitRun value? cs ds) :
    digitRun? value? cs = some ds := by
  induction h with
  | last hc => simp [digitRun?, hc]
  | @next c d cs ds hc hrest ih =>
    obtain ⟨e, rest, rfl, he⟩ := hrest.head
    -- what follows is a digit, so the underscore rule of the reader does not apply
    have hne : e ≠ '_' := by
      rintro rfl
      rw [hu] at he
      cases he
    rw [digitRun?.eq_4 _ _ _ (by simp) (by simpa using hne)]
    simp [hc, ih]
  | underscore hc _ ih => simp [digitRun?, hc, ih]

theorem digitValue?_underscore : digitValue? '_' = none := by decide

/-! ## Integers -/

/-- A written integer and its value. -/
inductive IsInteger : List Char → Int → Prop
  | unsigned {cs : List Char} {ds : List Nat} : DigitRun digitValue? cs ds →
      ds.length ≤ digitLimit → IsInteger cs (ofDigits 10 ds)
  | plus {cs : List Char} {ds : List Nat} : DigitRun digitValue? cs ds →
      ds.length ≤ digitLimit → IsInteger ('+' :: cs) (ofDigits 10 ds)
  | minus {cs : List Char} {ds : List Nat} : DigitRun digitValue? cs ds →
      ds.length ≤ digitLimit → IsInteger ('-' :: cs) (-(ofDigits 10 ds : Int))

theorem readNat?_eq_some_iff (cs : List Char) (n : Nat) :
    readNat? cs = some n ↔
      ∃ ds, DigitRun digitValue? cs ds ∧ ds.length ≤ digitLimit ∧ n = ofDigits 10 ds := by
  simp only [readNat?, Option.bind_eq_bind, Option.bind_eq_some_iff]
  constructor
  · rintro ⟨ds, hds, h⟩
    split at h
    · cases h
      exact ⟨ds, digitRun_of_digitRun? hds, by assumption, rfl⟩
    · cases h
  · rintro ⟨ds, hds, hlen, rfl⟩
    exact ⟨ds, digitRun?_of_digitRun digitValue?_underscore hds, if_pos hlen⟩

/-- A written integer starts with a sign or a digit. -/
theorem IsInteger.head {cs : List Char} {n : Int} (h : IsInteger cs n) :
    ∃ c rest, cs = c :: rest ∧ (c = '+' ∨ c = '-' ∨ (digitValue? c).isSome) := by
  cases h with
  | unsigned hrun _ =>
    obtain ⟨c, rest, rfl, hc⟩ := hrun.head
    exact ⟨c, rest, rfl, .inr (.inr hc)⟩
  | plus => exact ⟨'+', _, rfl, .inl rfl⟩
  | minus => exact ⟨'-', _, rfl, .inr (.inl rfl)⟩

theorem isInteger_of_readInt? {cs : List Char} {n : Int} (h : readInt? cs = some n) :
    IsInteger cs n := by
  unfold readInt? at h
  split at h <;> obtain ⟨m, hm, rfl⟩ := Option.map_eq_some_iff.mp h <;>
    obtain ⟨ds, hrun, hlen, rfl⟩ := (readNat?_eq_some_iff _ m).mp hm
  · exact .minus hrun hlen
  · exact .plus hrun hlen
  · exact .unsigned hrun hlen

theorem readInt?_of_isInteger {cs : List Char} {n : Int} (h : IsInteger cs n) :
    readInt? cs = some n := by
  cases h with
  | @unsigned _ ds hrun hlen =>
    obtain ⟨c, rest, rfl, hc⟩ := hrun.head
    have hminus : c ≠ '-' := by
      rintro rfl
      exact absurd hc (by decide)
    have hplus : c ≠ '+' := by
      rintro rfl
      exact absurd hc (by decide)
    have hread := (readNat?_eq_some_iff _ _).mpr ⟨ds, hrun, hlen, rfl⟩
    rw [readInt?.eq_3 _ (by simpa using hminus) (by simpa using hplus), hread]
    rfl
  | @plus _ ds hrun hlen =>
    have hread := (readNat?_eq_some_iff _ _).mpr ⟨ds, hrun, hlen, rfl⟩
    rw [readInt?, hread]
    rfl
  | @minus _ ds hrun hlen =>
    have hread := (readNat?_eq_some_iff _ _).mpr ⟨ds, hrun, hlen, rfl⟩
    rw [readInt?, hread]
    rfl

theorem readInt?_eq_some_iff (cs : List Char) (n : Int) :
    readInt? cs = some n ↔ IsInteger cs n :=
  ⟨isInteger_of_readInt?, readInt?_of_isInteger⟩

end AuthBroker.Text
