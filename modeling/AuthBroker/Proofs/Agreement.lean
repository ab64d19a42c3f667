import AuthBroker.Fault
import AuthBroker.Validation

/-! # Outcomes that agree

Two computations that are run side by side agree when both fail alike, or both answer and their
values are related. Agreement passes through whatever is made of the outcomes (`Agree.bind`,
`Check.Agree.seq`), so two runs are compared piece by piece. -/

namespace AuthBroker

/-- Both outcomes are the same failure, or related values. -/
inductive Agree {ε α β : Type} (R : α → β → Prop) : Except ε α → Except ε β → Prop
  | ok {a : α} {b : β} : R a b → Agree R (.ok a) (.ok b)
  | error (e : ε) : Agree R (.error e) (.error e)

namespace Agree

variable {ε ε' α β α' β' γ : Type} {R : α → β → Prop} {S : α' → β' → Prop}
  {x : Except ε α} {y : Except ε β}

theorem of_eq {R : α → α → Prop} {x y : Except ε α} (h : x = y) (hR : ∀ a, R a a) :
    Agree R x y := by
  subst h
  cases x with
  | ok a => exact .ok (hR a)
  | error e => exact .error e

theorem of_map_eq {f : α → γ} {g : β → γ} (h : x.map f = y.map g) :
    Agree (fun a b => f a = g b) x y := by
  cases x with
  | ok a =>
    cases y with
    | ok b => exact .ok (Except.ok.inj h)
    | error e => cases h
  | error e =>
    cases y with
    | ok b => cases h
    | error e' =>
      cases h
      exact .error e

theorem mono {R' : α → β → Prop} (h : Agree R x y) (hR : ∀ a b, R a b → R' a b) :
    Agree R' x y := by
  cases h with
  | ok hab => exact .ok (hR _ _ hab)
  | error e => exact .error e

theorem symm (h : Agree R x y) : Agree (fun b a => R a b) y x := by
  cases h with
  | ok hab => exact .ok hab
  | error e => exact .error e

theorem trans {R' : β → γ → Prop} {z : Except ε γ} (h : Agree R x y) (h' : Agree R' y z) :
    Agree (fun a c => ∃ b, R a b ∧ R' b c) x z := by
  cases h with
  | ok hab =>
    cases h' with
    | ok hbc => exact .ok ⟨_, hab, hbc⟩
  | error e =>
    cases h' with
    | error => exact .error e

theorem map {f : α → α'} {g : β → β'} (h : Agree R x y) (hfg : ∀ a b, R a b → S (f a) (g b)) :
    Agree S (x.map f) (y.map g) := by
  cases h with
  | ok hab => exact .ok (hfg _ _ hab)
  | error e => exact .error e

theorem mapError (f : ε → ε') (h : Agree R x y) : Agree R (x.mapError f) (y.mapError f) := by
  cases h with
  | ok hab => exact .ok hab
  | error e => exact .error (f e)

theorem bind {f : α → Except ε α'} {g : β → Except ε β'} (h : Agree R x y)
    (hfg : ∀ a b, R a b → Agree S (f a) (g b)) : Agree S (x >>= f) (y >>= g) := by
  cases h with
  | ok hab => exact hfg _ _ hab
  | error e => exact .error e

end Agree

/-- What has the same image is there on both sides or on neither. -/
theorem cases_of_map_eq {α β γ : Type} {f : α → γ} {g : β → γ} {x : Option α} {y : Option β}
    (h : x.map f = y.map g) :
    x = none ∧ y = none ∨ ∃ a b, x = some a ∧ y = some b ∧ f a = g b := by
  cases x with
  | none => exact .inl ⟨rfl, Option.map_eq_none_iff.mp h.symm⟩
  | some a =>
    obtain ⟨b, hy, hb⟩ := Option.map_eq_some_iff.mp h.symm
    exact .inr ⟨a, b, rfl, hy, hb.symm⟩

theorem error_of_map {ε α β : Type} {outcome : Except ε α} {f : α → β} {fault : ε}
    (h : outcome.map f = .error fault) : outcome = .error fault := by
  cases outcome with
  | ok a => cases h
  | error other =>
    cases h
    rfl

theorem exists_of_map_eq_ok {ε α β : Type} {outcome : Except ε α} {f : α → β} {b : β}
    (h : outcome.map f = .ok b) : ∃ a, outcome = .ok a ∧ f a = b := by
  cases outcome with
  | ok a => exact ⟨a, rfl, Except.ok.inj h⟩
  | error fault => cases h

theorem exists_of_bind_eq_ok {ε α β : Type} {outcome : Except ε α} {next : α → Except ε β} {b : β}
    (h : outcome >>= next = .ok b) : ∃ a, outcome = .ok a ∧ next a = .ok b := by
  cases outcome with
  | ok a => exact ⟨a, rfl, h⟩
  | error fault => cases h

/-! ## Checks -/

namespace Check

/-- Both checks have the same problems, or related values. -/
inductive Agree {α β : Type} (R : α → β → Prop) : Check α → Check β → Prop
  | valid {a : α} {b : β} : R a b → Agree R (.valid a) (.valid b)
  | invalid (problems : List Problem) : Agree R (.invalid problems) (.invalid problems)

namespace Agree

variable {α β α' β' γ : Type} {R : α → β → Prop} {S : α' → β' → Prop}

theorem of_eq {c d : Check α} (h : c = d) : Agree (· = ·) c d := by
  subst h
  cases c with
  | valid a => exact .valid rfl
  | invalid problems => exact .invalid problems

theorem of_map_eq {c : Check α} {d : Check β} {f : α → γ} {g : β → γ} (h : c.map f = d.map g) :
    Agree (fun a b => f a = g b) c d := by
  cases c with
  | valid a =>
    cases d with
    | valid b => exact .valid (Check.valid.inj h)
    | invalid problems => cases h
  | invalid problems =>
    cases d with
    | valid b => cases h
    | invalid problems' =>
      cases h
      exact .invalid problems

/-- The value on the left comes from the check on the left. -/
theorem and_valid {c : Check α} {d : Check β} (h : Agree R c d) :
    Agree (fun a b => R a b ∧ c = .valid a) c d := by
  cases h with
  | valid hab => exact .valid ⟨hab, rfl⟩
  | invalid problems => exact .invalid problems

theorem map {c : Check α} {d : Check β} {f : α → α'} {g : β → β'} (h : Agree R c d)
    (hfg : ∀ a b, R a b → S (f a) (g b)) : Agree S (f <$> c) (g <$> d) := by
  cases h with
  | valid hab => exact .valid (hfg _ _ hab)
  | invalid problems => exact .invalid problems

theorem seq {c : Check (α → α')} {d : Check (β → β')} {c' : Check α} {d' : Check β}
    (h : Agree (fun f g => ∀ a b, R a b → S (f a) (g b)) c d) (h' : Agree R c' d') :
    Agree S (c <*> c') (d <*> d') := by
  cases h with
  | valid hfg =>
    cases h' with
    | valid hab => exact .valid (hfg _ _ hab)
    | invalid problems => exact .invalid problems
  | invalid problems =>
    cases h' with
    | valid hab => exact .invalid problems
    | invalid problems' => exact .invalid (problems ++ problems')

theorem orFault {c : Check α} {d : Check β} (h : Agree R c d) :
    AuthBroker.Agree R c.orFault d.orFault := by
  cases h with
  | valid hab => exact .ok hab
  | invalid problems => exact .error _

end Agree

end Check

end AuthBroker
