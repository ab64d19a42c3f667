import AuthBroker.Proofs.Broker.Parameters
import Mathlib.Logic.Function.Basic
import Mathlib.Tactic.SplitIfs

/-! # Two changes at a time

Between the read and the write of a change other calls make progress, and nothing holds them off. Two
changes of one scope are interleaved here step by step. Where the scope has a parameter, both drafts
carry its identifier, so whoever writes last wins (`Held.run`). Where it has none and both calls read
before either writes, both drafts are new: two parameters result, and the one that was written first
is found from then on (`overlapping_changes`). -/

namespace AuthBroker.Broker

open Connector Exchange

/-- One of two callers. -/
inductive Caller where
  | first
  | second
  deriving DecidableEq

def Caller.other : Caller → Caller
  | .first => .second
  | .second => .first

@[simp]
theorem Caller.other_other (c : Caller) : c.other.other = c := by
  cases c <;> rfl

theorem Caller.other_ne (c : Caller) : c.other ≠ c := by
  cases c <;> decide

theorem Caller.eq_or_eq_other (c d : Caller) : d = c ∨ d = c.other := by
  cases c <;> cases d <;> decide

/-- How far a change has come. -/
inductive Progress where
  | toRead
  | toWrite (draft : Parameter)
  | done

/-- Two changes under way, and the callers that have written, in order. -/
structure Race where
  broker : Broker
  progress : Caller → Progress
  writes : List Caller

/-- Both callers make their two steps. -/
def Interleaves (schedule : List Caller) : Prop :=
  schedule.count .first = 2 ∧ schedule.count .second = 2

/-- Both callers read before either writes. -/
def Overlaps (schedule : List Caller) : Prop :=
  ∃ c : Caller, schedule.take 2 = [c, c.other]

namespace Race

def start (b : Broker) : Race where
  broker := b
  progress := fun _ => .toRead
  writes := []

section
variable (side : Side) (definition : Identifier) (params : Caller → Fields)

/-- The next step of a caller: the read of its change, or the write. -/
def step (race : Race) (c : Caller) : Race :=
  match race.progress c with
  | .toRead =>
    match (draftParameter side ⟨definition, params c⟩).runIn race.broker with
    | (.ok draft, after) =>
      { race with broker := after, progress := Function.update race.progress c (.toWrite draft) }
    | (.error _, after) =>
      { race with broker := after, progress := Function.update race.progress c .done }
  | .toWrite draft =>
    { broker := ((commitParameter draft).runIn race.broker).2
      progress := Function.update race.progress c .done
      writes := race.writes ++ [c] }
  | .done => race

def run (race : Race) (schedule : List Caller) : Race :=
  schedule.foldl (step side definition params) race

variable {race : Race} {c : Caller}

/-! ## Single steps -/

theorem step_toRead (h : race.progress c = .toRead) :
    race.step side definition params c =
      ⟨race.broker.afterDraft side definition,
        Function.update race.progress c
          (.toWrite (race.broker.draftFor side ⟨definition, params c⟩)), race.writes⟩ := by
  unfold step
  rw [h]
  dsimp only
  rw [runIn_draftParameter]

theorem step_toWrite {draft : Parameter} (h : race.progress c = .toWrite draft) :
    race.step side definition params c =
      ⟨race.broker.afterCommit draft, Function.update race.progress c .done, race.writes ++ [c]⟩ := by
  unfold step
  rw [h]
  dsimp only
  rw [runIn_commitParameter]

theorem step_done (h : race.progress c = .done) : race.step side definition params c = race := by
  unfold step
  rw [h]

theorem run_append (race : Race) (schedule rest : List Caller) :
    race.run side definition params (schedule ++ rest) =
      (race.run side definition params schedule).run side definition params rest :=
  List.foldl_append

/-- The two steps of a caller in a row are its change. -/
theorem run_call (h : race.progress c = .toRead) :
    race.run side definition params [c, c] =
      ⟨((setParameters side ⟨definition, params c⟩).runIn race.broker).2,
        Function.update race.progress c .done, race.writes ++ [c]⟩ := by
  change (race.step side definition params c).step side definition params c = _
  rw [step_toRead side definition params h,
    step_toWrite side definition params (Function.update_self _ _ _), Function.update_idem,
    runIn_setParameters]

/-! ## A scope that has a parameter -/

/-- The scope has one parameter, every draft is for its place, and it has the configuration that the
last writer asked for. -/
structure Held (race : Race) : Prop where
  filed : race.broker.catalog.Filed
  one : ∃ p, race.broker.catalog.parametersFor (instanceWide side definition) = [p] ∧
    (∀ c draft, race.progress c = .toWrite draft →
      draft.id = p.id ∧ draft.scope = instanceWide side definition ∧ draft.configuration = params c) ∧
    ∀ c, race.writes.getLast? = some c → p.configuration = params c

variable {side definition params}

theorem Held.step (h : Held side definition params race) (c : Caller) :
    Held side definition params (race.step side definition params c) := by
  obtain ⟨hfiled, p, hone, hdrafts, hlast⟩ := h
  cases hc : race.progress c with
  | toRead =>
    rw [step_toRead side definition params hc]
    refine ⟨hfiled, p, hone, fun d draft hd => ?_, hlast⟩
    dsimp only at hd
    rw [Function.update_apply] at hd
    split_ifs at hd with heq
    · cases hd
      rw [heq]
      refine ⟨?_, Catalog.scope_drafted _ _ _, Catalog.configuration_drafted _ _ _⟩
      rw [draftFor, Catalog.id_drafted, hone]
      rfl
    · exact hdrafts d draft hd
  | toWrite draft =>
    rw [step_toWrite side definition params hc]
    obtain ⟨hid, hscope, hconfiguration⟩ := hdrafts c draft hc
    have hsole : (race.broker.catalog.addParameter draft).parametersFor
        (instanceWide side definition) = [draft] := by
      refine hfiled.parametersFor_addParameter_sole hscope fun q hq => ?_
      rw [hone] at hq
      rw [List.mem_singleton.mp hq, hid]
    refine ⟨hfiled.addParameter draft, draft, hsole, fun d other hd => ?_, fun d hd => ?_⟩
    · dsimp only at hd
      rw [Function.update_apply] at hd
      split_ifs at hd
      rw [hid]
      exact hdrafts d other hd
    · rw [List.getLast?_concat] at hd
      cases hd
      exact hconfiguration
  | done =>
    rw [step_done side definition params hc]
    exact ⟨hfiled, p, hone, hdrafts, hlast⟩

/-- However often and in whatever order the callers make steps, the scope keeps one parameter. -/
theorem Held.run (h : Held side definition params race) (schedule : List Caller) :
    Held side definition params (race.run side definition params schedule) := by
  induction schedule generalizing race with
  | nil => exact h
  | cons c rest ih => exact ih (h.step c)

/-- What is found in a scope with one parameter is what the last writer asked for. -/
theorem Held.found (h : Held side definition params race) {last : Caller}
    (hwrites : race.writes = [last.other, last]) :
    ∃ p, race.broker.catalog.parametersFor (instanceWide side definition) = [p] ∧
      race.broker.catalog.parameter? side definition none = some p ∧
      p.configuration = params last := by
  obtain ⟨p, hp, -, hlast⟩ := h.one
  refine ⟨p, hp, ?_, hlast last (by rw [hwrites]; rfl)⟩
  rw [Catalog.parameter?_eq_head?]
  exact congrArg List.head? hp

theorem held_start {b : Broker} {p : Parameter} (hfiled : b.catalog.Filed)
    (hone : b.catalog.parametersFor (instanceWide side definition) = [p]) :
    Held side definition params (start b) where
  filed := hfiled
  one := ⟨p, hone, fun _ _ h => (nomatch h), fun _ h => (nomatch h)⟩

/-- After a whole change the scope has a parameter, whether or not it had one. -/
theorem held_call {b : Broker} (hfiled : b.catalog.Filed)
    (hone : (b.catalog.parametersFor (instanceWide side definition)).length ≤ 1) (c : Caller) :
    Held side definition params ((start b).run side definition params [c, c]) := by
  rw [run_call side definition params rfl]
  refine ⟨filed_setParameters hfiled _ _, b.draftFor side ⟨definition, params c⟩, ?_, ?_, ?_⟩
  · change ((setParameters side ⟨definition, params c⟩).runIn b).2.catalog.parametersFor _ = _
    rw [catalog_setParameters]
    exact hfiled.parametersFor_changed _ _ _ hone
  · intro d draft hd
    dsimp only at hd
    rw [Function.update_apply] at hd
    split_ifs at hd
    cases hd
  · intro d hd
    cases hd
    exact Catalog.configuration_drafted _ _ _

/-! ## Both read before either writes -/

section
variable (side definition params)

/-- What a caller drafts when `c` reads first and the other after it. -/
def draftOf (b : Broker) (c d : Caller) : Parameter :=
  (if d = c then b else b.afterDraft side definition).draftFor side ⟨definition, params d⟩

theorem run_reads (b : Broker) (c : Caller) :
    (start b).run side definition params [c, c.other] =
      ⟨(b.afterDraft side definition).afterDraft side definition,
        fun d => .toWrite (draftOf side definition params b c d), []⟩ := by
  have hfirst : (start b).progress c = .toRead := rfl
  have hsecond : Function.update (start b).progress c
      (.toWrite (b.draftFor side ⟨definition, params c⟩)) c.other = .toRead :=
    Function.update_of_ne c.other_ne _ _
  change ((start b).step side definition params c).step side definition params c.other = _
  rw [step_toRead side definition params hfirst, step_toRead side definition params hsecond]
  dsimp only [start]
  congr 1
  funext d
  rcases c.eq_or_eq_other d with rfl | rfl
  · rw [Function.update_of_ne d.other_ne.symm, Function.update_self, draftOf, if_pos rfl]
  · rw [Function.update_self, draftOf, if_neg c.other_ne]

theorem scope_draftOf (b : Broker) (c d : Caller) :
    (draftOf side definition params b c d).scope = instanceWide side definition :=
  Catalog.scope_drafted _ _ _

theorem configuration_draftOf (b : Broker) (c d : Caller) :
    (draftOf side definition params b c d).configuration = params d :=
  Catalog.configuration_drafted _ _ _

/-- Drafts for a scope without parameters are new, and the caller that reads first mints first. -/
theorem id_draftOf {b : Broker} (hnone : b.catalog.parametersFor (instanceWide side definition) = [])
    (c d : Caller) :
    (draftOf side definition params b c d).id =
      .minted (if d = c then b.minted + 1 else b.minted + 2) := by
  have hafter : (b.afterDraft side definition).catalog.parametersFor (instanceWide side definition) =
      [] := hnone
  unfold draftOf
  by_cases h : d = c
  · rw [if_pos h, if_pos h, draftFor_of_nil hnone]
  · rw [if_neg h, if_neg h, draftFor_of_nil hafter, afterDraft_of_nil hnone]

end

theorem run_writes {drafts : Caller → Parameter} (h : race.progress = fun d => .toWrite (drafts d))
    (d : Caller) :
    race.run side definition params [d, d.other] =
      ⟨(race.broker.afterCommit (drafts d)).afterCommit (drafts d.other), fun _ => .done,
        race.writes ++ [d, d.other]⟩ := by
  have hfirst : race.progress d = .toWrite (drafts d) := by rw [h]
  have hsecond : Function.update race.progress d .done d.other = .toWrite (drafts d.other) := by
    rw [Function.update_of_ne d.other_ne, h]
  have hdone : Function.update (Function.update race.progress d .done) d.other .done =
      fun _ => Progress.done := by
    funext e
    rcases d.eq_or_eq_other e with rfl | rfl
    · rw [Function.update_of_ne e.other_ne.symm, Function.update_self]
    · rw [Function.update_self]
  change (race.step side definition params d).step side definition params d.other = _
  rw [step_toWrite side definition params hfirst, step_toWrite side definition params hsecond]
  dsimp only
  rw [hdone, List.append_assoc]
  rfl

/-! ## Every interleaving -/

theorem length_eq_counts (schedule : List Caller) :
    schedule.length = schedule.count .first + schedule.count .second := by
  induction schedule with
  | nil => rfl
  | cons c rest ih =>
    cases c with
    | first => simp [ih]; omega
    | second => simp [ih]; omega

/-- Either a change is over when the other begins, or both read and then both write. -/
theorem schedule_cases {schedule : List Caller} (h : Interleaves schedule) :
    ∃ c : Caller, schedule = [c, c, c.other, c.other] ∨ ∃ d, schedule = [c, c.other, d, d.other] := by
  obtain ⟨hfirst, hsecond⟩ := h
  have hlength := length_eq_counts schedule
  rw [hfirst, hsecond] at hlength
  obtain ⟨c, d, e, f, rfl⟩ := List.length_eq_four.mp hlength
  refine ⟨c, ?_⟩
  cases c <;> cases d <;> cases e <;> cases f <;> simp [Caller.other] at hfirst hsecond ⊢

theorem not_overlaps_calls (c : Caller) (rest : List Caller) : ¬ Overlaps (c :: c :: rest) := by
  rintro ⟨d, hd⟩
  rw [List.take_succ_cons, List.take_succ_cons, List.take_zero, List.cons.injEq, List.cons.injEq] at hd
  exact d.other_ne (hd.2.1.symm.trans hd.1)

theorem run_inTurn (b : Broker) (c : Caller) :
    (start b).run side definition params [c, c, c.other, c.other] =
      ((start b).run side definition params [c, c]).run side definition params [c.other, c.other] :=
  run_append _ _ _ _ [c, c] [c.other, c.other]

theorem writes_inTurn (b : Broker) (c : Caller) :
    ((start b).run side definition params [c, c, c.other, c.other]).writes = [c, c.other] := by
  have hother : ((start b).run side definition params [c, c]).progress c.other = .toRead := by
    rw [run_call side definition params rfl]
    exact Function.update_of_ne c.other_ne _ _
  rw [run_inTurn, run_call side definition params hother, run_call side definition params rfl]
  rfl

theorem run_overlapping (b : Broker) (c d : Caller) :
    (start b).run side definition params [c, c.other, d, d.other] =
      ⟨(((b.afterDraft side definition).afterDraft side definition).afterCommit
          (draftOf side definition params b c d)).afterCommit
          (draftOf side definition params b c d.other), fun _ => .done, [d, d.other]⟩ := by
  have hrun := run_append side definition params (start b) [c, c.other] [d, d.other]
  rw [run_reads, run_writes rfl] at hrun
  exact hrun

variable (params) in
/-- Both drafts are stored beside each other. -/
theorem parametersFor_overlapping {b : Broker}
    (hnone : b.catalog.parametersFor (instanceWide side definition) = [])
    (hfirst : .minted (b.minted + 1) ∉ b.catalog.parameters.keys)
    (hsecond : .minted (b.minted + 2) ∉ b.catalog.parameters.keys)
    (hne : Identifier.minted (b.minted + 1) ≠ .minted (b.minted + 2)) (c d : Caller) :
    ((start b).run side definition params [c, c.other, d, d.other]).broker.catalog.parametersFor
        (instanceWide side definition) =
      [draftOf side definition params b c d, draftOf side definition params b c d.other] := by
  rw [run_overlapping]
  have hid := id_draftOf side definition params hnone c
  have hscope := scope_draftOf side definition params b c
  generalize draftOf side definition params b c = drafts at *
  have hnew : ∀ e, (drafts e).id ∉ b.catalog.parameters.keys := by
    intro e
    rw [hid]
    split_ifs
    · exact hfirst
    · exact hsecond
  have hids : (drafts d.other).id ≠ (drafts d).id := by
    rw [hid, hid]
    rcases c.eq_or_eq_other d with rfl | rfl
    · rw [if_neg d.other_ne, if_pos rfl]
      exact hne.symm
    · rw [Caller.other_other, if_pos rfl, if_neg c.other_ne]
      exact hne
  have hafter : (drafts d.other).id ∉ (b.catalog.addParameter (drafts d)).parameters.keys := by
    rw [Catalog.addParameter_of_new (hnew d), Table.keys, List.map_append, List.mem_append,
      List.map_singleton, List.mem_singleton]
    rintro (hold | hsame)
    · exact hnew d.other hold
    · exact hids hsame
  change ((b.catalog.addParameter (drafts d)).addParameter (drafts d.other)).parametersFor _ = _
  rw [Catalog.parametersFor_addParameter_of_new (hscope d.other) hafter,
    Catalog.parametersFor_addParameter_of_new (hscope d) (hnew d), hnone]
  rfl

end

end Race

open Race

/-- Two changes of a scope that has at most one parameter, in any order of their steps. If it has one,
or one call is over when the other begins, there is one afterwards, and it has the configuration of the
call that wrote last. If it has none and both read before either writes, two parameters result, and the
one that is found has the configuration of the call that wrote first. -/
theorem overlapping_changes (b : Broker) (told : List Population) (side : Side)
    (definition : Identifier) (params : Caller → Fields) (schedule : List Caller)
    (hcatalog : b.catalog = Catalog.populated told)
    (hone : (b.catalog.parametersFor (instanceWide side definition)).length ≤ 1)
    (hschedule : Interleaves schedule) :
    ∃ after last, (start b).run side definition params schedule = after ∧
      after.writes = [last.other, last] ∧
      (b.catalog.parametersFor (instanceWide side definition) ≠ [] ∨ ¬ Overlaps schedule →
        ∃ p, after.broker.catalog.parametersFor (instanceWide side definition) = [p] ∧
          after.broker.catalog.parameter? side definition none = some p ∧
          p.configuration = params last) ∧
      (b.catalog.parametersFor (instanceWide side definition) = [] → Overlaps schedule →
        .minted (b.minted + 1) ∉ b.catalog.parameters.keys →
        .minted (b.minted + 2) ∉ b.catalog.parameters.keys →
        Identifier.minted (b.minted + 1) ≠ .minted (b.minted + 2) →
        ∃ p q, after.broker.catalog.parametersFor (instanceWide side definition) = [p, q] ∧
          after.broker.catalog.parameter? side definition none = some p ∧
          p.configuration = params last.other ∧ q.configuration = params last) := by
  have hfiled : b.catalog.Filed := by
    rw [hcatalog]
    exact Catalog.populated_filed told
  obtain ⟨c, rfl | ⟨d, rfl⟩⟩ := schedule_cases hschedule
  · have hwrites : ((start b).run side definition params [c, c, c.other, c.other]).writes =
        [c.other.other, c.other] := by
      rw [writes_inTurn, Caller.other_other]
    refine ⟨_, c.other, rfl, hwrites, fun _ => Held.found ?_ hwrites, fun _ hoverlaps => ?_⟩
    · rw [run_inTurn]
      exact (held_call hfiled hone c).run _
    · exact absurd hoverlaps (not_overlaps_calls c _)
  · have hwrites : ((start b).run side definition params [c, c.other, d, d.other]).writes =
        [d.other.other, d.other] := by
      rw [run_overlapping, Caller.other_other]
    refine ⟨_, d.other, rfl, hwrites, fun hor => Held.found ?_ hwrites, ?_⟩
    · rcases hor with hsome | hnot
      · obtain ⟨p, hp⟩ := List.length_eq_one_iff.mp
          (Nat.le_antisymm hone (List.length_pos_iff.mpr hsome))
        exact (held_start hfiled hp).run _
      · exact absurd ⟨c, rfl⟩ hnot
    · intro hnone _ hfirst hsecond hne
      have htwo := parametersFor_overlapping params hnone hfirst hsecond hne c d
      refine ⟨_, _, htwo, ?_, ?_, ?_⟩
      · rw [Catalog.parameter?_eq_head?]
        exact congrArg List.head? htwo
      · rw [Caller.other_other]
        exact configuration_draftOf side definition params b c d
      · exact configuration_draftOf side definition params b c d.other

/-- A broker that stores nothing. -/
def emptyBroker : Broker :=
  ofParts .memory .empty (.recording .empty) (.clear .empty) ""

def sampleParams : Caller → Fields
  | .first => [("client_id", .text "one")]
  | .second => [("client_id", .text "two")]

/-- The first caller writes last, and the parameter of the second is found. -/
theorem overlapping_changes_crossed :
    emptyBroker.catalog = Catalog.populated [] ∧
    (emptyBroker.catalog.parametersFor (instanceWide .source (.minted 1))).length ≤ 1 ∧
    Interleaves [.first, .second, .second, .first] ∧
    ∃ after p q, (start emptyBroker).run .source (.minted 1) sampleParams
        [.first, .second, .second, .first] = after ∧
      after.writes = [.second, .first] ∧
      after.broker.catalog.parametersFor (instanceWide .source (.minted 1)) = [p, q] ∧
      after.broker.catalog.parameter? .source (.minted 1) none = some p ∧
      p.configuration = sampleParams .second ∧ q.configuration = sampleParams .first := by
  have hone : (emptyBroker.catalog.parametersFor (instanceWide .source (.minted 1))).length ≤ 1 := by
    decide
  have hschedule : Interleaves [.first, .second, .second, .first] := ⟨rfl, rfl⟩
  obtain ⟨after, last, hafter, hwrites, -, htwo⟩ := overlapping_changes emptyBroker [] .source
    (.minted 1) sampleParams [.first, .second, .second, .first] rfl hone hschedule
  have hlast : last = .first := by
    rw [← hafter] at hwrites
    have hsame : [Caller.second, .first] = [last.other, last] := hwrites
    simpa using (congrArg List.getLast? hsame).symm
  subst hlast
  obtain ⟨p, q, hboth, hfound, hp, hq⟩ := htwo rfl ⟨.first, rfl⟩ (by decide) (by decide) (by decide)
  exact ⟨rfl, hone, hschedule, after, p, q, hafter, hwrites, hboth, hfound, hp, hq⟩

/-- Two changes may leave two parameters, and lose the one that was written last. -/
theorem not_changes_leave_one : ¬ ∀ (b : Broker) (told : List Population) (side : Side)
    (definition : Identifier) (params : Caller → Fields) (schedule : List Caller),
    b.catalog = Catalog.populated told →
    (b.catalog.parametersFor (instanceWide side definition)).length ≤ 1 →
    Interleaves schedule →
    ∃ after last p, (start b).run side definition params schedule = after ∧
      after.writes.getLast? = some last ∧
      after.broker.catalog.parametersFor (instanceWide side definition) = [p] ∧
      after.broker.catalog.parameter? side definition none = some p ∧
      p.configuration = params last := by
  intro h
  obtain ⟨after, last, p, hafter, -, hone, -⟩ := h emptyBroker [] .source (.minted 1) sampleParams
    [.first, .second, .first, .second] rfl (by decide) ⟨rfl, rfl⟩
  have htwo : (((start emptyBroker).run .source (.minted 1) sampleParams
      [.first, .second, .first, .second]).broker.catalog.parametersFor
        (instanceWide .source (.minted 1))).length = 2 :=
    congrArg List.length (parametersFor_overlapping sampleParams rfl (by decide) (by decide)
      (by decide) .first .first)
  rw [hafter, hone] at htwo
  cases htwo

end AuthBroker.Broker
