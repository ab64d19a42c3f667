import AuthBroker.Deployment
import AuthBroker.Proofs.Agreement
import AuthBroker.Proofs.Broker.Hearing
import AuthBroker.Proofs.Session.InStep
import Mathlib.Data.List.Forall2

/-! # Sessions with different sinks

No step but the one that sets the sink up reads the sink or the journal, so brokers with all sinks and
journals at once stay in step through it (`heard_perform`). Two sessions that differ only in their sinks,
and in what these are told at any time, thus go the same way (`run_whatever_sink`): at every other step
they answer, fail, call, draw and store the same, and play the same notes to their sinks. This rests on
failures that have a text (`Failure`), from which the broker makes the record of a rejected event. -/

namespace AuthBroker

open Connector Exchange

/-- Whether a step tells the usage sink to fail, or to work again. -/
def Step.setsUsage : Step → Bool
  | .failUsage _ => true
  | _ => false

namespace Broker

section
variable {kind : Note → Prop}

/-! ## Steps that ask how the broker was wired -/

theorem heard_refusing (wirings : List Wiring) : InStep (Heard kind) (refusing wirings) := by
  refine inStep_of_deaf fun b ears => ?_
  rw [refusing, Action.runIn_bind, Action.runIn_bind, Action.runIn_get, Action.runIn_get]
  have hwiring : (b.withEars ears).wiring = b.wiring := rfl
  dsimp only
  rw [hwiring]
  cases wirings.contains b.wiring with
  | true => rfl
  | false => rfl

theorem heard_pin (definition version : Identifier) (workspace actor : Option Identifier) :
    InStep (Heard kind) (pin definition version workspace actor) := by
  refine inStep_of_deaf fun b ears => ?_
  have hwiring : (b.withEars ears).wiring = b.wiring := rfl
  have hcatalog : (b.withEars ears).catalog = b.catalog := rfl
  rw [runIn_pin, runIn_pin, hwiring, hcatalog]
  split
  · rfl
  · cases b.catalog.pin definition version workspace actor with
    | ok catalog => rfl
    | error fault => rfl
  · cases b.catalog.pin definition version workspace actor with
    | ok catalog => rfl
    | error fault => rfl

theorem heard_readings {α : Type} (check : Document → Check α) (ds : List Document) :
    InStep (Heard kind) (ds.mapM (reading check)) := by
  induction ds with
  | nil => exact inStep_pure _
  | cons d rest ih =>
    rw [List.mapM_cons]
    exact (inStep_reading check d).bind fun _ => ih.bind fun _ => inStep_pure _

theorem heard_editing (edit : Fields) {after : Broker → Broker}
    (hafter : ∀ (b : Broker) (ears : Ears), after (b.withEars ears) = (after b).withEars ears) :
    InStep (Heard kind) (editing edit after) := by
  refine inStep_modify_of_deaf fun b ears => ?_
  have hshares : (b.withEars ears).sharesRecords = b.sharesRecords := rfl
  rw [hshares, hafter]
  split
  · rfl
  · rfl

theorem setConfiguration_withEars (b : Broker) (ears : Ears) (holding : Holding)
    (configuration : Fields) :
    (b.withEars ears).setConfiguration holding configuration =
      (b.setConfiguration holding configuration).withEars ears := by
  have hcatalog : (b.withEars ears).catalog = b.catalog := rfl
  unfold setConfiguration
  dsimp only
  rw [hcatalog]
  cases holding.hydrated with
  | true => rfl
  | false =>
    cases b.catalog.actors.get? (holding.side, holding.actor) with
    | none => rfl
    | some actor => rfl

theorem afterActorEdit_withEars (b : Broker) (ears : Ears) (side : Side) (id : Identifier)
    (hydrated : Bool) (edit : Fields) :
    (b.withEars ears).afterActorEdit side id hydrated edit =
      (b.afterActorEdit side id hydrated edit).withEars ears := by
  have hholding : (b.withEars ears).holding side id hydrated = b.holding side id hydrated := rfl
  rw [afterActorEdit, afterActorEdit, hholding]
  have hkept : (b.withEars ears).configuration? (b.holding side id hydrated) =
      b.configuration? (b.holding side id hydrated) := rfl
  unfold afterConfigurationEdit
  rw [hkept]
  cases b.configuration? (b.holding side id hydrated) with
  | none => rfl
  | some configuration =>
    dsimp only
    rw [setConfiguration_withEars]
    rfl

/-! ## Every step but one -/

theorem heard_perform (hrecord : ∀ record, kind (.record record)) (s : Step)
    (hevent : s.exchanges = true → ∀ logger event, kind (.event logger event))
    (hs : s.setsUsage = false) : InStep (Heard kind) (perform s) := by
  have htie := heard_tie hrecord
  cases hplain : s.isPlain with
  | true => exact htie.perform s hplain fun hexchanges => inStep_track (hevent hexchanges)
  | false =>
    cases s with
    | pin definition version workspace actor =>
      exact (heard_pin definition version workspace actor).bind fun _ => inStep_pure _
    | hydrate side actor configuration =>
      refine (heard_refusing _).bind fun _ => (inStep_ofExcept side).bind fun side => ?_
      refine (inStep_ofExcept actor).bind fun actor => ?_
      refine (inStep_modify_of_deaf fun _ _ => rfl).bind fun _ => ?_
      exact (inStep_modify_of_deaf fun _ _ => rfl).bind fun _ => inStep_pure _
    | seedParameters ds =>
      refine (heard_refusing _).bind fun _ => (heard_readings _ ds).bind fun records => ?_
      exact (htie.modifyCatalog _).bind fun _ => inStep_pure _
    | failStore failure =>
      refine (heard_refusing _).bind fun _ => (inStep_ofExcept failure).bind fun failure => ?_
      exact (inStep_modify_of_deaf fun _ _ => rfl).bind fun _ => inStep_pure _
    | getActor side id hydrated edit =>
      exact htie.getActor (heard_editing edit fun b ears =>
        afterActorEdit_withEars b ears side id hydrated edit)
    | getParameter side definition workspace edit =>
      exact htie.getParameter fun _ => heard_editing edit fun _ _ => rfl
    | writeParameter d edit =>
      exact htie.performWriteParameter fun _ => heard_editing edit fun _ _ => rfl
    | failUsage failure => cases hs
    | _ => cases hplain

/-- The notes of a step, which are played to whatever sink is there. -/
theorem exists_notes (kind : Note → Prop) (b : Broker)
    (hrecord : ∀ record, kind (.record record)) (s : Step)
    (hevent : s.exchanges = true → ∀ logger event, kind (.event logger event))
    (hs : s.setsUsage = false) :
    ∃ (outcome : Except Fault Document) (after : Broker) (notes : List Note),
      (∀ note ∈ notes, kind note) ∧ ∀ ears, (perform s).runIn (b.withEars ears) =
        (outcome, after.withEars (ears.hearAll notes)) := by
  obtain ⟨outcome, hout, after, notes, hkind, hafter⟩ :=
    heard_perform hrecord s hevent hs b.withEars (heard_withEars b)
  exact ⟨outcome, after, notes, hkind, fun ears => Prod.ext (hout ears) (hafter ears)⟩

end

/-! ## Runs -/

/-- What came of the notes at a moment of a session. -/
structure Played (moment : Broker × Step) (notes : List Note) : Prop where
  journal : (moment.1.step moment.2).1.journal = notes.flatMap (·.written moment.1.sink)
  events : (moment.1.step moment.2).1.events = notes.flatMap (·.arrived moment.1.sink)

/-- A moment of two sessions: the brokers are the same apart from sink and journal, and so is what they
do, up to what comes of the notes that both play. -/
structure SameMoment (moment moment' : Broker × Step) : Prop where
  step : moment'.2 = moment.2
  broker : moment'.1 = moment.1.withEars moment'.1.ears
  outcome : (moment'.1.step moment'.2).1.outcome = (moment.1.step moment.2).1.outcome
  calls : (moment'.1.step moment'.2).1.calls = (moment.1.step moment.2).1.calls
  secrets : (moment'.1.step moment'.2).1.secrets = (moment.1.step moment.2).1.secrets
  lookups : (moment'.1.step moment'.2).1.lookups = (moment.1.step moment.2).1.lookups
  parameterWrites :
    (moment'.1.step moment'.2).1.parameterWrites = (moment.1.step moment.2).1.parameterWrites
  played : ∃ notes, Played moment notes ∧ Played moment' notes

theorem played_of_run {b after : Broker} {s : Step} {outcome : Except Fault Document}
    {notes : List Note}
    (hrun : (perform s).runIn b = (outcome, after.withEars (b.ears.hearAll notes))) :
    Played (b, s) notes where
  journal := by
    rw [step, hrun]
    change (b.ears.hearAll notes).journal.drop b.journal.length = _
    rw [Ears.hearAll_journal]
    exact List.drop_left
  events := by
    rw [step, hrun]
    change (b.ears.hearAll notes).sink.events.drop b.sink.events.length = _
    rw [Ears.hearAll_events]
    exact List.drop_left

theorem sameMoment (b : Broker) (ears : Ears) {s : Step} (hs : s.setsUsage = false) :
    SameMoment (b, s) (b.withEars ears, s) ∧
      ∃ ears', ((b.withEars ears).step s).2 = (b.step s).2.withEars ears' := by
  obtain ⟨outcome, after, notes, -, hrun⟩ := exists_notes (fun _ => True) b
    (fun _ => trivial) s (fun _ _ _ => trivial) hs
  have hrun₀ : (perform s).runIn b = (outcome, after.withEars (b.ears.hearAll notes)) := hrun b.ears
  have hplayed := played_of_run (hrun ears)
  have hreport : ((b.withEars ears).step s).1 = { (b.step s).1 with
      journal := ((b.withEars ears).step s).1.journal
      events := ((b.withEars ears).step s).1.events } := by
    rw [step, step, hrun, hrun₀]
    rfl
  have hafter : ((b.withEars ears).step s).2 = (b.step s).2.withEars (ears.hearAll notes) := by
    rw [step, step, hrun, hrun₀]
    rfl
  refine ⟨?_, _, hafter⟩
  exact
    { step := rfl
      broker := rfl
      outcome := (congrArg Report.outcome hreport :)
      calls := (congrArg Report.calls hreport :)
      secrets := (congrArg Report.secrets hreport :)
      lookups := (congrArg Report.lookups hreport :)
      parameterWrites := (congrArg Report.parameterWrites hreport :)
      played := ⟨notes, played_of_run hrun₀, hplayed⟩ }

/-- The moments of a session but those at which the sink is set up. -/
def quietMoments (b : Broker) (script : List Step) : List (Broker × Step) :=
  (b.moments script).filter (!·.2.setsUsage)

section
variable {b : Broker} {s : Step} {script script' rest steps : List Step}

theorem step_of_setsUsage (b : Broker) (hs : s.setsUsage = true) :
    ∃ ears, (b.step s).2 = b.withEars ears := by
  cases s with
  | failUsage failure => exact ⟨⟨b.sink.setFailure failure, b.journal⟩, rfl⟩
  | _ => cases hs

theorem quietMoments_of_setsUsage (hs : s.setsUsage = true) :
    b.quietMoments (s :: rest) = (b.step s).2.quietMoments rest := by
  rw [quietMoments, moments, List.filter_cons_of_neg (by simp [hs])]
  rfl

theorem quietMoments_of_quiet (hs : s.setsUsage = false) :
    b.quietMoments (s :: rest) = (b, s) :: (b.step s).2.quietMoments rest := by
  rw [quietMoments, moments, List.filter_cons_of_pos (by simp [hs])]
  rfl

theorem quietMoments_of_nil (h : script.filter (!·.setsUsage) = []) :
    b.quietMoments script = [] ∧ ∃ ears, (b.run script).2 = b.withEars ears := by
  induction script generalizing b with
  | nil => exact ⟨rfl, b.ears, rfl⟩
  | cons first rest ih =>
    cases hs : first.setsUsage with
    | true =>
      rw [List.filter_cons_of_neg (by simp [hs])] at h
      obtain ⟨ears, hears⟩ := step_of_setsUsage b hs
      obtain ⟨hnil, ears', hrun⟩ := ih (b := (b.step first).2) h
      refine ⟨(quietMoments_of_setsUsage hs).trans hnil, ears', ?_⟩
      rw [hears] at hrun
      exact (congrArg (fun after => (run after rest).2) hears).trans hrun
    | false =>
      rw [List.filter_cons_of_pos (by simp [hs])] at h
      cases h

/-- Up to the next step that counts, nothing happens but that the sink is set up. -/
theorem exists_next (h : script.filter (!·.setsUsage) = s :: steps) :
    ∃ ears rest, rest.filter (!·.setsUsage) = steps ∧ s.setsUsage = false ∧
      b.quietMoments script =
        (b.withEars ears, s) :: ((b.withEars ears).step s).2.quietMoments rest ∧
      (b.run script).2 = (((b.withEars ears).step s).2.run rest).2 := by
  induction script generalizing b with
  | nil => cases h
  | cons first rest ih =>
    cases hs : first.setsUsage with
    | true =>
      rw [List.filter_cons_of_neg (by simp [hs])] at h
      obtain ⟨ears, hears⟩ := step_of_setsUsage b hs
      obtain ⟨ears', later, hlater, hquiet, hmoments, hrun⟩ := ih (b := (b.step first).2) h
      rw [hears] at hmoments hrun
      refine ⟨ears', later, hlater, hquiet, ?_, ?_⟩
      · rw [quietMoments_of_setsUsage hs, hears]
        exact hmoments
      · exact (congrArg (fun after => (run after rest).2) hears).trans hrun
    | false =>
      rw [List.filter_cons_of_pos (by simp [hs])] at h
      cases h
      exact ⟨b.ears, rest, rfl, hs, quietMoments_of_quiet hs, rfl⟩

theorem sameMoments (ears : Ears) (hscript : script.filter (!·.setsUsage) = steps)
    (hscript' : script'.filter (!·.setsUsage) = steps) :
    List.Forall₂ SameMoment (b.quietMoments script) ((b.withEars ears).quietMoments script') ∧
      ∃ ears', ((b.withEars ears).run script').2 = (b.run script).2.withEars ears' := by
  -- on the steps that count: each session gets to the next of them by itself
  induction steps generalizing b ears script script' with
  | nil =>
    obtain ⟨hnil, ears₁, hrun⟩ := quietMoments_of_nil (b := b) hscript
    obtain ⟨hnil', ears₂, hrun'⟩ := quietMoments_of_nil (b := b.withEars ears) hscript'
    rw [hnil, hnil', hrun, hrun']
    exact ⟨.nil, ears₂, rfl⟩
  | cons s steps ih =>
    obtain ⟨ears₁, rest, hrest, hs, hmoments, hrun⟩ := exists_next (b := b) hscript
    obtain ⟨ears₂, rest', hrest', -, hmoments', hrun'⟩ :=
      exists_next (b := b.withEars ears) hscript'
    rw [hmoments, hmoments', hrun, hrun']
    obtain ⟨hsame, ears₃, hstep⟩ := sameMoment (b.withEars ears₁) ears₂ hs
    have hears : (b.withEars ears).withEars ears₂ = (b.withEars ears₁).withEars ears₂ := rfl
    rw [hears, hstep]
    obtain ⟨hlater, hfinal⟩ := ih (b := ((b.withEars ears₁).step s).2) ears₃ hrest hrest'
    exact ⟨.cons hsame hlater, hfinal⟩

end

/-! ## Deployments -/

/-- What the settings say of usage shows in the sink of a deployed broker and in the sink's own record,
and nowhere else. -/
theorem deploy_usage (settings : Settings) (enabled : Bool) (key : Option String) (host : String)
    (flows : Table String Flow) :
    let other := { settings with usageEnabled := enabled, usageKey := key, usageHost := host }
    (deploy other flows).1 = Usage.Forwarder.started other :: (deploy settings flows).1.tail ∧
      Agree (fun b b' => b' = b.withEars ⟨b'.sink, b.journal⟩) (deploy settings flows).2
        (deploy other flows).2 := by
  intro other
  have hkey : other.encryptionKey = settings.encryptionKey := rfl
  rw [deploy, deploy, hkey]
  cases Secret.Key.ofText? settings.encryptionKey with
  | none => exact ⟨rfl, .error _⟩
  | some key =>
    cases registryOf flows with
    | error fault => exact ⟨rfl, .error _⟩
    | ok registry => exact ⟨rfl, .ok rfl⟩

/-- Whatever the sinks of two sessions are, and whatever is done to them at any time: at every other step
the sessions have the same outcome, call flows, draw identifiers, look up and store the same, and in the
end the brokers are the same but for sink and journal. Both play the same notes. An event that is
rejected leaves one error record in the journal and does not arrive. Settings that differ in what they
say of usage deploy brokers that are the same but for the sink. -/
theorem run_whatever_sink (b : Broker) (ears : Ears) (script script' : List Step)
    (hscripts : script'.filter (!·.setsUsage) = script.filter (!·.setsUsage)) :
    (List.Forall₂ SameMoment (b.quietMoments script) ((b.withEars ears).quietMoments script') ∧
      ∃ ears', ((b.withEars ears).run script').2 = (b.run script).2.withEars ears') ∧
    (∀ (sink : Usage.Sink) logger event, sink.Settles logger event) ∧
    ∀ (settings : Settings) enabled key host flows,
      let other := { settings with usageEnabled := enabled, usageKey := key, usageHost := host }
      (deploy other flows).1 = Usage.Forwarder.started other :: (deploy settings flows).1.tail ∧
        Agree (fun b b' => b' = b.withEars ⟨b'.sink, b.journal⟩) (deploy settings flows).2
          (deploy other flows).2 := by
  refine ⟨sameMoments ears rfl hscripts, ?_, ?_⟩
  · exact fun sink logger event => sink.settles logger event
  · exact fun settings enabled key host flows => deploy_usage settings enabled key host flows

/-! ## A sink that fails between two calls -/

def filesPopulation : List Step := [
  .addDefinition (Definition.toDocument ⟨.minted 1, "Files", .source, .minted 2⟩),
  .addVersion (Version.toDocument ⟨.minted 2, .minted 1, "files", "1.0.0", ⟨none, [], none⟩⟩)]

def filesConsent : Step :=
  .consent (.ok .source)
    (ConsentRequest.toDocument ⟨.minted 1, .minted 3, "https://app.example.com", none, none⟩)

/-- The completion of a flow, whose result is stored. -/
def filesCompletion : Step :=
  .completeAsAsked (CompletionRequest.toDocument
    { definition := .minted 1, workspace := .minted 3, redirectUrl := "https://app.example.com"
      actor := none, input := none, query := [("code", .text "one")], asSecret := true })

def filesFlows : Table String Flow := [("files", Flow.unscripted)]

def filesBroker : Broker :=
  ofParts .memory ⟨filesFlows⟩ (.recording .empty) (.clear .empty) defaultSecretLabel

def filesScript : List Step :=
  filesPopulation ++ [filesConsent, filesCompletion]

def filesScriptRejecting : List Step :=
  filesPopulation ++
    [.failUsage (some ⟨.runtime, "no usage today"⟩), filesConsent, .failUsage none, filesCompletion]

/-- Of two events the first is rejected in one of the sessions, and nothing else differs. -/
theorem run_whatever_sink_rejecting :
    filesScriptRejecting.filter (!·.setsUsage) = filesScript.filter (!·.setsUsage) ∧
    (filesBroker.run filesScript).2.sink.events.length = 2 ∧
    (filesBroker.run filesScriptRejecting).2.sink.events.length = 1 ∧
    List.Forall₂ SameMoment (filesBroker.quietMoments filesScript)
      ((filesBroker.withEars filesBroker.ears).quietMoments filesScriptRejecting) :=
  ⟨rfl, by decide +kernel, by decide +kernel,
    (run_whatever_sink filesBroker filesBroker.ears filesScript filesScriptRejecting rfl).1.1⟩

end Broker

end AuthBroker
