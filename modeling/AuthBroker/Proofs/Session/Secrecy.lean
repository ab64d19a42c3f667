import AuthBroker.Proofs.Broker.Coupling
import AuthBroker.Session

/-! # What a session shows of its secrets

Two sessions that differ only in what is blotted out show the same. Of every step this is true of
the records, the events and the fault, and of the response where it is a coordinate (`views_eq`).
Each step is coupled with the same step blotted (`coupled_perform`), which gives one step, and from
it the whole script by induction. A completion that merely carries the wish for a secret, without
being asked to store one, answers its tokens, so the responses of such steps do differ
(`not_views_asksForSecret_eq`). Of a request that is malformed this says what its fault keeps, which is
the places and kinds of the problems; their wording, which quotes the request, is not part of a fault. -/

namespace AuthBroker

open Connector Exchange

namespace Step

/-- The step with its secrets blotted out. -/
def blotted : Step → Step
  | .addActor record => .addActor record.blottedRecord
  | .hydrate side actor configuration => .hydrate side actor configuration.blotted
  | .seedParameters records => .seedParameters (records.map (·.blottedRecord))
  | .addFlow provider script => .addFlow provider script.blotted
  | .scriptFlow provider script => .scriptFlow provider script.blotted
  | .getActor side id hydrated edit => .getActor side id hydrated edit.blotted
  | .getParameter side definition workspace edit =>
    .getParameter side definition workspace edit.blotted
  | .writeParameter record edit => .writeParameter record.blottedRecord edit.blotted
  | .consent side request => .consent side request.blottedRecord
  | .complete side request => .complete side request.blottedRecord
  | .completeAsAsked request => .completeAsAsked request.blottedRecord
  | .writeSecret workspace response => .writeSecret workspace response.blottedRecord
  | .setParameters side request => .setParameters side request.blottedRecord
  | s => s

/-- Whether a request for a completion asks for a secret. -/
def wantsSecret (request : Document) : Bool :=
  match CompletionRequest.check request with
  | .valid request => request.asSecret
  | .invalid _ => false

/-- Whether the request of a step asks for a secret. -/
def asksForSecret : Step → Bool
  | .complete _ request | .completeAsAsked request => wantsSecret request
  | _ => false

/-- Whether a step is answered by the coordinate of a secret. -/
def getsCoordinate : Step → Bool
  | .completeAsAsked request => wantsSecret request
  | .writeSecret _ _ => true
  | _ => false

/-- What a step shows: its records, its events and its fault, and its response where that is
watched. -/
structure View where
  journal : List LogRecord
  events : List Usage.Event
  fault : Option Fault
  response : Option Document

/-- What a step shows when the responses of some steps are watched. -/
def view (watched : Step → Bool) (s : Step) (report : Report) : View where
  journal := report.journal
  events := report.events
  fault :=
    match report.outcome with
    | .ok _ => none
    | .error fault => some fault
  response := if watched s then report.outcome.toOption else none

end Step

namespace Broker

/-- What the steps of a script show, in order. -/
def views (watched : Step → Bool) (b : Broker) (script : List Step) : List Step.View :=
  List.zipWith (Step.view watched) script (b.run script).1

section
variable {α β : Type} {R : α → β → Prop} {b b' : Broker}

/-- A result that is answered, whatever it is made into. -/
theorem Coupled.answer {first : Action α} {second : Action β} {f : α → Document}
    {g : β → Document} (h : Coupled R b b' first second) :
    Coupled (fun _ _ => True) b b' (first >>= fun a => pure (f a))
      (second >>= fun a => pure (g a)) :=
  h.bind fun _ _ _ hmid => coupled_pure hmid trivial

theorem Coupled.eq_answer {first second : Action α} {f : α → Document}
    (h : Coupled (· = ·) b b' first second) :
    Coupled (· = ·) b b' (first >>= fun a => pure (f a)) (second >>= fun a => pure (f a)) :=
  h.bind fun _ _ ha hmid => coupled_pure hmid (congrArg f ha)

end

section
variable {b b' : Broker} (h : b.blotted = b'.blotted)
include h

/-! ## Steps -/

theorem coupled_reading {α β : Type} {R : α → β → Prop} {check : Document → Check α}
    {check' : Document → Check β} {d d' : Document} (hcheck : Check.Agree R (check d) (check' d')) :
    Coupled R b b' (reading check d) (reading check' d') :=
  coupled_ofExcept h hcheck.orFault

/-- A record without secrets is read alike. -/
theorem coupled_reading_same {α : Type} (check : Document → Check α) (d : Document) :
    Coupled (· = ·) b b' (reading check d) (reading check d) :=
  coupled_reading h (.of_eq rfl)

theorem coupled_ofExcept_same {α : Type} (x : Except Fault α) :
    Coupled (· = ·) b b' (ofExcept x) (ofExcept x) :=
  coupled_ofExcept h (.of_eq rfl fun _ => rfl)

theorem coupled_modifyCatalog {f f' : Catalog → Catalog}
    (hf : (f b.catalog).blotted = (f' b'.catalog).blotted) :
    Coupled (fun _ _ => True) b b' (modifyCatalog f) (modifyCatalog f') :=
  coupled_modify (withCatalog_congr h hf)

theorem coupled_refusing (wirings : List Wiring) :
    Coupled (fun _ _ => True) b b' (refusing wirings) (refusing wirings) := by
  have hwiring : b.wiring = b'.wiring := eq_of_blotted h (·.wiring) fun _ => rfl
  refine coupled_get ?_
  rw [hwiring]
  cases wirings.contains b'.wiring with
  | true => exact coupled_throw h _
  | false => exact coupled_pure h trivial

theorem coupled_pinChecked (definition version : Identifier)
    (workspace actor : Option Identifier) :
    Coupled (fun _ _ => True) b b'
      (do
        let catalog ← ofExcept (b.catalog.pin definition version workspace actor)
        set { b with catalog := catalog })
      (do
        let catalog ← ofExcept (b'.catalog.pin definition version workspace actor)
        set { b' with catalog := catalog }) := by
  have hcatalog : b.catalog.blotted = b'.catalog.blotted := congrArg (·.catalog) h
  have hpin : (b.catalog.pin definition version workspace actor).map Catalog.blotted =
      (b'.catalog.pin definition version workspace actor).map Catalog.blotted := by
    rw [← Catalog.pin_blotted, ← Catalog.pin_blotted, hcatalog]
  exact (coupled_ofExcept h (.of_map_eq hpin)).bind fun c c' hc _ =>
    coupled_set (withCatalog_congr h hc)

theorem coupled_pin (definition version : Identifier) (workspace actor : Option Identifier) :
    Coupled (fun _ _ => True) b b' (pin definition version workspace actor)
      (pin definition version workspace actor) := by
  have hwiring : b.wiring = b'.wiring := eq_of_blotted h (·.wiring) fun _ => rfl
  have hcatalog : b.catalog.blotted = b'.catalog.blotted := congrArg (·.catalog) h
  refine coupled_get ?_
  -- the wiring is also part of the broker that is set, so the brokers are taken apart first
  cases b with
  | mk wiring =>
    cases b' with
    | mk wiring' =>
      obtain rfl : wiring = wiring' := hwiring
      cases wiring with
      | rehearsal =>
        refine coupled_modifyCatalog h ?_
        rw [Catalog.blotted_pinFor, Catalog.blotted_pinFor]
        exact congrArg (·.pinFor definition version workspace actor) hcatalog
      | memory => exact coupled_pinChecked h definition version workspace actor
      | deployed => exact coupled_pinChecked h definition version workspace actor

theorem coupled_lastCall (provider method : String) :
    Coupled (fun _ _ => True) b b' (lastCall provider method) (lastCall provider method) := by
  have hcontains : b.registry.flows.contains provider = b'.registry.flows.contains provider :=
    eq_of_blotted h (·.registry.flows.contains provider) fun b =>
      Table.contains_mapValues (fun _ => Flow.blotted) b.registry.flows provider
  have hcalls : (b.calls.filter (·.provider == provider)).map Flow.Call.blotted =
      (b'.calls.filter (·.provider == provider)).map Flow.Call.blotted := by
    have hfilter := congrArg (·.calls.filter (·.provider == provider)) h
    simp only [blotted, List.filter_map] at hfilter
    exact hfilter
  refine coupled_get ?_
  rw [hcontains]
  generalize b.calls.filter (·.provider == provider) = calls at hcalls ⊢
  generalize b'.calls.filter (·.provider == provider) = calls' at hcalls ⊢
  have hmethods : calls.map (·.method) = calls'.map (·.method) := by
    have hmap := congrArg (List.map (·.method)) hcalls
    rw [List.map_map, List.map_map] at hmap
    exact hmap
  have hfound : (calls.reverse.find? (·.method == method)).map Flow.Call.blotted =
      (calls'.reverse.find? (·.method == method)).map Flow.Call.blotted := by
    have hfind := congrArg (·.reverse.find? (·.method == method)) hcalls
    simp only [← List.map_reverse, List.find?_map] at hfind
    exact hfind
  cases b'.registry.flows.contains provider with
  | false => exact coupled_throw h _
  | true =>
    dsimp only
    rw [hmethods]
    rcases cases_of_map_eq hfound with ⟨hnone, hnone'⟩ | ⟨call, call', hsome, hsome', -⟩
    · rw [hnone, hnone']
      exact coupled_throw h _
    · rw [hsome, hsome']
      exact coupled_pure h trivial

theorem coupled_editing {edit edit' : Fields} (hedit : edit.blotted = edit'.blotted)
    {after after' : Broker → Broker} (hafter : (after b).blotted = (after' b').blotted) :
    Coupled (fun _ _ => True) b b' (editing edit after) (editing edit' after') := by
  have hshares : b.sharesRecords = b'.sharesRecords := eq_of_blotted h sharesRecords fun _ => rfl
  have hempty : edit.isEmpty = edit'.isEmpty :=
    eq_of_blotted hedit (·.isEmpty) fun fields => by cases fields <;> rfl
  refine coupled_modify ?_
  rw [hshares, hempty]
  split
  · exact hafter
  · exact h

theorem coupled_seeds (ds : List Document) :
    Coupled (fun ps ps' => ps.map Parameter.blotted = ps'.map Parameter.blotted) b b'
      (ds.mapM (reading Parameter.check))
      ((ds.map Document.blottedRecord).mapM (reading Parameter.check)) := by
  induction ds generalizing b b' with
  | nil => exact coupled_pure h rfl
  | cons d rest ih =>
    rw [List.map_cons, List.mapM_cons, List.mapM_cons]
    have hcheck := Parameter.check_agree d.blottedRecord_blottedRecord.symm
    refine (coupled_reading h hcheck).bind fun p p' hp hmid => ?_
    exact (ih hmid).bind fun ps ps' hps hmid =>
      coupled_pure hmid (List.cons_eq_cons.mpr ⟨hp, hps⟩)

end

theorem blotted_addParameters (ps : List Parameter) (catalog : Catalog) :
    (ps.foldl (·.addParameter ·) catalog).blotted =
      (ps.map Parameter.blotted).foldl (·.addParameter ·) catalog.blotted := by
  induction ps generalizing catalog with
  | nil => rfl
  | cons p rest ih =>
    rw [List.foldl_cons, ih, Catalog.blotted_addParameter]
    rfl

section
variable {b b' : Broker} (h : b.blotted = b'.blotted)
include h

/-! ## Every step -/

/-- Where a coordinate is answered, both answer the same. -/
theorem coupled_perform_coordinate {s : Step} (hs : s.getsCoordinate = true) :
    Coupled (· = ·) b b' (perform s) (perform s.blotted) := by
  cases s with
  | completeAsAsked d =>
    have hcheck := (CompletionRequest.check_agree d.blottedRecord_blottedRecord.symm).and_valid
    refine (coupled_reading h hcheck).bind fun request request' hrequest hmid => ?_
    obtain ⟨hrequest, hd⟩ := hrequest
    have hasked : request.asSecret = true := by
      simpa only [Step.getsCoordinate, Step.wantsSecret, hd] using hs
    have hcompleted := coupled_completeAsAsked hmid hrequest
    exact (hcompleted.mono fun _ _ heq => heq hasked).eq_answer
  | writeSecret workspace d =>
    have hcheck := Response.check_agree d.blottedRecord_blottedRecord.symm
    refine (coupled_reading h hcheck).bind fun response response' hresponse hmid => ?_
    refine (coupled_ofExcept_same hmid workspace).bind_eq fun workspace hmid => ?_
    exact (coupled_writeSecretFrom hmid .minted workspace hresponse).eq_answer
  | _ => cases hs

/-- A step and the same step blotted fail alike or both answer. -/
theorem coupled_perform (s : Step) :
    Coupled (fun _ _ => True) b b' (perform s) (perform s.blotted) := by
  cases s with
  | addDefinition d =>
    refine (coupled_reading_same h _ d).bind_eq fun record hmid => ?_
    exact (coupled_modifyCatalog hmid (congrArg (·.catalog.addDefinition record) hmid)).answer
  | addVersion d =>
    refine (coupled_reading_same h _ d).bind_eq fun record hmid => ?_
    exact (coupled_modifyCatalog hmid (congrArg (·.catalog.addVersion record) hmid)).answer
  | addActor d =>
    have hcheck := Actor.check_agree d.blottedRecord_blottedRecord.symm
    refine (coupled_reading h hcheck).bind fun a a' ha hmid => ?_
    refine (coupled_modifyCatalog hmid ?_).bind fun _ _ _ hmid => (coupled_modify hmid).answer
    rw [Catalog.blotted_addActor, Catalog.blotted_addActor, ha]
    exact congrArg (·.catalog.addActor a'.blotted) hmid
  | pin definition version workspace actor =>
    exact (coupled_pin h definition version workspace actor).answer
  | hydrate side actor configuration =>
    refine (coupled_refusing h _).bind fun _ _ _ hmid => ?_
    refine (coupled_ofExcept_same hmid side).bind_eq fun side hmid => ?_
    refine (coupled_ofExcept_same hmid actor).bind_eq fun actor hmid => ?_
    have hinsert := hydrate_congr hmid (side, actor) configuration.blotted_blotted.symm
    exact (coupled_modify hinsert).bind fun _ _ _ hmid => (coupled_modify hmid).answer
  | seedParameters ds =>
    refine (coupled_refusing h _).bind fun _ _ _ hmid => ?_
    refine (coupled_seeds hmid ds).bind fun ps ps' hps hmid => ?_
    refine (coupled_modifyCatalog hmid ?_).answer
    rw [blotted_addParameters, blotted_addParameters, hps]
    exact congrArg (fun b => (ps'.map Parameter.blotted).foldl (·.addParameter ·) b.catalog) hmid
  | addFlow provider script =>
    have hregistry : b.registry.blotted = b'.registry.blotted := congrArg (·.registry) h
    have hflow : (Flow.unscripted.follow script).blotted =
        (Flow.unscripted.follow script.blotted).blotted := by
      rw [Flow.blotted_follow, Flow.blotted_follow, Flow.Script.blotted_blotted]
    have hregister : (b.registry.register provider (Flow.unscripted.follow script)).map
          Flow.Registry.blotted =
        (b'.registry.register provider (Flow.unscripted.follow script.blotted)).map
          Flow.Registry.blotted := by
      rw [← Flow.Registry.register_blotted, ← Flow.Registry.register_blotted, hregistry, hflow]
    exact coupled_get ((coupled_ofExcept h (.of_map_eq hregister)).bind fun r r' hr _ =>
      (coupled_set (withRegistry_congr h hr)).answer)
  | scriptFlow provider script =>
    have hregistry : b.registry.blotted = b'.registry.blotted := congrArg (·.registry) h
    have hget : (b.registry.flows.get? provider).map Flow.blotted =
        (b'.registry.flows.get? provider).map Flow.blotted := by
      have hflows := congrArg (·.flows.get? provider) hregistry
      simpa only [Flow.Registry.blotted, Table.get?_mapValues] using hflows
    refine coupled_get ?_
    rcases cases_of_map_eq hget with ⟨hnone, hnone'⟩ | ⟨flow, flow', hsome, hsome', hflow⟩
    · rw [hnone, hnone']
      exact coupled_throw h _
    · rw [hsome, hsome']
      have hupdate : (b.registry.update provider (flow.follow script)).blotted =
          (b'.registry.update provider (flow'.follow script.blotted)).blotted := by
        rw [Flow.Registry.blotted_update, Flow.Registry.blotted_update, Flow.blotted_follow,
          Flow.blotted_follow, Flow.Script.blotted_blotted, hregistry, hflow]
      exact (coupled_set (withRegistry_congr h hupdate)).answer
  | lastCall provider method => exact (coupled_lastCall h provider method).answer
  | failUsage failure =>
    exact (coupled_modify
      (congrArg (fun b => { b with sink := b.sink.setFailure failure }) h)).answer
  | failStore failure =>
    refine (coupled_refusing h _).bind fun _ _ _ hmid => ?_
    refine (coupled_ofExcept_same hmid failure).bind_eq fun failure hmid => ?_
    refine (coupled_modify (withStore_congr hmid ?_)).answer
    rw [Secret.Store.blotted_setFailure, Secret.Store.blotted_setFailure]
    exact congrArg (·.store.setFailure failure) hmid
  | getDefinition side id => exact (coupled_definition h side id).answer
  | getVersion id => exact (coupled_version h id).answer
  | getPinned definition workspace actor =>
    exact (coupled_pinned? h definition workspace actor).answer
  | getActor side id hydrated edit =>
    have hrest : ∀ {mid mid' : Broker} (a a' : Actor), mid.blotted = mid'.blotted →
        Coupled (fun _ _ => True) mid mid'
          (do editing edit (·.afterActorEdit side id hydrated edit); return a.toDocument)
          (do
            editing edit.blotted (·.afterActorEdit side id hydrated edit.blotted)
            return a'.toDocument) := by
      intro mid mid' a a' hmid
      refine (coupled_editing hmid edit.blotted_blotted.symm ?_).answer
      rw [blotted_afterActorEdit, blotted_afterActorEdit, hmid, Fields.blotted_blotted]
    cases hydrated with
    | true => exact (coupled_hydratedActor h side id).bind fun a a' _ => hrest a a'
    | false => exact (coupled_actor h side id).bind fun a a' _ => hrest a a'
  | getParameter side definition workspace edit =>
    refine (coupled_parameter? h side definition workspace).bind fun p p' hp hmid => ?_
    rcases cases_of_map_eq hp with ⟨hnone, hnone'⟩ | ⟨record, record', hsome, hsome', hrecord⟩
    · rw [hnone, hnone']
      exact coupled_pure hmid trivial
    · rw [hsome, hsome']
      have hedited := afterParameterEdit_congr hmid hrecord false edit.blotted_blotted.symm
      exact (coupled_editing hmid edit.blotted_blotted.symm hedited).answer
  | writeParameter d edit =>
    have hcheck := Parameter.check_agree d.blottedRecord_blottedRecord.symm
    refine (coupled_reading h hcheck).bind fun p p' hp hmid => ?_
    refine (coupled_writeParameter hmid hp).bind fun _ _ _ hmid => ?_
    have hedited := afterParameterEdit_congr hmid hp true edit.blotted_blotted.symm
    exact (coupled_editing hmid edit.blotted_blotted.symm hedited).answer
  | listParameters => exact coupled_get (coupled_pure h trivial)
  | versionForActor d actor =>
    refine (coupled_reading_same h _ d).bind_eq fun definition hmid => ?_
    refine (coupled_ofExcept_same hmid actor).bind_eq fun actor hmid => ?_
    exact (coupled_versionForActor hmid definition actor).answer
  | versionForWorkspace d workspace =>
    refine (coupled_reading_same h _ d).bind_eq fun definition hmid => ?_
    refine (coupled_ofExcept_same hmid workspace).bind_eq fun workspace hmid => ?_
    exact (coupled_versionForWorkspace hmid definition workspace).answer
  | consent side d =>
    have hcheck := ConsentRequest.check_agree d.blottedRecord_blottedRecord.symm
    refine (coupled_reading h hcheck).bind fun request request' hrequest hmid => ?_
    refine (coupled_ofExcept_same hmid side).bind_eq fun side hmid => ?_
    exact (coupled_consent hmid hrequest).answer
  | complete side d =>
    have hcheck := CompletionRequest.check_agree d.blottedRecord_blottedRecord.symm
    refine (coupled_reading h hcheck).bind fun request request' hrequest hmid => ?_
    refine (coupled_ofExcept_same hmid side).bind_eq fun side hmid => ?_
    exact (coupled_complete hmid hrequest side).answer
  | completeAsAsked d =>
    have hcheck := CompletionRequest.check_agree d.blottedRecord_blottedRecord.symm
    refine (coupled_reading h hcheck).bind fun request request' hrequest hmid => ?_
    exact (coupled_completeAsAsked hmid hrequest).answer
  | writeSecret workspace d =>
    exact (coupled_perform_coordinate h rfl).mono fun _ _ _ => trivial
  | setParameters side d =>
    have hcheck := ParameterRequest.check_agree d.blottedRecord_blottedRecord.symm
    refine (coupled_reading h hcheck).bind fun request request' hrequest hmid => ?_
    refine (coupled_ofExcept_same hmid side).bind_eq fun side hmid => ?_
    exact (coupled_setParameters hmid side hrequest).answer
  | unreadable fault => exact coupled_throw h fault

end

/-! ## Two sessions -/

theorem wantsSecret_blottedRecord (request : Document) :
    Step.wantsSecret request.blottedRecord = Step.wantsSecret request := by
  have hcheck := CompletionRequest.check_agree request.blottedRecord_blottedRecord
  unfold Step.wantsSecret
  generalize CompletionRequest.check request.blottedRecord = c at hcheck ⊢
  generalize CompletionRequest.check request = c' at hcheck ⊢
  cases hcheck with
  | valid hrequest => exact eq_of_blotted hrequest (·.asSecret) fun _ => rfl
  | invalid problems => rfl

theorem getsCoordinate_blotted (s : Step) : s.blotted.getsCoordinate = s.getsCoordinate := by
  cases s with
  | completeAsAsked request => exact wantsSecret_blottedRecord request
  | _ => rfl

section
variable {b b' : Broker} {s s' : Step} (h : b.blotted = b'.blotted)
  (hs : s.blotted = s'.blotted)
include h hs

/-- Two steps that are the same once blotted are coupled, and answer the same where they are to
answer a coordinate. -/
theorem coupled_steps : Coupled (fun d d' => s.getsCoordinate = true → d = d') b b' (perform s)
    (perform s') := by
  have hgets : s.getsCoordinate = s'.getsCoordinate := by
    rw [← getsCoordinate_blotted, hs, getsCoordinate_blotted]
  cases hs' : s'.getsCoordinate with
  | false =>
    have hfirst := coupled_perform h s
    have hsecond : Coupled _ b' b' _ _ := (coupled_perform rfl s').symm
    rw [hs] at hfirst
    refine (hfirst.trans hsecond).mono fun _ _ _ hcoordinate => ?_
    rw [hgets, hs'] at hcoordinate
    cases hcoordinate
  | true =>
    have hfirst := coupled_perform_coordinate h (hgets.trans hs')
    have hsecond : Coupled _ b' b' _ _ := (coupled_perform_coordinate rfl hs').symm
    rw [hs] at hfirst
    refine (hfirst.trans hsecond).mono fun d d' hd _ => ?_
    obtain ⟨mid, hmid, hmid'⟩ := hd
    rw [hmid, hmid']

/-- A step shows the same in both sessions. -/
theorem view_step_eq : s.view Step.getsCoordinate (b.step s).1 =
    s'.view Step.getsCoordinate (b'.step s').1 := by
  obtain ⟨houtcome, hafter⟩ := coupled_steps h hs
  have hgets : s.getsCoordinate = s'.getsCoordinate := by
    rw [← getsCoordinate_blotted, hs, getsCoordinate_blotted]
  have hjournal : ∀ {c c' : Broker}, c.blotted = c'.blotted → c.journal = c'.journal :=
    fun hc => eq_of_blotted hc (·.journal) fun _ => rfl
  have hevents : ∀ {c c' : Broker}, c.blotted = c'.blotted → c.sink.events = c'.sink.events :=
    fun hc => eq_of_blotted hc (·.sink.events) fun _ => rfl
  unfold Step.view step
  dsimp only
  rw [hjournal h, hjournal hafter, hevents h, hevents hafter, hgets]
  generalize ((perform s).runIn b).1 = outcome at houtcome ⊢
  generalize ((perform s').runIn b').1 = outcome' at houtcome ⊢
  cases houtcome with
  | error fault => rfl
  | ok hanswer =>
    cases hs' : s'.getsCoordinate with
    | false => rfl
    | true => rw [hanswer (hgets.trans hs')]

end

theorem views_cons (watched : Step → Bool) (b : Broker) (s : Step) (rest : List Step) :
    b.views watched (s :: rest) =
      s.view watched (b.step s).1 :: (b.step s).2.views watched rest := rfl

/-- Two sessions that are the same once blotted show the same at every step: the same records,
events and faults, and the same response where a coordinate is answered. -/
theorem views_eq (b b' : Broker) (script script' : List Step) (hb : b.blotted = b'.blotted)
    (hscript : script.map Step.blotted = script'.map Step.blotted) :
    b.views Step.getsCoordinate script = b'.views Step.getsCoordinate script' := by
  induction script generalizing b b' script' with
  | nil =>
    obtain rfl : script' = [] := List.map_eq_nil_iff.mp hscript.symm
    rfl
  | cons s rest ih =>
    obtain ⟨s', rest', rfl, hs, hrest⟩ := List.map_eq_cons_iff.mp hscript.symm
    have hview := view_step_eq hb hs.symm
    have hviews := ih _ _ rest' (coupled_steps hb hs.symm).after hrest.symm
    rw [views_cons, views_cons, hview]
    exact congrArg _ hviews

/-! ## Two providers -/

/-- A broker with one source, whose provider answers a token. -/
def tokenBroker (token : String) : Broker :=
  { ofParts .memory
      ⟨[("files", { Flow.unscripted with completion := [("access_token", .text token)] })]⟩
      (.recording .empty) (.clear .empty) "conduit_oauth_workspace_" with
    catalog := { Catalog.empty with
      definitions := [((.source, .minted 1), ⟨.minted 1, "Files", .source, .minted 2⟩)]
      versions := [(.minted 2, ⟨.minted 2, .minted 1, "files", "1.0.0", ⟨none, [], none⟩⟩)] } }

/-- A request to finish a flow with a code and to store the result. -/
def codeRequest (code : String) : Document :=
  .object [
    ("definition_id", (Identifier.minted 1).toDocument),
    ("workspace_id", (Identifier.minted 3).toDocument),
    ("redirect_url", .text "https://app.example.com"),
    ("query_params", .object [("code", .text code)]),
    ("return_secret_coordinate", .bool true)]

/-- Two exchanges with different codes and tokens show the same. -/
theorem views_eq_tokens :
    (tokenBroker "first").blotted = (tokenBroker "second").blotted ∧
    [Step.completeAsAsked (codeRequest "one")].map Step.blotted =
      [Step.completeAsAsked (codeRequest "two")].map Step.blotted ∧
    (tokenBroker "first").views Step.getsCoordinate [.completeAsAsked (codeRequest "one")] =
      (tokenBroker "second").views Step.getsCoordinate [.completeAsAsked (codeRequest "two")] :=
  ⟨rfl, rfl, views_eq _ _ _ _ rfl rfl⟩

theorem responses_complete (token : String) :
    ((tokenBroker token).views Step.asksForSecret
      [.complete (.ok .source) (codeRequest "one")]).map (·.response) =
      [some (Response.toDocument ⟨true, none, [("access_token", .text token)]⟩)] := rfl

/-- A completion that is not asked to store anything answers its token, whatever its request says. -/
theorem not_views_asksForSecret_eq : ¬ ∀ (b b' : Broker) (script script' : List Step),
    b.blotted = b'.blotted → script.map Step.blotted = script'.map Step.blotted →
    b.views Step.asksForSecret script = b'.views Step.asksForSecret script' := by
  intro hclaim
  have hviews := hclaim (tokenBroker "first") (tokenBroker "second")
    [.complete (.ok .source) (codeRequest "one")] [.complete (.ok .source) (codeRequest "one")]
    rfl rfl
  have hresponses := congrArg (List.map (·.response)) hviews
  rw [responses_complete, responses_complete] at hresponses
  simp [Response.toDocument] at hresponses

end Broker

end AuthBroker
