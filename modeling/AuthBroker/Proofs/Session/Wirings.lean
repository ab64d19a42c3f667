import AuthBroker.Deployment
import AuthBroker.Proofs.Broker.Writing
import AuthBroker.Proofs.Secret.Cipher
import AuthBroker.Proofs.Session.Secrecy
import AuthBroker.Proofs.Session.Sinks

/-! # One session in every wiring

A broker in memory, one of rehearsal doubles and a deployed one have different stores and sinks. As long
as no store is told to fail they know the same and read the same under every coordinate (`Shared`), and
every step of a session that all of them offer keeps it so (`shared_perform`). Thus a script has one
outcome in all wirings (`wirings_agree`), and a store of any cipher in place of a vault would read the
same (`wirings_read_by_any_cipher`). Only the doubles take a pin for a workspace and an actor at once, or
for neither (`not_wirings_agree`). -/

namespace AuthBroker

open Connector Exchange

namespace Step

/-- Whether a step is offered in every wiring, and is no edit by the caller of what was handed out. -/
def isOffered : Step → Bool
  | .hydrate _ _ _ | .seedParameters _ | .failStore _ => false
  | .getActor _ _ _ edit | .getParameter _ _ _ edit | .writeParameter _ edit => edit.isEmpty
  | _ => true

/-- Whether a step, if it pins a version, pins it for exactly one of a workspace and an actor. -/
def pinsOne : Step → Bool
  | .pin _ _ workspace actor => workspace.isSome != actor.isSome
  | _ => true

end Step

namespace Broker

/-- The broker of a wiring. In memory and in rehearsal it gets its label from the settings too. -/
def build (settings : Settings) (flows : Table String Flow) : Wiring → Except Fault Broker
  | .memory => (assemble .memory flows settings.secretLabel).2
  | .rehearsal => (assemble .rehearsal flows settings.secretLabel).2
  | .deployed => (deploy settings flows).2

/-! ## Brokers that share what they know and store -/

/-- The brokers know the same and read the same from sound stores. Something is read under every
coordinate that is taken down. -/
def Shared (taken : Secret.Coordinate → Prop) (brokers : Wiring → Broker) : Prop :=
  ∃ (known : Known) (reads : Secret.Coordinate → Option String),
    (∀ coordinate, taken coordinate → ∃ text, reads coordinate = some text) ∧
    ∀ w, (brokers w).known = known ∧ (brokers w).store.Sound ∧
      ∀ coordinate, (brokers w).store.get? coordinate = reads coordinate

section
variable {taken : Secret.Coordinate → Prop}

/-- A change that leaves the stores alone, and is decided by what is known as far as that goes. -/
theorem shared_modify {f : Broker → Broker} (learnt : Known → Known)
    (hf : ∀ b : Broker, (f b).known = learnt b.known ∧ (f b).store = b.store) :
    InStep (Shared taken) (modify f : Action Unit) := by
  refine inStep_modify fun brokers h => ?_
  obtain ⟨known, reads, htaken, hb⟩ := h
  refine ⟨learnt known, reads, htaken, fun w => ?_⟩
  obtain ⟨hknown, hstore⟩ := hf (brokers w)
  rw [hknown, hstore, (hb w).1]
  exact ⟨rfl, (hb w).2⟩

theorem shared_storeSecret (coordinate : Secret.Coordinate) (text : String) :
    InStep (Shared taken) (storeSecret coordinate text) := by
  rintro brokers ⟨known, reads, htaken, hb⟩
  have hrun : ∀ w, ∃ after, (storeSecret coordinate text).runIn (brokers w) =
      (.ok (), { brokers w with store := after }) ∧ after.Sound ∧
        ∀ other, after.get? other = if other = coordinate then some text else reads other := by
    intro w
    obtain ⟨hknown, hfine, hreads⟩ := hb w
    obtain ⟨after, hput, hafter, hget⟩ := hfine.exists_put coordinate text
    refine ⟨after, ?_, hafter, fun other => ?_⟩
    · rw [storeSecret, Action.runIn_bind, Action.runIn_get]
      dsimp only
      rw [hput]
      rfl
    · rw [← hreads]
      exact hget other
  refine ⟨.ok (), fun w => ?_, known,
    fun other => if other = coordinate then some text else reads other, fun other hother => ?_,
    fun w => ?_⟩
  · obtain ⟨after, hafter, -⟩ := hrun w
    rw [hafter]
  · by_cases heq : other = coordinate
    · exact ⟨text, if_pos heq⟩
    · obtain ⟨kept, hkept⟩ := htaken other hother
      exact ⟨kept, (if_neg heq).trans hkept⟩
  · obtain ⟨after, hafter, hfine, hget⟩ := hrun w
    dsimp only
    rw [hafter]
    exact ⟨(hb w).1, hfine, hget⟩

theorem shared_tie : Tie (Shared taken) where
  known := by
    rintro brokers ⟨known, reads, -, hb⟩
    exact ⟨known, fun w => (hb w).1⟩
  learn := by
    rintro brokers ⟨_, reads, htaken, hb⟩ known
    exact ⟨known, reads, htaken, fun w => ⟨rfl, (hb w).2⟩⟩
  record records := shared_modify (fun known => known) fun _ => ⟨rfl, rfl⟩
  consult lookup := shared_modify (fun known => known) fun _ => ⟨rfl, rfl⟩
  lend side id spec input := by
    refine shared_modify (fun known => known) fun b => ?_
    dsimp only
    split
    · exact ⟨rfl, rfl⟩
    · exact ⟨rfl, rfl⟩
  endLoans holding := shared_modify (fun known => known) fun _ => ⟨rfl, rfl⟩
  writeParameter parameter := shared_modify
    (fun known => { known with catalog := known.catalog.addParameter parameter })
    fun _ => ⟨rfl, rfl⟩
  storeSecret := shared_storeSecret

theorem shared_track (logger : Logger) (event : Usage.Event) :
    InStep (Shared taken) (track logger event) := by
  have hrun : ∀ b : Broker, ∃ sink journal,
      (track logger event).runIn b = (.ok (), { b with sink := sink, journal := journal }) := by
    intro b
    rw [track, Action.runIn_bind, Action.runIn_get]
    dsimp only
    cases b.sink.track event with
    | ok tracked => exact ⟨_, _, rfl⟩
    | error failure => exact ⟨_, _, rfl⟩
  rintro brokers ⟨known, reads, htaken, hb⟩
  refine ⟨.ok (), fun w => ?_, known, reads, htaken, fun w => ?_⟩
  · obtain ⟨sink, journal, hw⟩ := hrun (brokers w)
    rw [hw]
  · obtain ⟨sink, journal, hw⟩ := hrun (brokers w)
    dsimp only
    rw [hw]
    exact hb w

/-! ## Steps -/

/-- A pin for exactly one is taken in every wiring. -/
theorem shared_pin {definition version : Identifier} {workspace actor : Option Identifier}
    (hone : workspace.isSome ≠ actor.isSome) :
    InStep (Shared taken) (pin definition version workspace actor) := by
  refine shared_tie.ofKnown (fun _ => .ok ()) (fun known => { known with
    catalog := known.catalog.pinFor definition version workspace actor }) fun b => ?_
  rw [runIn_pin, Catalog.pin, if_neg hone]
  split <;> rfl

theorem shared_perform (s : Step) (hoffered : s.isOffered = true) (hone : s.pinsOne = true) :
    InStep (Shared taken) (perform s) := by
  cases hplain : s.isPlain with
  | true => exact shared_tie.perform s hplain fun _ => shared_track
  | false =>
    cases s with
    | pin definition version workspace actor =>
      exact (shared_pin (bne_iff_ne.mp hone)).bind fun _ => inStep_pure _
    | failUsage failure =>
      have hset : InStep (Shared taken)
          (modify fun b : Broker => { b with sink := b.sink.setFailure failure }) :=
        shared_modify (fun known => known) fun _ => ⟨rfl, rfl⟩
      exact hset.bind fun _ => inStep_pure _
    | getActor | getParameter | writeParameter =>
      exact absurd (hoffered.symm.trans hplain) (by decide)
    | hydrate | seedParameters | failStore => cases hoffered
    | _ => cases hplain

/-! ## Coordinates that are handed out -/

/-- The step is answered by a coordinate. -/
def HandsOut (b : Broker) (s : Step) (coordinate : Secret.Coordinate) : Prop :=
  s.getsCoordinate = true ∧ (b.step s).1.outcome =
    .ok (Response.ofAnswer [(secretKey, .text coordinate.full)]).toDocument

variable {b after : Broker} {coordinate : Secret.Coordinate}

theorem coordinate_eq_of_answer {coordinate' : Secret.Coordinate}
    (h : (Response.ofAnswer [(secretKey, .text coordinate.full)]).toDocument =
      (Response.ofAnswer [(secretKey, .text coordinate'.full)]).toDocument) :
    coordinate = coordinate' := by
  have hobject : ∀ c : Secret.Coordinate,
      (Response.ofAnswer [(secretKey, .text c.full)]).toDocument = .object [
        (Response.succeededKey, .bool true), (Response.errorKey, .null),
        ("auth_payload", .object [(secretKey, .text c.full)])] := fun _ => rfl
  rw [hobject, hobject] at h
  have hfull : coordinate.full = coordinate'.full := by simpa using h
  exact Secret.Coordinate.full_injective hfull

/-- What leaves brokers in step lets a sound store go on to be sound. -/
theorem sound_after {α : Type} {action : Action α}
    (h : InStep (Shared fun _ => False) action) (hfine : b.store.Sound) :
    (action.runIn b).2.store.Sound := by
  have hstart : Shared (fun _ => False) fun _ => b :=
    ⟨b.known, b.store.get?, nofun, fun _ => ⟨rfl, hfine, fun _ => rfl⟩⟩
  obtain ⟨_, -, _, _, -, hb⟩ := h _ hstart
  exact (hb .memory).2.1

theorem stored_of_writeSecret {workspace : Identifier} {response answer : Response}
    (hfine : b.store.Sound)
    (h : (writeSecret workspace response).runIn b = (.ok answer, after)) :
    ∃ coordinate text, answer = .ofAnswer [(secretKey, .text coordinate.full)] ∧
      after.store.get? coordinate = some text := by
  rw [writeSecret, writeSecretFrom, Action.runIn_bind, runIn_prepareSecret] at h
  cases htext : Secret.payloadText b.searchRoom response with
  | error cause =>
    rw [htext] at h
    cases h
  | ok text =>
    rw [htext] at h
    dsimp only at h
    rw [runIn_commitSecret] at h
    dsimp only at h
    obtain ⟨store, hput, -⟩ :=
      hfine.exists_put (.mint b.secretLabel workspace (.minted (b.minted + 1))) text
    rw [hput] at h
    cases h
    exact ⟨_, text, rfl, Secret.Store.get?_put_self hput⟩

/-- The coordinate that a step is answered by can be read at once. -/
theorem HandsOut.stored {s : Step} (h : HandsOut b s coordinate) (hfine : b.store.Sound) :
    ∃ text, (b.step s).2.store.get? coordinate = some text := by
  obtain ⟨hgets, houtcome⟩ := h
  -- a write that is answered, in whatever broker it is made
  have hwritten : ∀ {workspace : Identifier} {response : Response} {mid : Broker},
      mid.store.Sound → (perform s).runIn b =
        ((((writeSecret workspace response).runIn mid).1.map Response.toDocument),
          ((writeSecret workspace response).runIn mid).2) →
      ∃ text, (b.step s).2.store.get? coordinate = some text := by
    intro workspace response mid hmid hrun
    have hfirst : ((perform s).runIn b).1 = _ := houtcome
    change ∃ text, ((perform s).runIn b).2.store.get? coordinate = some text
    rw [hrun] at hfirst ⊢
    cases hwrite : (writeSecret workspace response).runIn mid with
    | mk outcome after =>
      rw [hwrite] at hfirst
      cases outcome with
      | error fault => cases hfirst
      | ok answer =>
        obtain ⟨coordinate', text, rfl, htext⟩ := stored_of_writeSecret hmid hwrite
        obtain rfl := coordinate_eq_of_answer (Except.ok.inj hfirst)
        exact ⟨text, htext⟩
  cases s with
  | writeSecret workspace d =>
    cases hcheck : Response.check d with
    | invalid problems =>
      have hfirst : ((perform (.writeSecret workspace d)).runIn b).1 = _ := houtcome
      rw [perform, runIn_reading_invalid hcheck] at hfirst
      cases hfirst
    | valid response =>
      cases workspace with
      | ok id => exact hwritten hfine (runIn_perform_writeSecret hcheck id b)
      | error fault =>
        have hfirst : ((perform (.writeSecret (.error fault) d)).runIn b).1 = _ := houtcome
        rw [perform, runIn_reading_valid hcheck] at hfirst
        cases hfirst
  | completeAsAsked d =>
    cases hcheck : CompletionRequest.check d with
    | invalid problems =>
      rw [Step.getsCoordinate, Step.wantsSecret, hcheck] at hgets
      cases hgets
    | valid request =>
      have hasks : request.asSecret = true := by
        rw [Step.getsCoordinate, Step.wantsSecret, hcheck] at hgets
        exact hgets
      have hrun := runIn_perform_completeAsAsked hcheck b
      rw [completeAsAsked, Action.runIn_bind] at hrun
      cases hcomplete : (complete .source request).runIn b with
      | mk outcome mid =>
        rw [hcomplete] at hrun
        cases outcome with
        | error fault =>
          have hfirst : ((perform (.completeAsAsked d)).runIn b).1 = _ := houtcome
          rw [hrun] at hfirst
          cases hfirst
        | ok response =>
          dsimp only at hrun
          rw [if_pos hasks] at hrun
          have hmid : mid.store.Sound := by
            have hafter := sound_after (shared_tie.complete shared_track .source request) hfine
            rw [hcomplete] at hafter
            exact hafter
          exact hwritten hmid hrun
  | _ => cases hgets

/-! ## Sessions -/

variable {brokers : Wiring → Broker}

theorem shared_step (h : Shared taken brokers) {s : Step} (hoffered : s.isOffered = true)
    (hone : s.pinsOne = true) :
    (∃ outcome calls, ∀ w, ((brokers w).step s).1.outcome = outcome ∧
      ((brokers w).step s).1.calls = calls) ∧
    Shared (fun coordinate => taken coordinate ∨ ∃ w, HandsOut (brokers w) s coordinate)
      fun w => ((brokers w).step s).2 := by
  obtain ⟨outcome, hout, known', reads', htaken', hb'⟩ := shared_perform s hoffered hone brokers h
  obtain ⟨known, reads, -, hb⟩ := h
  refine ⟨⟨outcome, known'.calls.drop known.calls.length, fun w => ⟨hout w, ?_⟩⟩,
    known', reads', ?_, hb'⟩
  · change ((perform s).runIn (brokers w)).2.known.calls.drop (brokers w).known.calls.length = _
    rw [(hb w).1]
    exact congrArg (·.calls.drop known.calls.length) (hb' w).1
  · rintro coordinate (hold | ⟨w, hnew⟩)
    · exact htaken' coordinate hold
    · obtain ⟨text, htext⟩ := hnew.stored (hb w).2.1
      exact ⟨text, ((hb' w).2.2 coordinate).symm.trans htext⟩

def HandedOut (b : Broker) (script : List Step) (coordinate : Secret.Coordinate) : Prop :=
  ∃ moment ∈ b.moments script, HandsOut moment.1 moment.2 coordinate

theorem shared_run {script : List Step} (h : Shared taken brokers)
    (hscript : ∀ s ∈ script, s.isOffered = true ∧ s.pinsOne = true) :
    (∃ answers, ∀ w, ((brokers w).run script).1.map (fun r => (r.outcome, r.calls)) = answers) ∧
    Shared (fun coordinate => taken coordinate ∨ ∃ w, HandedOut (brokers w) script coordinate)
      fun w => ((brokers w).run script).2 := by
  induction script generalizing brokers taken with
  | nil =>
    obtain ⟨known, reads, htaken, hb⟩ := h
    refine ⟨⟨[], fun _ => rfl⟩, known, reads, ?_, hb⟩
    rintro coordinate (hold | ⟨w, moment, hmem, -⟩)
    · exact htaken coordinate hold
    · cases hmem
  | cons s rest ih =>
    obtain ⟨hoffered, hone⟩ := hscript s List.mem_cons_self
    obtain ⟨⟨outcome, calls, hanswer⟩, hstep⟩ := shared_step h hoffered hone
    obtain ⟨⟨answers, hanswers⟩, known, reads, htaken, hb⟩ :=
      ih hstep fun later hlater => hscript later (List.mem_cons_of_mem _ hlater)
    refine ⟨⟨(outcome, calls) :: answers, fun w => ?_⟩, known, reads, ?_, hb⟩
    · change (((brokers w).step s).1.outcome, ((brokers w).step s).1.calls) ::
        (((brokers w).step s).2.run rest).1.map _ = _
      rw [(hanswer w).1, (hanswer w).2, hanswers w]
    -- handed out before this step, at it, or later
    · rintro coordinate (hold | ⟨w, moment, hmem, hhands⟩)
      · exact htaken coordinate (.inl (.inl hold))
      · rcases List.mem_cons.mp hmem with rfl | hlater
        · exact htaken coordinate (.inl (.inr ⟨w, hhands⟩))
        · exact htaken coordinate (.inr ⟨w, moment, hlater, hhands⟩)

end

/-- Brokers of all wirings that were built alike share what they know. -/
theorem shared_ofParts (registry : Flow.Registry Flow) (settings : Settings) (key : Secret.Key) :
    Shared (fun _ => False) fun w =>
      match w with
      | .memory =>
        ofParts .memory registry (.recording .empty) (.clear .empty) settings.secretLabel
      | .rehearsal =>
        ofParts .rehearsal registry (.recording .empty) (.clear .empty) settings.secretLabel
      | .deployed =>
        ofParts .deployed registry (.forwarding (.ofSettings settings)) (.secured (.empty key))
          settings.secretLabel := by
  refine ⟨⟨.empty, [], registry, settings.secretLabel, usualRoom, 0, []⟩, fun _ => none, nofun, fun w => ?_⟩
  cases w with
  | memory | rehearsal => exact ⟨rfl, rfl, fun _ => rfl⟩
  | deployed => exact ⟨rfl, ⟨List.nodup_nil, nofun⟩, fun _ => rfl⟩

/-- A broker is built in every wiring, and they share what they know, or the same fault prevents it in
all. -/
theorem shared_build {settings : Settings} {key : Secret.Key}
    (hkey : Secret.Key.ofText? settings.encryptionKey = some key) (flows : Table String Flow) :
    (∃ fault, ∀ w, build settings flows w = .error fault) ∨
      ∃ brokers : Wiring → Broker, (∀ w, build settings flows w = .ok (brokers w)) ∧
        Shared (fun _ => False) brokers := by
  cases hregistry : registryOf flows with
  | error fault =>
    refine .inl ⟨fault, fun w => ?_⟩
    cases w with
    | memory | rehearsal => rw [build, assemble, hregistry]
    | deployed => rw [build, deploy, hkey, hregistry]
  | ok registry =>
    have hshared := shared_ofParts registry settings key
    refine .inr ⟨_, fun w => ?_, hshared⟩
    cases w with
    | memory | rehearsal => rw [build, assemble, hregistry]
    | deployed => rw [build, deploy, hkey, hregistry]

/-- With the same flows and the same label, and a key that can be read, a broker is built in every
wiring, or the same fault prevents it in all. In each of them a script of steps that all offer, of which
every pin is for one of a workspace and an actor, has the same outcomes and makes the same calls, step by
step. At every point the stores read the same under every coordinate, and a text under each that was
handed out. -/
theorem wirings_agree (settings : Settings) (flows : Table String Flow) (script : List Step)
    (key : Secret.Key) (hkey : Secret.Key.ofText? settings.encryptionKey = some key)
    (hscript : ∀ s ∈ script, s.isOffered = true ∧ s.pinsOne = true) :
    (∃ fault, ∀ w, build settings flows w = .error fault) ∨
    ∃ brokers : Wiring → Broker, (∀ w, build settings flows w = .ok (brokers w)) ∧
      (∃ answers, ∀ w, ((brokers w).run script).1.map (fun r => (r.outcome, r.calls)) = answers) ∧
      ∀ n, ∃ reads : Secret.Coordinate → Option String, ∀ w,
        (∀ coordinate, ((brokers w).run (script.take n)).2.store.get? coordinate =
          reads coordinate) ∧
        ∀ coordinate, HandedOut (brokers w) (script.take n) coordinate →
          ∃ text, reads coordinate = some text := by
  rcases shared_build hkey flows with hfault | ⟨brokers, hbuild, hshared⟩
  · exact .inl hfault
  · refine .inr ⟨brokers, hbuild, (shared_run hshared hscript).1, fun n => ?_⟩
    have hprefix : ∀ s ∈ script.take n, s.isOffered = true ∧ s.pinsOne = true :=
      fun s hmem => hscript s (List.mem_of_mem_take hmem)
    obtain ⟨-, known, reads, htaken, hb⟩ := shared_run hshared hprefix
    exact ⟨reads, fun w => ⟨(hb w).2.2, fun coordinate hhanded =>
      htaken coordinate (.inr ⟨w, hhanded⟩)⟩⟩

/-! ## The sample session in every wiring -/

/-- Settings that disable usage and name the key of zeros. -/
def filesSettings : Settings where
  environment := .test
  logLevel := "INFO"
  apiAddress := "http://localhost:8001"
  usageEnabled := false
  usageKey := none
  usageHost := "https://app.posthog.com"
  encryptionKey := "AAAAAAAAAAAAAAAAAAAAAAAAAAAAAAAAAAAAAAAAAAA="
  secretLabel := defaultSecretLabel

def filesKey : Secret.Key := ⟨List.replicate 32 (.ofNat 0), rfl⟩

/-- The secret of the completion, which a deployed broker seals, is read back in every wiring. -/
theorem wirings_agree_files :
    Secret.Key.ofText? filesSettings.encryptionKey = some filesKey ∧
    (∀ s ∈ filesScript, s.isOffered = true ∧ s.pinsOne = true) ∧
    (filesBroker.run filesScript).1.map (·.outcome.toOption.isSome) = [true, true, true, true] ∧
    ∃ brokers : Wiring → Broker, (∀ w, build filesSettings filesFlows w = .ok (brokers w)) ∧
      (∃ answers, ∀ w,
        ((brokers w).run filesScript).1.map (fun r => (r.outcome, r.calls)) = answers) ∧
      ∃ text, ∀ w, ((brokers w).run filesScript).2.store.get?
        (.mint defaultSecretLabel (.minted 3) (.minted 1)) = some text := by
  have hkey : Secret.Key.ofText? filesSettings.encryptionKey = some filesKey := by decide +kernel
  have hscript : ∀ s ∈ filesScript, s.isOffered = true ∧ s.pinsOne = true := by decide +kernel
  have hmemory : build filesSettings filesFlows .memory = .ok filesBroker := rfl
  refine ⟨hkey, hscript, by decide +kernel, ?_⟩
  rcases wirings_agree filesSettings filesFlows filesScript filesKey hkey hscript with
    ⟨fault, hfault⟩ | ⟨brokers, hbuild, hanswers, hreads⟩
  · cases (hfault .memory).symm.trans hmemory
  · have hfiles : brokers .memory = filesBroker :=
      Except.ok.inj ((hbuild .memory).symm.trans hmemory)
    obtain ⟨reads, hall⟩ := hreads 4
    have hstored : ((filesBroker.run filesScript).2.store.get?
        (.mint defaultSecretLabel (.minted 3) (.minted 1))).isSome = true := by decide +kernel
    obtain ⟨text, htext⟩ := Option.isSome_iff_exists.mp hstored
    refine ⟨brokers, hbuild, hanswers, text, fun w => ?_⟩
    calc ((brokers w).run filesScript).2.store.get? _
        = reads _ := (hall w).1 _
      _ = ((brokers .memory).run filesScript).2.store.get? _ := ((hall .memory).1 _).symm
      _ = some text := by rw [hfiles, htext]

/-- A store of any cipher that takes what the store of one wiring keeps, at any point of such a script,
reads as the stores of all. -/
theorem wirings_read_by_any_cipher {τ : Type} (cipher : Secret.Cipher τ) {settings : Settings}
    {flows : Table String Flow} {script : List Step} {key : Secret.Key} {brokers : Wiring → Broker}
    (hkey : Secret.Key.ofText? settings.encryptionKey = some key)
    (hscript : ∀ s ∈ script, s.isOffered = true ∧ s.pinsOne = true)
    (hbuild : ∀ w, build settings flows w = .ok (brokers w)) (n : Nat) (w w' : Wiring)
    (coordinate : Secret.Coordinate) :
    cipher.find? (cipher.keepAll .empty ((brokers w).run (script.take n)).2.store.entries)
        coordinate.full =
      ((brokers w').run (script.take n)).2.store.get? coordinate := by
  have hprefix : ∀ s ∈ script.take n, s.isOffered = true ∧ s.pinsOne = true :=
    fun s hmem => hscript s (List.mem_of_mem_take hmem)
  have hshared : Shared (fun _ => False) brokers := by
    rcases shared_build hkey flows with ⟨fault, hfault⟩ | ⟨built, hbuilt, hshared⟩
    · cases (hbuild .memory).symm.trans (hfault .memory)
    · have hsame : built = brokers := funext fun w => Except.ok.inj ((hbuilt w).symm.trans (hbuild w))
      exact hsame ▸ hshared
  obtain ⟨-, known, reads, -, hb⟩ := shared_run hshared hprefix
  obtain ⟨-, hsound, hreads⟩ := hb w
  obtain ⟨-, -, hreads'⟩ := hb w'
  rw [cipher.find?_keepAll_entries hsound, hreads, hreads']

/-- A pin for a workspace and an actor at once is refused in memory, and taken by the doubles. -/
theorem not_wirings_agree :
    ¬ ∀ settings flows script key, Secret.Key.ofText? settings.encryptionKey = some key →
      (∀ s ∈ script, s.isOffered = true) → ∀ memory rehearsal : Broker,
      build settings flows .memory = .ok memory → build settings flows .rehearsal = .ok rehearsal →
      (memory.run script).1.map (·.outcome) = (rehearsal.run script).1.map (·.outcome) := by
  intro hall
  let ambiguous : List Step := [.pin (.minted 1) (.minted 2) (some (.minted 3)) (some (.minted 4))]
  have houtcomes := hall filesSettings filesFlows ambiguous filesKey (by decide +kernel)
    (by decide +kernel) filesBroker
    (ofParts .rehearsal ⟨filesFlows⟩ (.recording .empty) (.clear .empty) defaultSecretLabel) rfl rfl
  have hclash : [Except.error Fault.ambiguousPin] = [Except.ok Document.null] := houtcomes
  cases hclash

end Broker

end AuthBroker
