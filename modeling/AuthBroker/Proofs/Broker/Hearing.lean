import AuthBroker.Proofs.Broker.InStep

/-! # What a sink can change

While a broker acts it writes records and tells of events. Both are notes, and the same notes are played
whatever sink is there (`Heard`). The sink decides only what becomes of them: an event arrives, or a
record of its rejection is written, or nothing comes of it where no event is to be sent
(`hearAll_journal`, `hearAll_events`). -/

namespace AuthBroker

/-! ## Sinks -/

namespace Usage.Sink

/-- The event as it arrives, if it does. -/
def arrival? (sink : Sink) (event : Event) : Option Event :=
  match sink with
  | .recording recorder =>
    match recorder.failure with
    | some _ => none
    | none => some event
  | .forwarding forwarder =>
    match forwarder.project, forwarder.failure with
    | some _, none => some (forwarder.complete event)
    | _, _ => none

/-- The record that is written when an event is rejected: by whoever handed over the event if the sink
passes the failure on, or by the sink itself. -/
def rejection? (sink : Sink) (logger : Logger) (event : Event) : Option LogRecord :=
  match sink with
  | .recording recorder =>
    recorder.failure.map fun failure =>
      logger.record .error ("Failed while reporting usage: " ++ failure.text)
  | .forwarding forwarder =>
    match forwarder.project, forwarder.failure with
    | some _, some failure => some (Forwarder.rejected event failure)
    | _, _ => none

/-- An event is rejected with one error record, or it arrives, or the sink sends no events at all. -/
def Settles (sink : Sink) (logger : Logger) (event : Event) : Prop :=
  (∃ record, sink.rejection? logger event = some record ∧ record.level = .error ∧
      sink.arrival? event = none) ∨
    (sink.rejection? logger event = none ∧ ∃ arrived, sink.arrival? event = some arrived) ∨
    (sink.rejection? logger event = none ∧ sink.arrival? event = none ∧
      ∃ forwarder, sink = .forwarding forwarder ∧ forwarder.project = none)

theorem settles (sink : Sink) (logger : Logger) (event : Event) : sink.Settles logger event := by
  match sink with
  | .recording ⟨_, some _⟩ => exact .inl ⟨_, rfl, rfl, rfl⟩
  | .recording ⟨_, none⟩ => exact .inr (.inl ⟨rfl, _, rfl⟩)
  | .forwarding ⟨some _, _, _, some _⟩ => exact .inl ⟨_, rfl, rfl, rfl⟩
  | .forwarding ⟨some _, _, _, none⟩ => exact .inr (.inl ⟨rfl, _, rfl⟩)
  | .forwarding ⟨none, _, _, _⟩ => exact .inr (.inr ⟨rfl, rfl, _, rfl, rfl⟩)

end Usage.Sink

/-! ## Notes -/

/-- What a broker says while it acts. An event comes with the logger of whoever hands it over. -/
inductive Note where
  | record (record : LogRecord)
  | event (logger : Logger) (event : Usage.Event)

namespace Note

/-- What a note adds to the journal. -/
def written (sink : Usage.Sink) : Note → List LogRecord
  | .record entry => [entry]
  | .event logger told => (sink.rejection? logger told).toList

/-- What a note adds to the events that arrived. -/
def arrived (sink : Usage.Sink) : Note → List Usage.Event
  | .record _ => []
  | .event _ told => (sink.arrival? told).toList

end Note

structure Ears where
  sink : Usage.Sink
  journal : List LogRecord

namespace Ears

def hear (ears : Ears) : Note → Ears
  | .record record => { ears with journal := ears.journal ++ [record] }
  | .event logger event =>
    match ears.sink.track event with
    | .ok (sink, records) => ⟨sink, ears.journal ++ records⟩
    | .error failure =>
      { ears with journal := ears.journal ++
        [logger.record .error ("Failed while reporting usage: " ++ failure.text)] }

def hearAll (ears : Ears) (notes : List Note) : Ears :=
  notes.foldl hear ears

variable (ears : Ears)

theorem hearAll_cons (note : Note) (notes : List Note) :
    ears.hearAll (note :: notes) = (ears.hear note).hearAll notes := rfl

theorem hearAll_append (notes later : List Note) :
    ears.hearAll (notes ++ later) = (ears.hearAll notes).hearAll later :=
  List.foldl_append

theorem hearAll_records (records : List LogRecord) :
    ears.hearAll (records.map .record) = { ears with journal := ears.journal ++ records } := by
  induction records generalizing ears with
  | nil => rw [List.append_nil]; rfl
  | cons record rest ih =>
    rw [List.map_cons, hearAll_cons, ih]
    change (⟨ears.sink, (ears.journal ++ [record]) ++ rest⟩ : Ears) = _
    rw [List.append_assoc]
    rfl

/-- What a note does, whatever the sink. The sink goes on to treat events as before. -/
theorem hear_spec (note : Note) :
    (ears.hear note).journal = ears.journal ++ note.written ears.sink ∧
      (ears.hear note).sink.events = ears.sink.events ++ note.arrived ears.sink ∧
      (ears.hear note).sink.arrival? = ears.sink.arrival? ∧
      (ears.hear note).sink.rejection? = ears.sink.rejection? := by
  obtain ⟨sink, journal⟩ := ears
  cases note with
  | record record => exact ⟨rfl, (List.append_nil _).symm, rfl, rfl⟩
  | event logger event =>
    match sink with
    | .recording ⟨events, none⟩ => exact ⟨rfl, rfl, rfl, rfl⟩
    | .recording ⟨events, some failure⟩ => exact ⟨rfl, (List.append_nil _).symm, rfl, rfl⟩
    | .forwarding ⟨none, deployment, sent, failure⟩ =>
      exact ⟨rfl, (List.append_nil _).symm, rfl, rfl⟩
    | .forwarding ⟨some project, deployment, sent, none⟩ => exact ⟨rfl, rfl, rfl, rfl⟩
    | .forwarding ⟨some project, deployment, sent, some failure⟩ =>
      exact ⟨rfl, (List.append_nil _).symm, rfl, rfl⟩

theorem written_hear (note other : Note) :
    other.written (ears.hear note).sink = other.written ears.sink := by
  cases other with
  | record record => rfl
  | event logger event =>
    rw [Note.written, Note.written, (ears.hear_spec note).2.2.2]

theorem arrived_hear (note other : Note) :
    other.arrived (ears.hear note).sink = other.arrived ears.sink := by
  cases other with
  | record record => rfl
  | event logger event =>
    rw [Note.arrived, Note.arrived, (ears.hear_spec note).2.2.1]

theorem hearAll_journal (notes : List Note) :
    (ears.hearAll notes).journal = ears.journal ++ notes.flatMap (·.written ears.sink) := by
  induction notes generalizing ears with
  | nil => exact (List.append_nil _).symm
  | cons note rest ih =>
    rw [hearAll_cons, ih, (ears.hear_spec note).1, List.flatMap_cons, List.append_assoc]
    simp only [written_hear]

theorem hearAll_events (notes : List Note) :
    (ears.hearAll notes).sink.events =
      ears.sink.events ++ notes.flatMap (·.arrived ears.sink) := by
  induction notes generalizing ears with
  | nil => exact (List.append_nil _).symm
  | cons note rest ih =>
    rw [hearAll_cons, ih, (ears.hear_spec note).2.1, List.flatMap_cons, List.append_assoc]
    simp only [arrived_hear]

end Ears

namespace Broker

open Connector Exchange

def ears (b : Broker) : Ears :=
  ⟨b.sink, b.journal⟩

def withEars (b : Broker) (ears : Ears) : Broker :=
  { b with sink := ears.sink, journal := ears.journal }

/-! ## Any sink hears the same notes -/

/-- Brokers with all sinks and journals at once, which are the same apart from these and from what came
of the notes they heard, all of a kind. -/
def Heard (kind : Note → Prop) (brokers : Ears → Broker) : Prop :=
  ∃ (b : Broker) (notes : List Note), (∀ note ∈ notes, kind note) ∧
    ∀ ears, brokers ears = b.withEars (ears.hearAll notes)

section
variable {α : Type} {kind : Note → Prop}

theorem heard_withEars (b : Broker) : Heard kind b.withEars :=
  ⟨b, [], by simp, fun _ => rfl⟩

/-- What neither reads nor writes the sink and the journal plays no notes. -/
theorem inStep_of_deaf {action : Action α}
    (hdeaf : ∀ (b : Broker) (ears : Ears), action.runIn (b.withEars ears) =
      ((action.runIn b).1, (action.runIn b).2.withEars ears)) : InStep (Heard kind) action := by
  rintro brokers ⟨b, notes, hkind, hb⟩
  refine ⟨(action.runIn b).1, fun ears => ?_, (action.runIn b).2, notes, hkind, fun ears => ?_⟩
  · rw [hb, hdeaf]
  · dsimp only
    rw [hb, hdeaf]

theorem inStep_modify_of_deaf {f : Broker → Broker}
    (hf : ∀ (b : Broker) (ears : Ears), f (b.withEars ears) = (f b).withEars ears) :
    InStep (Heard kind) (modify f : Action Unit) :=
  inStep_of_deaf fun b ears => congrArg (Prod.mk (Except.ok ())) (hf b ears)

/-- An action that answers nothing and leaves it to the sink and the journal what comes of some notes. -/
theorem inStep_of_notes {action : Action Unit} (notes : List Note)
    (hkind : ∀ note ∈ notes, kind note)
    (hrun : ∀ b, action.runIn b = (.ok (), b.withEars (b.ears.hearAll notes))) :
    InStep (Heard kind) action := by
  rintro brokers ⟨b, before, hbefore, hb⟩
  refine ⟨.ok (), fun ears => ?_, b, before ++ notes, ?_, fun ears => ?_⟩
  · rw [hrun]
  · intro note hnote
    exact (List.mem_append.mp hnote).elim (hbefore note) (hkind note)
  · dsimp only
    -- the new notes come after those that the brokers heard before
    rw [hrun, hb, Ears.hearAll_append]
    rfl

theorem inStep_track (hevent : ∀ logger event, kind (.event logger event)) (logger : Logger)
    (event : Usage.Event) : InStep (Heard kind) (track logger event) := by
  refine inStep_of_notes [.event logger event] (by simpa using hevent logger event) fun b => ?_
  rw [track, Action.runIn_bind, Action.runIn_get]
  change (match b.sink.track event with | .ok (_, _) => _ | .error _ => _ : Action Unit).runIn b =
    (.ok (), b.withEars (match b.sink.track event with | .ok (_, _) => _ | .error _ => _))
  cases b.sink.track event with
  | ok tracked => rfl
  | error failure => rfl

/-- However a note is taken down, brokers stay in step. -/
theorem heard_tie (hrecord : ∀ record, kind (.record record)) : Tie (Heard kind) where
  known := by
    rintro brokers ⟨b, notes, -, hb⟩
    refine ⟨b.known, fun ears => ?_⟩
    rw [hb]
    rfl
  learn := by
    rintro brokers ⟨b, notes, hkind, hb⟩ known
    refine ⟨b.knowing known, notes, hkind, fun ears => ?_⟩
    dsimp only
    rw [hb]
    rfl
  record records := by
    refine inStep_of_notes (records.map .record) ?_ fun b => ?_
    · intro note hnote
      obtain ⟨record, -, rfl⟩ := List.mem_map.mp hnote
      exact hrecord record
    · rw [Ears.hearAll_records]
      rfl
  consult lookup := inStep_modify_of_deaf fun _ _ => rfl
  lend side id spec input := by
    refine inStep_modify_of_deaf fun b ears => ?_
    have hshares : (b.withEars ears).sharesRecords = b.sharesRecords := rfl
    have hholds : (b.withEars ears).configuration? ((b.withEars ears).holding side id true) =
        b.configuration? (b.holding side id true) := rfl
    dsimp only
    rw [hshares, hholds]
    cases b.sharesRecords with
    | false => rfl
    | true =>
      cases b.configuration? (b.holding side id true) with
      | none => rfl
      | some configuration => rfl
  endLoans holding := inStep_modify_of_deaf fun _ _ => rfl
  writeParameter parameter := inStep_modify_of_deaf fun _ _ => rfl
  storeSecret coordinate text := by
    refine inStep_of_deaf fun b ears => ?_
    rw [storeSecret, Action.runIn_bind, Action.runIn_bind, Action.runIn_get, Action.runIn_get]
    have hstore : (b.withEars ears).store = b.store := rfl
    dsimp only
    rw [hstore]
    cases b.store.put coordinate text with
    | error failure => rfl
    | ok store => rfl

end

end Broker

end AuthBroker
