import AuthBroker.Broker.Secret
import AuthBroker.Proofs.Secret.Cipher
import AuthBroker.Proofs.Secret.Store
import Mathlib.Data.List.Perm.Basic
import Mathlib.Data.Set.Function
import Mathlib.Order.Interval.Set.Defs

/-! # Writes of secrets that run side by side

A write has two halves: it makes its text and its coordinate, and later it stores the text. Other
writes may do their halves in between, and the store may fail at any time. `run` takes any such
course. As long as the supply repeats no identifier, every write that is under way or has returned
has a coordinate of its own (`Issued`), so the store keeps exactly the writes that returned
(`Kept`), and each of them is read back ever after (`run_keeps_secrets`), also from a store of any
cipher that takes the same texts (`run_kept_by_any_cipher`). No write is lost on the way
(`total_run`). -/

namespace AuthBroker.Broker

open Exchange

/-! ## Courses of writes -/

/-- A write that has its text and its coordinate. -/
structure Ticket where
  workspace : Identifier
  response : Response
  coordinate : Secret.Coordinate
  text : String

/-- A write that returned, with what it answered. -/
structure Receipt extends Ticket where
  answer : Response

/-- The secret that a write reported. -/
def Receipt.secretId? (receipt : Receipt) : Option Document :=
  receipt.answer.payload.get? secretKey

/-- A broker and its writes: those between their halves, those that returned, in the order of their
storing, and the faults of those that failed. -/
structure Writers where
  broker : Broker
  pending : List Ticket
  returned : List Receipt
  faults : List Fault

/-- What can happen next: a write does its first half, the write at a place among the pending ones
does its second half, or the store begins to fail or to work. -/
inductive Move where
  | prepare (workspace : Identifier) (response : Response)
  | commit (place : Nat)
  | setFailure (failure : Option Failure)

namespace Writers

def prepare (supply : Nat → Identifier) (w : Writers) (workspace : Identifier)
    (response : Response) : Writers :=
  match (prepareSecret supply workspace response).runIn w.broker with
  | (.ok (coordinate, text), after) =>
    { w with
      broker := after
      pending := w.pending ++ [⟨workspace, response, coordinate, text⟩] }
  | (.error fault, after) => { w with broker := after, faults := w.faults ++ [fault] }

def commit (w : Writers) (place : Nat) : Writers :=
  match w.pending[place]? with
  | none => w
  | some ticket =>
    match (commitSecret ticket.workspace ticket.coordinate ticket.text).runIn w.broker with
    | (.ok answer, after) =>
      { w with
        broker := after
        pending := w.pending.eraseIdx place
        returned := w.returned ++ [⟨ticket, answer⟩] }
    | (.error fault, after) =>
      { w with
        broker := after
        pending := w.pending.eraseIdx place
        faults := w.faults ++ [fault] }

def step (supply : Nat → Identifier) (w : Writers) : Move → Writers
  | .prepare workspace response => w.prepare supply workspace response
  | .commit place => w.commit place
  | .setFailure failure =>
    { w with broker := { w.broker with store := w.broker.store.setFailure failure } }

/-- The writers after some moves, from a broker without writes. -/
def run (supply : Nat → Identifier) (b : Broker) (moves : List Move) : Writers :=
  moves.foldl (step supply) ⟨b, [], [], []⟩

/-- The writes that have a coordinate. -/
def tickets (w : Writers) : List Ticket :=
  w.pending ++ w.returned.map (·.toTicket)

end Writers

/-! ## The two halves -/

theorem runIn_prepareSecret (supply : Nat → Identifier) (workspace : Identifier)
    (response : Response) (b : Broker) :
    (prepareSecret supply workspace response).runIn b =
      match Secret.payloadText b.searchRoom response with
      | .ok text =>
        (.ok (.mint b.secretLabel workspace (supply (b.minted + 1)), text),
          { b with minted := b.minted + 1 })
      | .error cause => (.error (.unwritable cause), b) := by
  rw [prepareSecret, Action.runIn_bind, runIn_secretText]
  cases Secret.payloadText b.searchRoom response with
  | error cause => rfl
  | ok text => rfl

theorem runIn_commitSecret (workspace : Identifier) (coordinate : Secret.Coordinate) (text : String)
    (b : Broker) :
    (commitSecret workspace coordinate text).runIn b =
      match b.store.put coordinate text with
      | .ok store =>
        (.ok (.ofAnswer [(secretKey, .text coordinate.full)]),
          { b with
            store := store
            journal := b.journal ++ [storedRecord workspace coordinate] })
      | .error failure => (.error (.raised failure), b) := by
  have hstore : (storeSecret coordinate text).runIn b =
      match b.store.put coordinate text with
      | .ok store => (.ok (), { b with store := store })
      | .error failure => (.error (.raised failure), b) := by
    rw [storeSecret, Action.runIn_bind, Action.runIn_get]
    dsimp only
    cases b.store.put coordinate text with
    | error failure => rfl
    | ok store => rfl
  rw [commitSecret, Action.runIn_bind, hstore]
  cases b.store.put coordinate text with
  | error failure => rfl
  | ok store => rfl

/-- A write, whether or not it fails, uses up an identifier, stores and records, and does nothing else.
It fails because the response cannot be written or because the store does. -/
theorem exists_of_writeSecret (workspace : Identifier) (response : Response) (b : Broker) :
    ∃ outcome minted store journal, (writeSecret workspace response).runIn b =
        (outcome, { b with minted := minted, store := store, journal := journal }) ∧
      ∀ fault, outcome = .error fault →
        (∃ cause, fault = .unwritable cause) ∨ ∃ failure, fault = .raised failure := by
  rw [writeSecret, writeSecretFrom, Action.runIn_bind, runIn_prepareSecret]
  cases Secret.payloadText b.searchRoom response with
  | error cause => exact ⟨_, _, _, _, rfl, fun fault h => .inl ⟨cause, (Except.error.inj h).symm⟩⟩
  | ok text =>
    dsimp only
    rw [runIn_commitSecret]
    dsimp only
    cases b.store.put (.mint b.secretLabel workspace (.minted (b.minted + 1))) text with
    | error failure =>
      exact ⟨_, _, _, _, rfl, fun fault h => .inr ⟨failure, (Except.error.inj h).symm⟩⟩
    | ok store => exact ⟨_, _, _, _, rfl, fun fault h => nomatch h⟩

/-- What a completion with a secret adds to the completion itself. -/
theorem exists_of_completeAsAsked (request : CompletionRequest) (b : Broker) :
    ∃ outcome minted store journal, (completeAsAsked request).runIn b =
        (outcome, { ((complete .source request).runIn b).2 with
          minted := minted, store := store, journal := journal }) ∧
      ∀ fault, outcome = .error fault → ((complete .source request).runIn b).1 = .error fault ∨
        (∃ cause, fault = .unwritable cause) ∨ ∃ failure, fault = .raised failure := by
  rw [completeAsAsked, Action.runIn_bind]
  rcases (complete .source request).runIn b with ⟨fault | response, after⟩
  · exact ⟨_, _, _, _, rfl, fun other h => .inl h⟩
  · dsimp only
    split
    · obtain ⟨outcome, minted, store, journal, hrun, hfault⟩ :=
        exists_of_writeSecret request.workspace response after
      exact ⟨outcome, minted, store, journal, hrun, fun fault h => .inr (hfault fault h)⟩
    · exact ⟨_, _, _, _, rfl, fun fault h => nomatch h⟩

theorem Writers.prepare_eq (supply : Nat → Identifier) (w : Writers) (workspace : Identifier)
    (response : Response) :
    w.prepare supply workspace response =
      match Secret.payloadText w.broker.searchRoom response with
      | .ok text =>
        { w with
          broker := { w.broker with minted := w.broker.minted + 1 }
          pending := w.pending ++ [⟨workspace, response,
            .mint w.broker.secretLabel workspace (supply (w.broker.minted + 1)), text⟩] }
      | .error cause => { w with faults := w.faults ++ [.unwritable cause] } := by
  rw [Writers.prepare, runIn_prepareSecret]
  cases Secret.payloadText w.broker.searchRoom response with
  | error cause => rfl
  | ok text => rfl

theorem Writers.commit_eq (w : Writers) (place : Nat) :
    w.commit place =
      match w.pending[place]? with
      | none => w
      | some ticket =>
        match w.broker.store.put ticket.coordinate ticket.text with
        | .ok store =>
          { w with
            broker := { w.broker with
              store := store
              journal := w.broker.journal ++ [storedRecord ticket.workspace ticket.coordinate] }
            pending := w.pending.eraseIdx place
            returned := w.returned ++
              [⟨ticket, .ofAnswer [(secretKey, .text ticket.coordinate.full)]⟩] }
        | .error failure =>
          { w with
            pending := w.pending.eraseIdx place
            faults := w.faults ++ [.raised failure] } := by
  unfold Writers.commit
  cases w.pending[place]? with
  | none => rfl
  | some ticket =>
    dsimp only
    rw [runIn_commitSecret]
    cases w.broker.store.put ticket.coordinate ticket.text with
    | error failure => rfl
    | ok store => rfl

/-! ## Writes that have a coordinate -/

/-- Every write has the text of its response, and a coordinate with an identifier that was drawn
after `low` and not after `high` draws. No two coordinates are written alike. -/
structure Issued (supply : Nat → Identifier) (room : Nat) (label : String) (low high : Nat)
    (tickets : List Ticket) : Prop where
  text : ∀ t ∈ tickets, Secret.payloadText room t.response = .ok t.text
  coordinate : ∀ t ∈ tickets, ∃ n ∈ Set.Ioc low high,
    t.coordinate = .mint label t.workspace (supply n)
  distinct : (tickets.map (·.coordinate.full)).Nodup

section
variable {supply : Nat → Identifier} {room : Nat} {label : String} {low high : Nat} {tickets others : List Ticket}

theorem issued_nil : Issued supply room label low high [] where
  text := by simp
  coordinate := by simp
  distinct := List.nodup_nil

theorem Issued.of_subperm (h : Issued supply room label low high tickets)
    (hsub : others.Subperm tickets) : Issued supply room label low high others where
  text t ht := h.text t (hsub.subset ht)
  coordinate t ht := h.coordinate t (hsub.subset ht)
  distinct := by
    obtain ⟨between, hperm, hsublist⟩ := hsub
    have hnodup := h.distinct.sublist (hsublist.map _)
    exact (hperm.map _).nodup_iff.mp hnodup

/-- The next draw gives a coordinate that no earlier write has. -/
theorem Issued.mint_notMem (h : Issued supply room label low high tickets) (hle : low ≤ high)
    (workspace : Identifier) (hfresh : Set.InjOn supply (Set.Ioc low (high + 1))) :
    (Secret.Coordinate.mint label workspace (supply (high + 1))).full ∉
      tickets.map (·.coordinate.full) := by
  intro hmem
  obtain ⟨t, ht, hfull⟩ := List.mem_map.mp hmem
  obtain ⟨n, ⟨hlow, hhigh⟩, hn⟩ := h.coordinate t ht
  rw [hn] at hfull
  have hsupply := (Secret.Coordinate.full_mint_injective hfull).2.2
  have hnumber : n = high + 1 := hfresh ⟨hlow, by omega⟩ ⟨by omega, le_refl _⟩ hsupply
  omega

theorem Issued.cons {response : Response} {text : String}
    (h : Issued supply room label low high tickets) (hle : low ≤ high) (workspace : Identifier)
    (hfresh : Set.InjOn supply (Set.Ioc low (high + 1)))
    (htext : Secret.payloadText room response = .ok text) :
    Issued supply room label low (high + 1)
      (⟨workspace, response, .mint label workspace (supply (high + 1)), text⟩ :: tickets) where
  text := by
    intro t ht
    rcases List.mem_cons.mp ht with rfl | hrest
    · exact htext
    · exact h.text t hrest
  coordinate := by
    intro t ht
    rcases List.mem_cons.mp ht with rfl | hrest
    · exact ⟨high + 1, ⟨by omega, le_refl _⟩, rfl⟩
    · obtain ⟨n, ⟨hlow, hhigh⟩, hn⟩ := h.coordinate t hrest
      exact ⟨n, ⟨hlow, by omega⟩, hn⟩
  distinct := by
    rw [List.map_cons, List.nodup_cons]
    exact ⟨h.mint_notMem hle workspace hfresh, h.distinct⟩

end

/-! ## The invariant -/

/-- Every write has a coordinate of its own, the store keeps the writes that returned, and each of
these reported its coordinate. -/
structure Kept (supply : Nat → Identifier) (b : Broker) (w : Writers) : Prop where
  label : w.broker.secretLabel = b.secretLabel
  room : w.broker.searchRoom = b.searchRoom
  minted : b.minted ≤ w.broker.minted
  issued : Issued supply b.searchRoom b.secretLabel b.minted w.broker.minted w.tickets
  stored : w.broker.store.Keeps (w.returned.map fun r => (r.coordinate, r.text))
  reported : ∀ r ∈ w.returned, r.secretId? = some (.text r.coordinate.full)

section
variable {supply : Nat → Identifier} {b : Broker} {w : Writers}

theorem kept_start (supply : Nat → Identifier) (h : b.store.entries = []) :
    Kept supply b ⟨b, [], [], []⟩ where
  label := rfl
  room := rfl
  minted := le_refl _
  issued := issued_nil
  stored := Secret.Store.keeps_nil h
  reported := by simp

theorem Kept.prepare (h : Kept supply b w) (workspace : Identifier) (response : Response)
    (hfresh : Set.InjOn supply
      (Set.Ioc b.minted (w.prepare supply workspace response).broker.minted)) :
    Kept supply b (w.prepare supply workspace response) := by
  rw [Writers.prepare_eq] at hfresh ⊢
  cases htext : Secret.payloadText w.broker.searchRoom response with
  | error cause => exact { h with }
  | ok text =>
    rw [htext] at hfresh
    refine ⟨h.label, h.room, ?_, ?_, h.stored, h.reported⟩
    · have hle := h.minted
      dsimp only
      omega
    · have hissued := h.issued.cons h.minted workspace hfresh (h.room ▸ htext)
      rw [← h.label] at hissued ⊢
      refine hissued.of_subperm (List.Perm.subperm ?_)
      unfold Writers.tickets
      rw [List.append_assoc]
      exact List.perm_middle

theorem perm_eraseIdx {pending : List Ticket} {place : Nat} {ticket : Ticket}
    (h : pending[place]? = some ticket) : (ticket :: pending.eraseIdx place).Perm pending := by
  obtain ⟨hplace, hget⟩ := List.getElem?_eq_some_iff.mp h
  rw [← hget]
  exact List.getElem_cons_eraseIdx_perm hplace

theorem secretId?_ofAnswer (ticket : Ticket) (s : String) :
    Receipt.secretId? ⟨ticket, .ofAnswer [(secretKey, .text s)]⟩ = some (.text s) := rfl

theorem Kept.nodup_append (h : Kept supply b w) :
    (w.pending.map (·.coordinate.full) ++ w.returned.map (·.coordinate.full)).Nodup := by
  have hdistinct := h.issued.distinct
  rw [Writers.tickets, List.map_append, List.map_map] at hdistinct
  exact hdistinct

theorem Kept.nodup (h : Kept supply b w) : (w.returned.map (·.coordinate.full)).Nodup :=
  (List.nodup_append.mp h.nodup_append).2.1

/-- The coordinate of a write that is under way is not in the store. -/
theorem Kept.full_notMem (h : Kept supply b w) {ticket : Ticket} (hmem : ticket ∈ w.pending) :
    ticket.coordinate.full ∉
      (w.returned.map fun r => (r.coordinate, r.text)).map (·.1.full) := by
  have hne := (List.nodup_append.mp h.nodup_append).2.2
  rw [List.map_map]
  intro hreturned
  exact hne _ (List.mem_map_of_mem hmem) _ hreturned rfl

theorem Kept.commit (h : Kept supply b w) (place : Nat) : Kept supply b (w.commit place) := by
  rw [Writers.commit_eq]
  cases hplace : w.pending[place]? with
  | none => exact h
  | some ticket =>
    have hperm := perm_eraseIdx hplace
    have hmem : ticket ∈ w.pending := hperm.subset List.mem_cons_self
    dsimp only
    cases hput : w.broker.store.put ticket.coordinate ticket.text with
    | error failure =>
      refine { h with issued := h.issued.of_subperm (List.Sublist.subperm ?_) }
      exact (List.eraseIdx_sublist w.pending place).append_right _
    | ok store =>
      refine ⟨h.label, h.room, h.minted, h.issued.of_subperm (List.Perm.subperm ?_), ?_, ?_⟩
      · -- the write moves from the pending ones to the end
        unfold Writers.tickets
        dsimp only
        rw [List.map_append, ← List.append_assoc]
        have hlast : (w.pending.eraseIdx place ++ w.returned.map (·.toTicket) ++ [ticket]).Perm
            (ticket :: (w.pending.eraseIdx place ++ w.returned.map (·.toTicket))) :=
          List.perm_append_singleton _ _
        exact hlast.trans (hperm.append_right _)
      · have hstored := h.stored.put (h.full_notMem hmem) hput
        rw [List.map_append]
        exact hstored
      · intro r hr
        rcases List.mem_append.mp hr with hold | hnew
        · exact h.reported r hold
        · obtain rfl := List.mem_singleton.mp hnew
          exact secretId?_ofAnswer ticket _

theorem Kept.step (h : Kept supply b w) (move : Move)
    (hfresh : Set.InjOn supply (Set.Ioc b.minted (w.step supply move).broker.minted)) :
    Kept supply b (w.step supply move) := by
  cases move with
  | prepare workspace response => exact h.prepare workspace response hfresh
  | commit place => exact h.commit place
  | setFailure failure => exact { h with stored := h.stored.setFailure failure }

/-! ## What only grows -/

/-- Later writers: more was drawn, and what had returned stands first among what has. -/
structure Grows (w after : Writers) : Prop where
  minted : w.broker.minted ≤ after.broker.minted
  returned : w.returned <+: after.returned

theorem Grows.refl (w : Writers) : Grows w w :=
  ⟨le_refl _, List.prefix_refl _⟩

theorem Grows.trans {w mid after : Writers} (h : Grows w mid) (h' : Grows mid after) :
    Grows w after :=
  ⟨h.minted.trans h'.minted, h.returned.trans h'.returned⟩

theorem grows_prepare (supply : Nat → Identifier) (w : Writers) (workspace : Identifier)
    (response : Response) : Grows w (w.prepare supply workspace response) := by
  rw [Writers.prepare_eq]
  cases Secret.payloadText w.broker.searchRoom response with
  | error cause => exact ⟨le_refl _, List.prefix_refl _⟩
  | ok text => exact ⟨Nat.le_succ _, List.prefix_refl _⟩

theorem grows_commit (w : Writers) (place : Nat) : Grows w (w.commit place) := by
  rw [Writers.commit_eq]
  cases w.pending[place]? with
  | none => exact .refl w
  | some ticket =>
    dsimp only
    cases w.broker.store.put ticket.coordinate ticket.text with
    | error failure => exact ⟨le_refl _, List.prefix_refl _⟩
    | ok store => exact ⟨le_refl _, List.prefix_append _ _⟩

theorem grows_step (supply : Nat → Identifier) (w : Writers) (move : Move) :
    Grows w (w.step supply move) := by
  cases move with
  | prepare workspace response => exact grows_prepare supply w workspace response
  | commit place => exact grows_commit w place
  | setFailure failure => exact ⟨le_refl _, List.prefix_refl _⟩

theorem grows_foldl (supply : Nat → Identifier) (w : Writers) (moves : List Move) :
    Grows w (moves.foldl (Writers.step supply) w) := by
  induction moves generalizing w with
  | nil => exact .refl w
  | cons move rest ih => exact (grows_step supply w move).trans (ih _)

theorem grows_run (supply : Nat → Identifier) (b : Broker) (earlier later : List Move) :
    Grows (Writers.run supply b earlier) (Writers.run supply b (earlier ++ later)) := by
  rw [Writers.run, Writers.run, List.foldl_append]
  exact grows_foldl supply _ later

/-! ## Where every write is -/

def Move.isPrepare : Move → Bool
  | .prepare _ _ => true
  | .commit _ | .setFailure _ => false

/-- The number of writes that began. -/
def Writers.total (w : Writers) : Nat :=
  w.pending.length + w.returned.length + w.faults.length

theorem total_prepare (supply : Nat → Identifier) (w : Writers) (workspace : Identifier)
    (response : Response) : (w.prepare supply workspace response).total = w.total + 1 := by
  rw [Writers.prepare_eq]
  unfold Writers.total
  cases Secret.payloadText w.broker.searchRoom response with
  | error cause =>
    simp only [List.length_append, List.length_singleton]
    omega
  | ok text =>
    simp only [List.length_append, List.length_singleton]
    omega

theorem total_commit (w : Writers) (place : Nat) : (w.commit place).total = w.total := by
  rw [Writers.commit_eq]
  cases hplace : w.pending[place]? with
  | none => rfl
  | some ticket =>
    have hlength := (perm_eraseIdx hplace).length_eq
    rw [List.length_cons] at hlength
    unfold Writers.total
    dsimp only
    cases w.broker.store.put ticket.coordinate ticket.text with
    | error failure =>
      simp only [List.length_append, List.length_singleton]
      omega
    | ok store =>
      simp only [List.length_append, List.length_singleton]
      omega

/-- Every write that began is under way, has returned or has failed, and only one of these. -/
theorem total_run (supply : Nat → Identifier) (b : Broker) (moves : List Move) :
    (Writers.run supply b moves).total = moves.countP Move.isPrepare := by
  have hfold : ∀ w : Writers,
      (moves.foldl (Writers.step supply) w).total = w.total + moves.countP Move.isPrepare := by
    induction moves with
    | nil =>
      intro w
      rfl
    | cons move rest ih =>
      intro w
      rw [List.foldl_cons, ih, List.countP_cons]
      cases move with
      | prepare workspace response =>
        have hstep := total_prepare supply w workspace response
        simp only [Writers.step, hstep, Move.isPrepare, if_true]
        omega
      | commit place =>
        have hstep := total_commit w place
        simp only [Writers.step, hstep, Move.isPrepare, Bool.false_eq_true, if_false, Nat.add_zero]
      | setFailure failure =>
        simp only [Writers.step, Writers.total, Move.isPrepare, Bool.false_eq_true, if_false,
          Nat.add_zero]
  have hstart : Writers.total ⟨b, [], [], []⟩ = 0 := rfl
  rw [Writers.run, hfold, hstart, Nat.zero_add]

/-! ## Whole courses -/

theorem Kept.foldl (h : Kept supply b w) (moves : List Move)
    (hfresh : Set.InjOn supply
      (Set.Ioc b.minted (moves.foldl (Writers.step supply) w).broker.minted)) :
    Kept supply b (moves.foldl (Writers.step supply) w) := by
  induction moves generalizing w with
  | nil => exact h
  | cons move rest ih =>
    rw [List.foldl_cons] at hfresh ⊢
    have hgrows := grows_foldl supply (w.step supply move) rest
    have hstep : Kept supply b (w.step supply move) := by
      refine h.step move (hfresh.mono ?_)
      intro n hn
      exact ⟨hn.1, hn.2.trans hgrows.minted⟩
    exact ih hstep hfresh

theorem Kept.get? (h : Kept supply b w) {r : Receipt} (hr : r ∈ w.returned) :
    w.broker.store.get? r.coordinate = some r.text := by
  refine h.stored.get? ?_ (List.mem_map_of_mem hr)
  rw [List.map_map]
  exact h.nodup

theorem Kept.secrets_distinct (h : Kept supply b w) :
    w.returned.Pairwise fun r other => r.secretId? ≠ other.secretId? := by
  have hreturned := List.pairwise_map.mp h.nodup
  refine hreturned.imp_of_mem fun hr hother hne heq => hne ?_
  rw [h.reported _ hr, h.reported _ hother] at heq
  exact Document.text.inj (Option.some.inj heq)

theorem kept_run {moves : List Move} (hempty : b.store.entries = [])
    (hfresh : Set.InjOn supply
      (Set.Ioc b.minted (Writers.run supply b moves).broker.minted)) :
    Kept supply b (Writers.run supply b moves) :=
  (kept_start supply hempty).foldl moves hfresh

end

/-- However writes run side by side, and whichever fail: as long as the supply repeats nothing, every
write that returned reported a secret that no other reported, the store has one entry for each of
them, and each is read back from the time it returned on. The written coordinate tells the label, the
workspace and the identifier, whatever the label. -/
theorem run_keeps_secrets (supply : Nat → Identifier) (b : Broker) (moves : List Move)
    (hempty : b.store.entries = [])
    (hfresh : Set.InjOn supply
      (Set.Ioc b.minted (Writers.run supply b moves).broker.minted)) :
    let w := Writers.run supply b moves
    (∀ r ∈ w.returned, Secret.payloadText b.searchRoom r.response = .ok r.text ∧
      r.secretId? = some (.text r.coordinate.full) ∧
      ∃ n ∈ Set.Ioc b.minted w.broker.minted,
        r.coordinate = .mint b.secretLabel r.workspace (supply n)) ∧
    (w.returned.Pairwise fun r other => r.secretId? ≠ other.secretId?) ∧
    w.broker.store.entries = w.returned.map (fun r => (r.coordinate.full, r.text)) ∧
    (∀ earlier later, moves = earlier ++ later →
      ∀ r ∈ (Writers.run supply b earlier).returned,
        w.broker.store.get? r.coordinate = some r.text) ∧
    ∀ label label' workspace workspace' secret secret',
      (Secret.Coordinate.mint label workspace secret).full =
        (Secret.Coordinate.mint label' workspace' secret').full →
      label = label' ∧ workspace = workspace' ∧ secret = secret' := by
  intro w
  have hkept : Kept supply b w := kept_run hempty hfresh
  refine ⟨?_, hkept.secrets_distinct, ?_, ?_, ?_⟩
  · intro r hr
    have hticket : r.toTicket ∈ w.tickets :=
      List.mem_append_right _ (List.mem_map_of_mem hr)
    exact ⟨hkept.issued.text _ hticket, hkept.reported r hr, hkept.issued.coordinate _ hticket⟩
  · rw [hkept.stored.entries_eq, List.map_map]
    rfl
  · rintro earlier later rfl r hr
    exact hkept.get? ((grows_run supply b earlier later).returned.subset hr)
  · intro label label' workspace workspace' secret secret' h
    exact Secret.Coordinate.full_mint_injective h

/-- A broker with an empty vault, whose label looks like the end of a coordinate. -/
def vaultBroker : Broker :=
  ofParts .deployed .empty (.recording .empty) (.secured (.empty ⟨List.replicate 32 0, rfl⟩))
    "oauth_secret_v1"

/-- Two workspaces write side by side, and the second stores first. -/
def crossedMoves : List Move := [
  .prepare (.minted 7) ⟨true, none, [("access_token", .text "first")]⟩,
  .prepare (.minted 8) ⟨true, none, [("access_token", .text "second")]⟩,
  .commit 1,
  .commit 0]

theorem run_keeps_secrets_crossed :
    vaultBroker.store.entries = [] ∧
    Set.InjOn Identifier.minted
      (Set.Ioc vaultBroker.minted (Writers.run .minted vaultBroker crossedMoves).broker.minted) ∧
    (Writers.run .minted vaultBroker crossedMoves).returned.length = 2 ∧
    (Writers.run .minted vaultBroker crossedMoves).returned.Pairwise
      fun r other => r.secretId? ≠ other.secretId? := by
  have hminted : (Writers.run .minted vaultBroker crossedMoves).broker.minted = 2 := rfl
  have hfresh : Set.InjOn Identifier.minted
      (Set.Ioc vaultBroker.minted (Writers.run .minted vaultBroker crossedMoves).broker.minted) := by
    rw [hminted]
    exact Identifier.minted_injOn (by decide)
  exact ⟨rfl, hfresh, rfl, (run_keeps_secrets .minted vaultBroker crossedMoves rfl hfresh).2.1⟩

/-- A store of any cipher, when it takes the texts of the writes that returned in the order of their
storing, has one entry for each of them, and each is read back from the time it returned on. -/
theorem run_kept_by_any_cipher {τ : Type} (cipher : Secret.Cipher τ) (supply : Nat → Identifier)
    (b : Broker) (moves : List Move) (hempty : b.store.entries = [])
    (hfresh : Set.InjOn supply
      (Set.Ioc b.minted (Writers.run supply b moves).broker.minted)) :
    let w := Writers.run supply b moves
    let safe := cipher.keepAll .empty (w.returned.map fun r => (r.coordinate.full, r.text))
    safe.boxes.keys = w.returned.map (·.coordinate.full) ∧
    ∀ earlier later, moves = earlier ++ later →
      ∀ r ∈ (Writers.run supply b earlier).returned,
        cipher.find? safe r.coordinate.full = some r.text := by
  intro w safe
  have hkept : Kept supply b w := kept_run hempty hfresh
  have hnames : (w.returned.map fun r => (r.coordinate.full, r.text)).map Prod.fst =
      w.returned.map (·.coordinate.full) := List.map_map
  refine ⟨?_, ?_⟩
  · have hdistinct : (([] : List String) ++
        (w.returned.map fun r => (r.coordinate.full, r.text)).map Prod.fst).Nodup := by
      rw [List.nil_append, hnames]
      exact hkept.nodup
    exact (cipher.keys_keepAll .empty _ hdistinct).trans hnames
  · rintro earlier later rfl r hr
    have hreturned : r ∈ w.returned := (grows_run supply b earlier later).returned.subset hr
    have hkeys : (Table.keys (w.returned.map fun r => (r.coordinate.full, r.text)).reverse).Nodup := by
      rw [Table.keys, List.map_reverse, List.nodup_reverse, hnames]
      exact hkept.nodup
    have hmem : (r.coordinate.full, r.text) ∈
        (w.returned.map fun r => (r.coordinate.full, r.text)).reverse :=
      List.mem_reverse.mpr (List.mem_map_of_mem hreturned)
    rw [cipher.find?_keepAll, Table.get?_of_mem hkeys hmem]
    rfl

end AuthBroker.Broker
