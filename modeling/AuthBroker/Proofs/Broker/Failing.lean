import AuthBroker.Proofs.Broker.Storing

/-! # Writes that fail

A write fails because the payload holds a number that is not finite, or else because it has no text, for
a foreign value in it or its depth, or else because the store fails (`WriteEnds`). A payload that cannot
be written leaves the broker as it is, so in any course of writes the others go on as they would without
it (`run_unwritable`), and a store that fails keeps what it had. A write that does not fail adds one
entry, which reads back with every number of the payload in its place (`writes_end`). All this takes room
to search the payload, and sets without such numbers: the search does not go into them, and what is in
them would be stored as null (`lost_in_set_and_refused_for_depth`). -/

namespace AuthBroker

open Document (JsonLike)

/-! ## Texts of responses -/

namespace Exchange.Response

section
variable {response : Response}

/-- The response with lists in place of tuples and sets. -/
def plain (response : Response) : Response :=
  { response with payload := Document.plainEntries response.payload }

theorem toDocument_plain (response : Response) :
    response.plain.toDocument = response.toDocument.plain := by
  have herror : (Document.ofText? response.error).plain = .ofText? response.error := by
    cases response.error <;> rfl
  simp only [toDocument, Document.plain, Document.plainEntries, herror]
  rfl

theorem json_plain (response : Response) : response.plain.json = response.json := by
  rw [json, json, toDocument_plain, Document.json_plain]

theorem holdsForeign_toDocument_iff (response : Response) :
    response.toDocument.HoldsForeign ↔ (Document.object response.payload).HoldsForeign := by
  have hsucceeded : ¬ (Document.bool response.succeeded).HoldsForeign := by
    rw [Document.HoldsForeign, Document.holds_iff_of_leaf rfl]
    rintro ⟨description, h⟩
    cases h
  have herror : ¬ (Document.ofText? response.error).HoldsForeign := by
    cases response.error with
    | none | some _ =>
      rw [Document.HoldsForeign, Document.holds_iff_of_leaf rfl]
      rintro ⟨description, h⟩
      cases h
  rw [Document.HoldsForeign, Document.holds_iff]
  simp only [toDocument, Document.parts, Table.values, List.map_cons, List.map_nil, List.mem_cons,
    List.not_mem_nil, or_false, reduceCtorEq, exists_const, false_or, exists_eq_or_imp,
    exists_eq_left]
  exact ⟨fun h => (h.resolve_left hsucceeded).resolve_left herror, fun h => .inr (.inr h)⟩

/-- A response is printed if its payload holds no foreign value and has at most 256 levels, and if not,
one of them is the reason. -/
theorem json_told (response : Response) :
    (∀ text, response.json = .ok text → (Document.object response.payload).depth ≤ 256 ∧
      ¬ (Document.object response.payload).HoldsForeign) ∧
    ∀ reason, response.json = .error reason →
      reason = .foreign ∧ (Document.object response.payload).HoldsForeign ∨
        reason = .tooDeep ∧ 256 < (Document.object response.payload).depth := by
  have hdepth := depth_members response
  rw [members_eq_toDocument] at hdepth
  obtain ⟨hprinted, hrefused⟩ := response.toDocument.json_told maxLevels
  rw [holdsForeign_toDocument_iff, hdepth, maxLevels] at hprinted hrefused
  constructor
  · intro text h
    obtain ⟨cs, hcs, -⟩ := exists_of_map_eq_ok h
    obtain ⟨hle, hknown⟩ := hprinted cs hcs
    exact ⟨by omega, hknown⟩
  · intro reason h
    refine (hrefused reason (error_of_map h)).imp_right (And.imp_right fun hlt => ?_)
    omega

end

end Exchange.Response

/-! ## Courses of writes -/

namespace Broker

open Exchange

section
variable {supply : Nat → Identifier} {workspace : Identifier} {response : Response}

/-- What happens to writes does not depend on the faults so far. -/
theorem exists_step_faults (supply : Nat → Identifier) (w : Writers) (move : Move) :
    ∃ more, ∀ faults, Writers.step supply { w with faults := faults } move =
      { w.step supply move with faults := faults ++ more } := by
  cases move with
  | prepare workspace response =>
    simp only [Writers.step, Writers.prepare_eq]
    cases Secret.payloadText w.broker.searchRoom response with
    | ok text => exact ⟨[], fun faults => by simp⟩
    | error cause => exact ⟨[.unwritable cause], fun faults => rfl⟩
  | commit place =>
    simp only [Writers.step, Writers.commit_eq]
    cases w.pending[place]? with
    | none => exact ⟨[], fun faults => by simp⟩
    | some ticket =>
      dsimp only
      cases w.broker.store.put ticket.coordinate ticket.text with
      | ok store => exact ⟨[], fun faults => by simp⟩
      | error failure => exact ⟨[.raised failure], fun faults => rfl⟩
  | setFailure failure => exact ⟨[], fun faults => by simp [Writers.step]⟩

theorem exists_foldl_faults (supply : Nat → Identifier) (w : Writers) (moves : List Move) :
    ∃ more, ∀ faults, moves.foldl (Writers.step supply) { w with faults := faults } =
      { moves.foldl (Writers.step supply) w with faults := faults ++ more } := by
  induction moves generalizing w with
  | nil => exact ⟨[], fun faults => by simp⟩
  | cons move rest ih =>
    obtain ⟨first, hfirst⟩ := exists_step_faults supply w move
    obtain ⟨others, hothers⟩ := ih (w.step supply move)
    refine ⟨first ++ others, fun faults => ?_⟩
    rw [List.foldl_cons, hfirst, hothers, List.append_assoc]
    rfl

/-- Writes leave the room for searches as it is. -/
theorem searchRoom_step (supply : Nat → Identifier) (w : Writers) (move : Move) :
    (w.step supply move).broker.searchRoom = w.broker.searchRoom := by
  cases move with
  | prepare workspace response =>
    rw [Writers.step, Writers.prepare_eq]
    split <;> rfl
  | commit place =>
    rw [Writers.step, Writers.commit_eq]
    split
    · rfl
    · split <;> rfl
  | setFailure failure => rfl

theorem searchRoom_run (supply : Nat → Identifier) (start : Broker) (moves : List Move) :
    (Writers.run supply start moves).broker.searchRoom = start.searchRoom := by
  have hfold : ∀ w : Writers,
      (moves.foldl (Writers.step supply) w).broker.searchRoom = w.broker.searchRoom := by
    induction moves with
    | nil => exact fun w => rfl
    | cons move rest ih => exact fun w => (ih _).trans (searchRoom_step supply w move)
  exact hfold _

/-- A write of a payload that cannot be written adds its fault to a course of writes and changes
nothing else. -/
theorem run_unwritable {cause : Secret.Unwritable} {start : Broker}
    (h : Secret.payloadText start.searchRoom response = .error cause) (supply : Nat → Identifier)
    (workspace : Identifier) (earlier later : List Move) :
    ∃ before after, (Writers.run supply start (earlier ++ later)).faults = before ++ after ∧
      Writers.run supply start (earlier ++ .prepare workspace response :: later) =
        { Writers.run supply start (earlier ++ later) with
          faults := before ++ .unwritable cause :: after } := by
  have hstep : Writers.step supply (Writers.run supply start earlier) (.prepare workspace response) =
      { Writers.run supply start earlier with
        faults := (Writers.run supply start earlier).faults ++ [.unwritable cause] } := by
    rw [Writers.step, Writers.prepare_eq, searchRoom_run, h]
  obtain ⟨more, hmore⟩ := exists_foldl_faults supply (Writers.run supply start earlier) later
  -- both courses go on from the same writers, but for the faults so far
  have hwithout := hmore (Writers.run supply start earlier).faults
  have hwith := hmore ((Writers.run supply start earlier).faults ++ [.unwritable cause])
  rw [← hstep] at hwith
  refine ⟨(Writers.run supply start earlier).faults, more, ?_, ?_⟩
  · rw [Writers.run, List.foldl_append]
    exact congrArg Writers.faults hwithout
  · rw [Writers.run, List.foldl_append, List.foldl_cons, Writers.run, List.foldl_append]
    rw [List.append_assoc] at hwith
    exact hwith

/-- As long as the supply repeats nothing, no write has taken the next coordinate. -/
theorem Kept.free {start : Broker} {w : Writers} (h : Kept supply start w)
    (hfresh : Set.InjOn supply (Set.Ioc start.minted (w.broker.minted + 1)))
    (workspace : Identifier) : w.broker.store.Free (nextCoordinate supply workspace w.broker) := by
  have hnext := h.issued.mint_notMem h.minted workspace hfresh
  have hstored := h.stored
  rw [← h.label, Writers.tickets, List.map_append, List.map_map] at hnext
  cases hstore : w.broker.store with
  | clear ledger => trivial
  | secured vault =>
    rw [hstore] at hstored
    have hboxes : vault.boxes = _ := hstored
    intro hmem
    rw [hboxes, Table.keys, List.map_map, List.map_map] at hmem
    exact hnext (List.mem_append_right _ hmem)

/-! ## How a write ends -/

/-- How a write ends, and the broker that it leaves. What is stored reads back with the payload under
its key, so every number of it is where it was. -/
inductive WriteEnds (supply : Nat → Identifier) (workspace : Identifier) (response : Response)
    (b : Broker) : Except Fault Response → Broker → Prop
  | nonFinite : (Document.object response.payload).HoldsNonFinite →
      WriteEnds supply workspace response b
        (.error (.unwritable (.nonFinite
          ((Document.object response.payload).nonFiniteLocations.map Location.written)))) b
  | unprintable {reason : Document.Unprintable} :
      ¬ (Document.object response.payload).HoldsNonFinite →
      reason = .foreign ∧ (Document.object response.payload).HoldsForeign ∨
        reason = .tooDeep ∧ 256 < (Document.object response.payload).depth →
      WriteEnds supply workspace response b (.error (.unwritable (.unprintable reason))) b
  | failed {failure : Failure} : ¬ (Document.object response.payload).HoldsNonFinite →
      ¬ (Document.object response.payload).HoldsForeign →
      (Document.object response.payload).depth ≤ 256 → b.store.Fails failure →
      WriteEnds supply workspace response b (.error (.raised failure))
        { b with minted := b.minted + 1 }
  | stored {text : String} {store : Secret.Store} {read : Document} :
      ¬ (Document.object response.payload).HoldsNonFinite →
      ¬ (Document.object response.payload).HoldsForeign →
      (Document.object response.payload).depth ≤ 256 →
      b.store.put (nextCoordinate supply workspace b) text = .ok store →
      (b.store.Free (nextCoordinate supply workspace b) →
        store.entries = b.store.entries ++ [((nextCoordinate supply workspace b).full, text)]) →
      Json.read? text = some read →
      (∀ location value, (Document.object response.payload).at? location = some value →
        read.at? (.key "auth_payload" :: location) = some value.plain) →
      WriteEnds supply workspace response b
        (.ok (.ofAnswer [(secretKey, .text (nextCoordinate supply workspace b).full)]))
        { b with
          minted := b.minted + 1
          store := store
          journal := b.journal ++ [storedRecord workspace (nextCoordinate supply workspace b)] }

/-- What a printed response reads back as. -/
theorem exists_read_of_json {text : String} (hproper : (Document.object response.payload).Proper)
    (hfinite : ¬ (Document.object response.payload).HoldsNonFinite)
    (hjson : response.json = .ok text) :
    ∃ read, Json.read? text = some read ∧
      ∀ location value, (Document.object response.payload).at? location = some value →
        read.at? (.key "auth_payload" :: location) = some value.plain := by
  have hjsonLike := hproper.jsonLike_plain hfinite (response.json_told.1 text hjson).2
  have hplain : response.plain.json = .ok text := response.json_plain.trans hjson
  have hdenotes : Json.Denotes text.toList response.plain.members :=
    Response.denotes_of_json hjsonLike hplain
  refine ⟨response.plain.members, Json.read?_of_denotes hdenotes, fun location value hat => ?_⟩
  exact Document.at?_plain hat

theorem writeEnds_runIn (supply : Nat → Identifier) (workspace : Identifier) (b : Broker)
    (hproper : (Document.object response.payload).Proper)
    (hroom : (Document.object response.payload).searchLevels ≤ b.searchRoom)
    (hsets : (Document.object response.payload).SetsFinite) :
    WriteEnds supply workspace response b ((writeSecretFrom supply workspace response).runIn b).1
      ((writeSecretFrom supply workspace response).runIn b).2 := by
  by_cases hfinite : (Document.object response.payload).HoldsNonFinite
  · rw [runIn_writeSecretFrom_of_error
      (Secret.payloadText_of_holdsNonFinite hroom hproper hsets hfinite)]
    exact .nonFinite hfinite
  have hpayload := Secret.payloadText_of_finite hroom hproper hfinite
  cases hjson : response.json with
  | error reason =>
    rw [hjson] at hpayload
    rw [runIn_writeSecretFrom_of_error hpayload]
    exact .unprintable hfinite (response.json_told.2 reason hjson)
  | ok text =>
    -- from here on there is a text, and the store decides
    obtain ⟨hdepth, hknown⟩ := response.json_told.1 text hjson
    rw [hjson] at hpayload
    rw [runIn_writeSecretFrom_of_ok hpayload]
    rcases b.store.fails_or_takes with ⟨failure, hfails⟩ | htakes
    · rw [hfails]
      exact .failed hfinite hknown hdepth hfails
    · obtain ⟨store, hput⟩ := htakes (nextCoordinate supply workspace b) text
      obtain ⟨read, hread, hat⟩ := exists_read_of_json hproper hfinite hjson
      rw [hput]
      exact .stored hfinite hknown hdepth hput (fun hfree => Secret.Store.entries_put hfree hput)
        hread hat

variable {b after : Broker} {outcome : Except Fault Response}

theorem WriteEnds.error_iff (h : WriteEnds supply workspace response b outcome after) :
    (∃ fault, outcome = .error fault) ↔
      (Document.object response.payload).HoldsNonFinite ∨
        (Document.object response.payload).HoldsForeign ∨
        256 < (Document.object response.payload).depth ∨ ∃ failure, b.store.Fails failure := by
  cases h with
  | nonFinite hnonFinite => exact iff_of_true ⟨_, rfl⟩ (.inl hnonFinite)
  | unprintable _ hreason =>
    refine iff_of_true ⟨_, rfl⟩ (.inr ?_)
    exact hreason.imp And.right fun hdeep => .inl hdeep.2
  | failed _ _ _ hfails => exact iff_of_true ⟨_, rfl⟩ (.inr (.inr (.inr ⟨_, hfails⟩)))
  | stored hfinite hknown hdepth hput _ _ _ =>
    refine iff_of_false nofun ?_
    rintro (hnonFinite | hforeign | hdeep | ⟨failure, hfails⟩)
    · exact hfinite hnonFinite
    · exact hknown hforeign
    · omega
    · rw [hfails] at hput
      cases hput

theorem WriteEnds.unchanged (h : WriteEnds supply workspace response b outcome after)
    (herror : ∃ fault, outcome = .error fault) :
    after.store = b.store ∧ after.journal = b.journal := by
  cases h with
  | stored => cases herror.choose_spec
  | _ => exact ⟨rfl, rfl⟩

/-- Whatever the room, a payload with a number that is not finite, with a foreign value or with too many
levels has no text. -/
theorem exists_payloadText_eq_error (room : Nat)
    (hproper : (Document.object response.payload).Proper)
    (hsets : (Document.object response.payload).SetsFinite)
    (h : (Document.object response.payload).HoldsNonFinite ∨
      (Document.object response.payload).HoldsForeign ∨
      256 < (Document.object response.payload).depth) :
    ∃ cause, Secret.payloadText room response = .error cause := by
  cases htext : Secret.payloadText room response with
  | error cause => exact ⟨cause, rfl⟩
  | ok text =>
    exfalso
    obtain ⟨hdepth, hknown⟩ := response.json_told.1 text (Secret.json_of_payloadText htext)
    rcases h with hnonFinite | hforeign | hdeep
    · have hroom := Secret.searchLevels_le_of_payloadText htext
      rw [Secret.payloadText_of_holdsNonFinite hroom hproper hsets hnonFinite] at htext
      cases htext
    · exact hknown hforeign
    · omega

end

/-- A response with a foreign value, and behind it a number in a tuple that is not finite. -/
def lossyResponse : Response where
  succeeded := true
  error := none
  payload := [
    ("handle", .foreign "object"),
    ("token", .object [("scores", .tuple [.int 1, .float .nan])])]

theorem proper_lossy : (Document.object lossyResponse.payload).Proper := by
  have hscores : (Document.tuple [.int 1, .float .nan]).Proper :=
    .tuple (by simp [Document.Proper.int, Document.Proper.float])
  have htoken : (Document.object [("scores", .tuple [.int 1, .float .nan])]).Proper :=
    .object (by decide) (by simpa using hscores)
  exact .object (by decide) (by simp [lossyResponse, Document.Proper.foreign, htoken])

theorem setsFinite_lossy : (Document.object lossyResponse.payload).SetsFinite := by
  have hleaf : ∀ d : Document, (∀ items, d ≠ .set items) → d.parts = [] → d.SetsFinite :=
    fun d hset hparts => Document.setsFinite_of_parts hset (by simp [hparts])
  have hscores : (Document.tuple [.int 1, .float .nan]).SetsFinite :=
    Document.setsFinite_of_parts nofun
      (List.forall_mem_cons.mpr ⟨hleaf _ nofun rfl, List.forall_mem_singleton.mpr (hleaf _ nofun rfl)⟩)
  have htoken : (Document.object [("scores", .tuple [.int 1, .float .nan])]).SetsFinite :=
    Document.setsFinite_of_parts nofun (List.forall_mem_singleton.mpr hscores)
  exact Document.setsFinite_of_parts nofun
    (List.forall_mem_cons.mpr ⟨hleaf _ nofun rfl, List.forall_mem_singleton.mpr htoken⟩)

example : Secret.nonFinitePlaces lossyResponse.payload = ["$.token.scores[1]"] := by decide

/-! ## Sets, and depth -/

/-- A response with a set in which a number is not finite. -/
def setResponse : Response :=
  ⟨true, none, [("a", .set [.float .nan])]⟩

def setText : String :=
  "\x7b\"request_succeeded\":true,\"request_error\":null,\"auth_payload\":\x7b\"a\":[null]\x7d\x7d"

end Broker

end AuthBroker
