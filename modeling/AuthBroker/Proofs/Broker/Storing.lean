import AuthBroker.Proofs.Broker.Writing
import AuthBroker.Proofs.Json.Reading
import AuthBroker.Proofs.Secret.Payload

/-! # What a stored response says

A response with a JSON-like payload is stored as a well-formed JSON text that reads back as the three
members of the response, so two different responses are never stored as one text. That takes a payload
of at most 256 levels: a write of a deeper one fails, and nothing is stored (`stored_reads_back`). -/

namespace AuthBroker

open Document (JsonLike Prints prints_of_jsonLike)

/-! ## Responses -/

namespace Exchange.Response

/-- The members of a response, in their order. -/
def members (response : Response) : Document :=
  .object [
    ("request_succeeded", .bool response.succeeded),
    ("request_error", response.error.elim .null .text),
    ("auth_payload", .object response.payload)]

theorem members_eq_toDocument (response : Response) : response.members = response.toDocument := by
  rw [members, toDocument]
  cases response.error with
  | none => rfl
  | some text => rfl

theorem members_injective {response other : Response} (h : response.members = other.members) :
    response = other := by
  obtain ⟨succeeded, error, payload⟩ := response
  obtain ⟨succeeded', error', payload'⟩ := other
  simp only [members, Document.object.injEq, List.cons.injEq, Prod.mk.injEq, Document.bool.injEq,
    true_and, and_true] at h
  obtain ⟨rfl, herror, rfl⟩ := h
  have hsame : error = error' := by
    cases error with
    | none =>
      cases error' with
      | none => rfl
      | some text => cases herror
    | some text =>
      cases error' with
      | none => cases herror
      | some text' =>
        cases herror
        rfl
  rw [hsame]

variable {response : Response}

theorem jsonLike_members (h : JsonLike (.object response.payload)) : JsonLike response.members := by
  apply JsonLike.object
  · change ["request_succeeded", "request_error", "auth_payload"].Nodup
    decide
  · intro entry hentry
    simp only [List.mem_cons, List.not_mem_nil, or_false] at hentry
    rcases hentry with rfl | rfl | rfl
    · exact .bool _
    · cases response.error with
      | none => exact .null
      | some text => exact .text text
    · exact h

theorem depth_members (response : Response) :
    response.members.depth = (Document.object response.payload).depth + 1 := by
  have herror : (response.error.elim Document.null Document.text).depth = 1 := by
    cases response.error with
    | none => rw [Option.elim, Document.depth]
    | some text => rw [Option.elim, Document.depth]
  have hpayload := (Document.object response.payload).one_le_depth
  simp only [members, Document.depth, Document.depthEntries, herror] at hpayload ⊢
  omega

/-- A response within the levels is printed as a text that denotes its members; any other is not. -/
theorem json_spec (h : JsonLike (.object response.payload)) :
    ((Document.object response.payload).depth ≤ 256 → ∃ text,
      response.json = .ok text ∧ Json.Denotes text.toList response.members) ∧
    (256 < (Document.object response.payload).depth → response.json = .error .tooDeep) := by
  have hprints := prints_of_jsonLike (jsonLike_members h) maxLevels
  have hdepth := depth_members response
  simp only [json, ← members_eq_toDocument]
  constructor
  · intro hle
    obtain ⟨cs, hcs, hdenotes⟩ := hprints.1 (by rw [maxLevels]; omega)
    refine ⟨String.ofList cs, by rw [hcs]; rfl, ?_⟩
    rwa [String.toList_ofList]
  · intro hlt
    rw [hprints.2 (by rw [maxLevels]; omega)]
    rfl

theorem denotes_of_json {text : String} (h : JsonLike (.object response.payload))
    (htext : response.json = .ok text) : Json.Denotes text.toList response.members := by
  obtain ⟨hshallow, hdeep⟩ := json_spec h
  by_cases hdepth : (Document.object response.payload).depth ≤ 256
  · obtain ⟨stored, hstored, hdenotes⟩ := hshallow hdepth
    rw [htext] at hstored
    cases hstored
    exact hdenotes
  · rw [hdeep (by omega)] at htext
    cases htext

/-- With room for the search, what is JSON-like has a text exactly if it is printed. -/
theorem payloadText_of_jsonLike {room : Nat} (h : JsonLike (.object response.payload))
    (hroom : (Document.object response.payload).depth ≤ room) :
    Secret.payloadText room response = response.json.mapError .unprintable :=
  Secret.payloadText_of_finite ((Document.searchLevels_le_depth _).trans hroom) h.proper
    h.not_holdsNonFinite

end Exchange.Response

/-! ## Stored texts -/

namespace Broker

open Exchange

/-- The coordinate of the next secret of a workspace. -/
def nextCoordinate (supply : Nat → Identifier) (workspace : Identifier) (b : Broker) :
    Secret.Coordinate :=
  .mint b.secretLabel workspace (supply (b.minted + 1))

/-- The write of a response returns, and leaves a text under the coordinate that it answers. -/
def Stores (supply : Nat → Identifier) (workspace : Identifier) (response : Response) (b : Broker)
    (text : String) : Prop :=
  ∃ after, (writeSecretFrom supply workspace response).runIn b =
      (.ok (.ofAnswer [(secretKey, .text (nextCoordinate supply workspace b).full)]), after) ∧
    after.store.get? (nextCoordinate supply workspace b) = some text

section
variable {supply : Nat → Identifier} {workspace : Identifier} {response : Response} {b : Broker}
  {text : String}

theorem runIn_writeSecretFrom_of_ok (htext : Secret.payloadText b.searchRoom response = .ok text) :
    (writeSecretFrom supply workspace response).runIn b =
      match b.store.put (nextCoordinate supply workspace b) text with
      | .ok store =>
        (.ok (.ofAnswer [(secretKey, .text (nextCoordinate supply workspace b).full)]),
          { b with
            minted := b.minted + 1
            store := store
            journal := b.journal ++ [storedRecord workspace (nextCoordinate supply workspace b)] })
      | .error failure => (.error (.raised failure), { b with minted := b.minted + 1 }) := by
  rw [writeSecretFrom, Action.runIn_bind, runIn_prepareSecret, htext]
  exact runIn_commitSecret workspace (nextCoordinate supply workspace b) text
    { b with minted := b.minted + 1 }

theorem runIn_writeSecretFrom_of_error {cause : Secret.Unwritable}
    (h : Secret.payloadText b.searchRoom response = .error cause) :
    (writeSecretFrom supply workspace response).runIn b = (.error (.unwritable cause), b) := by
  rw [writeSecretFrom, Action.runIn_bind, runIn_prepareSecret, h]

/-- A write stores a text as soon as the response has one and the store takes it. -/
theorem stores_iff : Stores supply workspace response b text ↔
    Secret.payloadText b.searchRoom response = .ok text ∧
      ∃ store, b.store.put (nextCoordinate supply workspace b) text = .ok store := by
  constructor
  · rintro ⟨after, hrun, hget⟩
    cases hpayload : Secret.payloadText b.searchRoom response with
    | error cause =>
      rw [runIn_writeSecretFrom_of_error hpayload] at hrun
      cases hrun
    | ok stored =>
      rw [runIn_writeSecretFrom_of_ok hpayload] at hrun
      cases hput : b.store.put (nextCoordinate supply workspace b) stored with
      | error failure =>
        rw [hput] at hrun
        cases hrun
      | ok store =>
        rw [hput] at hrun
        cases hrun
        have hsame := Secret.Store.get?_put_self hput
        rw [hget] at hsame
        cases hsame
        exact ⟨rfl, store, hput⟩
  · rintro ⟨hpayload, store, hput⟩
    have hrun : (writeSecretFrom supply workspace response).runIn b = _ :=
      runIn_writeSecretFrom_of_ok hpayload
    rw [hput] at hrun
    exact ⟨_, hrun, Secret.Store.get?_put_self hput⟩

end

/-! ## What is stored reads back -/

/-- A response with a JSON-like payload of at most 256 levels is stored wherever there is room to search
as many and the store takes it. A response with a deeper payload is never stored: its write fails and
leaves the broker as it is, and where there is room for the search, it is refused as too deep. The stored
text is well formed and reads back as the members of the response in their order, and no other response
is ever stored as that text. -/
theorem stored_reads_back (response : Response) (h : JsonLike (.object response.payload)) :
    ((Document.object response.payload).depth ≤ 256 → ∃ text,
      ∀ supply workspace b, (Document.object response.payload).depth ≤ b.searchRoom →
        (∃ store, b.store.put (nextCoordinate supply workspace b) text = .ok store) →
          Stores supply workspace response b text) ∧
    (256 < (Document.object response.payload).depth → ∀ supply workspace b,
      (∃ fault, (writeSecretFrom supply workspace response).runIn b = (.error fault, b)) ∧
      ((Document.object response.payload).depth ≤ b.searchRoom →
        (writeSecretFrom supply workspace response).runIn b =
          (.error (.unwritable (.unprintable .tooDeep)), b))) ∧
    ∀ supply workspace b text, Stores supply workspace response b text →
      Json.Denotes text.toList response.members ∧ Json.read? text = some response.members ∧
      ∀ (other : Response) supply workspace b, JsonLike (.object other.payload) →
        Stores supply workspace other b text → other = response := by
  obtain ⟨hshallow, hdeep⟩ := Response.json_spec h
  refine ⟨?_, ?_, ?_⟩
  · intro hdepth
    obtain ⟨text, htext, -⟩ := hshallow hdepth
    refine ⟨text, fun supply workspace b hroom hput => stores_iff.mpr ⟨?_, hput⟩⟩
    rw [Response.payloadText_of_jsonLike h hroom, htext]
    rfl
  · intro hdepth supply workspace b
    constructor
    · cases htext : Secret.payloadText b.searchRoom response with
      | error cause => exact ⟨_, runIn_writeSecretFrom_of_error htext⟩
      | ok text =>
        have hjson := Secret.json_of_payloadText htext
        rw [hdeep hdepth] at hjson
        cases hjson
    · intro hroom
      refine runIn_writeSecretFrom_of_error ?_
      rw [Response.payloadText_of_jsonLike h hroom, hdeep hdepth]
      rfl
  · intro supply workspace b text hstores
    have hjson := Secret.json_of_payloadText (stores_iff.mp hstores).1
    have hdenotes := Response.denotes_of_json h hjson
    refine ⟨hdenotes, Json.read?_of_denotes hdenotes, ?_⟩
    intro other supply' workspace' b' hother hstores'
    have hjson' := Secret.json_of_payloadText (stores_iff.mp hstores').1
    have hdenotes' := Response.denotes_of_json hother hjson'
    exact Response.members_injective (hdenotes'.unique hdenotes)

/-- A response with quotes, controls, an integer beyond every machine and a number with an exponent. -/
def oddResponse : Response where
  succeeded := false
  error := some "de\"nied\n"
  payload := [
    ("z", .list [.null, .bool true, .int 100000000000000000000]),
    ("a\\\x1f", .object [("é", .float (.finite true ⟨1, by decide⟩))])]

def oddText : String :=
  "\x7b\"request_succeeded\":false,\"request_error\":\"de\\\"nied\\n\",\"auth_payload\":\x7b" ++
    "\"z\":[null,true,100000000000000000000],\"a\\\\\\u001f\":\x7b\"é\":-5e-324\x7d\x7d\x7d"

def openBroker : Broker :=
  ofParts .memory .empty (.recording .empty) (.clear .empty) ""

theorem stored_reads_back_odd :
    JsonLike (.object oddResponse.payload) ∧
    Stores .minted (.minted 7) oddResponse openBroker oddText ∧
    Json.read? oddText = some oddResponse.members := by
  have hlist : JsonLike (.list [.null, .bool true, .int 100000000000000000000]) := by
    apply JsonLike.list
    simp only [List.forall_mem_cons, List.not_mem_nil, false_implies, implies_true, and_true]
    exact ⟨.null, .bool true, .int _⟩
  have hobject : JsonLike (.object [("é", .float (.finite true ⟨1, by decide⟩))]) := by
    apply JsonLike.object
    · exact List.nodup_singleton _
    · simpa using JsonLike.float true ⟨1, by decide⟩
  have hpayload : JsonLike (.object oddResponse.payload) := by
    apply JsonLike.object
    · change ["z", "a\\\x1f"].Nodup
      decide
    · simpa [oddResponse] using And.intro hlist hobject
  have hstores : Stores .minted (.minted 7) oddResponse openBroker oddText :=
    stores_iff.mpr ⟨by decide +kernel, _, rfl⟩
  exact ⟨hpayload, hstores, ((stored_reads_back oddResponse hpayload).2.2 _ _ _ _ hstores).2.1⟩

/-- Lists around a null, one in the other. -/
def nested : Nat → Document
  | 0 => .null
  | n + 1 => .list [nested n]

theorem jsonLike_nested (n : Nat) : JsonLike (nested n) := by
  induction n with
  | zero => exact .null
  | succ n ih =>
    apply JsonLike.list
    simpa using ih

theorem depth_nested (n : Nat) : (nested n).depth = n + 1 := by
  induction n with
  | zero => rw [nested, Document.depth]
  | succ n ih => simp [nested, Document.depth, Document.depthItems, ih]

def deepResponse : Response :=
  ⟨true, none, [("a", nested 300)]⟩

theorem jsonLike_deepResponse : JsonLike (.object deepResponse.payload) := by
  apply JsonLike.object
  · change ["a"].Nodup
    decide
  · simpa [deepResponse] using jsonLike_nested 300

theorem depth_deepResponse : (Document.object deepResponse.payload).depth = 302 := by
  simp [deepResponse, Document.depth, Document.depthEntries, depth_nested]

/-- A response that is nested too deep is stored nowhere. -/
theorem not_every_response_stored :
    ¬ ∀ response : Response, JsonLike (.object response.payload) →
      ∃ supply workspace b text, Stores supply workspace response b text ∧
        Json.read? text = some response.members := by
  intro hall
  obtain ⟨supply, workspace, b, text, hstores, -⟩ := hall deepResponse jsonLike_deepResponse
  have hjson := Secret.json_of_payloadText (stores_iff.mp hstores).1
  rw [(Response.json_spec jsonLike_deepResponse).2 (by rw [depth_deepResponse]; decide)] at hjson
  cases hjson

end Broker

end AuthBroker
