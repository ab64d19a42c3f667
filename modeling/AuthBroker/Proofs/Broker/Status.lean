import AuthBroker.Proofs.Broker.Writing

/-! # The status of an exchange that was stored as a secret

A provider's answer is normalized, and a caller who asked for no secret gets it as it is. A caller
who asked for one gets a second response, made of the coordinate alone. That response has no status
of its own, so it counts as succeeded whatever the provider said (`completeAsAsked_status`): the
status of the exchange is in the secret, and what the caller is told agrees with it exactly when
the exchange succeeded without an error (`completeAsAsked_flag`). -/

namespace AuthBroker

/-- What a caller is told of an exchange: whether it succeeded, and its error. -/
def Exchange.Response.status (response : Exchange.Response) : Bool × Option String :=
  (response.succeeded, response.error)

namespace Broker

open Exchange

section
variable {b after : Broker} {side : Side} {response : Response}

/-! ## What an exchange answers -/

theorem exists_of_runIn_exchange {task : Flow.Task} {event : String} {request : ConsentRequest}
    {query : Fields} {otherwise : Option Fields} {s : Subject}
    (h : (exchange task event side request query otherwise).runIn b = (.ok s, after)) :
    ∃ noted, (subject side request).runIn b = (.ok s, noted) := by
  obtain ⟨resolved, noted, hsubject, h⟩ := Action.exists_of_runIn_bind h
  obtain ⟨input, filled, -, h⟩ := Action.exists_of_runIn_bind h
  obtain ⟨⟨⟩, called, -, h⟩ := Action.exists_of_runIn_bind h
  obtain ⟨⟨⟩, tracked, -, h⟩ := Action.exists_of_runIn_bind h
  cases h
  exact ⟨noted, hsubject⟩

/-- A completion answers what the flow of its subject says, normalized. -/
theorem exists_of_runIn_complete {request : CompletionRequest}
    (h : (complete side request).runIn b = (.ok response, after)) :
    ∃ s noted, (subject side request.toConsentRequest).runIn b = (.ok s, noted) ∧
      response = .ofAnswer s.flow.completion := by
  obtain ⟨s, exchanged, hexchange, h⟩ := Action.exists_of_runIn_bind h
  obtain ⟨noted, hsubject⟩ := exists_of_runIn_exchange hexchange
  refine ⟨s, noted, hsubject, ?_⟩
  dsimp only at h
  cases hsucceeded : (Response.ofAnswer s.flow.completion).succeeded with
  | true =>
    rw [hsucceeded] at h
    cases h
    rfl
  | false =>
    rw [hsucceeded] at h
    cases h
    rfl

/-! ## What a write answers -/

/-- A coordinate stands for success. -/
theorem status_ofAnswer_coordinate (coordinate : String) :
    (Response.ofAnswer [(secretKey, .text coordinate)]).status = (true, none) := rfl

theorem status_of_runIn_writeSecret {workspace : Identifier} {stored : Response}
    (h : (writeSecret workspace stored).runIn b = (.ok response, after)) :
    response.status = (true, none) := by
  obtain ⟨⟨coordinate, text⟩, prepared, -, h⟩ := Action.exists_of_runIn_bind h
  obtain ⟨⟨⟩, put, -, h⟩ := Action.exists_of_runIn_bind h
  obtain ⟨⟨⟩, recorded, -, h⟩ := Action.exists_of_runIn_bind h
  cases h
  exact status_ofAnswer_coordinate coordinate.full

/-! ## Both paths -/

/-- A completion is answered as the flow said, or by a coordinate if the caller asked for one. -/
theorem exists_of_runIn_completeAsAsked {request : CompletionRequest}
    (h : (completeAsAsked request).runIn b = (.ok response, after)) :
    ∃ s noted, (subject .source request.toConsentRequest).runIn b = (.ok s, noted) ∧
      (request.asSecret = false → response = .ofAnswer s.flow.completion) ∧
      (request.asSecret = true → response.status = (true, none)) := by
  obtain ⟨completed, mid, hcomplete, h⟩ := Action.exists_of_runIn_bind h
  obtain ⟨s, noted, hsubject, hcompleted⟩ := exists_of_runIn_complete hcomplete
  refine ⟨s, noted, hsubject, fun hasked => ?_, fun hasked => ?_⟩
  · rw [hasked] at h
    cases h
    exact hcompleted
  · rw [hasked] at h
    exact status_of_runIn_writeSecret h

end

/-- What a caller is told of an exchange is what the provider said of it, unless a secret was asked
for: then it is always told as succeeded without an error. So the two agree exactly when no secret
was asked for or the exchange did succeed without an error. -/
theorem completeAsAsked_status (b after : Broker) (request : CompletionRequest)
    (response : Response) (h : (completeAsAsked request).runIn b = (.ok response, after)) :
    ∃ s noted, (subject .source request.toConsentRequest).runIn b = (.ok s, noted) ∧
      let said := (Response.ofAnswer s.flow.completion).status
      (request.asSecret = false → response.status = said) ∧
      (request.asSecret = true → response.status = (true, none)) ∧
      (response.status = said ↔ request.asSecret = false ∨ said = (true, none)) := by
  obtain ⟨s, noted, hsubject, hplain, hsecret⟩ := exists_of_runIn_completeAsAsked h
  refine ⟨s, noted, hsubject, fun hasked => congrArg Response.status (hplain hasked), hsecret, ?_⟩
  cases hasked : request.asSecret with
  | false => simp [hplain hasked]
  | true => simp [hsecret hasked, eq_comm]

/-- Of two calls that differ only in whether a secret is asked for, one tells what the provider said.
The other tells the same exactly when the exchange succeeded without an error. -/
theorem completeAsAsked_flag (b after after' : Broker) (request : CompletionRequest)
    (told stored : Response)
    (htold : (completeAsAsked { request with asSecret := false }).runIn b = (.ok told, after))
    (hstored : (completeAsAsked { request with asSecret := true }).runIn b =
      (.ok stored, after')) :
    ∃ s noted, (subject .source request.toConsentRequest).runIn b = (.ok s, noted) ∧
      told = .ofAnswer s.flow.completion ∧
      (stored.status = told.status ↔ told.status = (true, none)) := by
  obtain ⟨s, noted, hsubject, hplain, -⟩ := exists_of_runIn_completeAsAsked htold
  obtain ⟨-, -, -, -, hsecret⟩ := exists_of_runIn_completeAsAsked hstored
  refine ⟨s, noted, hsubject, hplain rfl, ?_⟩
  rw [hsecret rfl, eq_comm]

/-! ## A denied exchange -/

/-- A provider that denies every exchange. -/
def denyingFlow : Flow :=
  { Flow.unscripted with
    completion := [(Response.succeededKey, .bool false), (Response.errorKey, .text "denied")] }

/-- A broker with one source, whose provider denies every exchange. -/
def denyingBroker : Broker :=
  { ofParts .memory ⟨[("files", denyingFlow)]⟩ (.recording .empty) (.clear .empty)
      "conduit_oauth_workspace_" with
    catalog := { Catalog.empty with
      definitions := [((.source, .minted 1), ⟨.minted 1, "Files", .source, .minted 2⟩)]
      versions := [(.minted 2, ⟨.minted 2, .minted 1, "files", "1.0.0", ⟨none, [], none⟩⟩)] } }

/-- A completion whose result is to be stored. -/
def denyingRequest : CompletionRequest where
  definition := .minted 1
  workspace := .minted 3
  redirectUrl := "https://app.example.com"
  actor := none
  input := none
  query := []
  asSecret := true

theorem exists_of_denyingRequest : ∃ response after,
    (completeAsAsked denyingRequest).runIn denyingBroker = (.ok response, after) :=
  ⟨_, _, rfl⟩

/-- The denied exchange is told as succeeded. -/
theorem completeAsAsked_status_denied : ∃ response after,
    (completeAsAsked denyingRequest).runIn denyingBroker = (.ok response, after) ∧
    response.status = (true, none) := by
  obtain ⟨response, after, h⟩ := exists_of_denyingRequest
  obtain ⟨-, -, -, -, hsecret, -⟩ :=
    completeAsAsked_status denyingBroker after denyingRequest response h
  exact ⟨response, after, h, hsecret rfl⟩

/-- What a caller is told need not be what the provider said. -/
theorem not_status_as_said : ¬ ∀ (b after : Broker) (request : CompletionRequest)
    (response : Response), (completeAsAsked request).runIn b = (.ok response, after) →
    ∃ s noted, (subject .source request.toConsentRequest).runIn b = (.ok s, noted) ∧
      response.status = (Response.ofAnswer s.flow.completion).status := by
  intro hclaim
  obtain ⟨response, after, h⟩ := exists_of_denyingRequest
  obtain ⟨s, noted, hsubject, hsaid⟩ := hclaim denyingBroker after denyingRequest response h
  obtain ⟨s', noted', hsubject', -, hsecret⟩ := exists_of_runIn_completeAsAsked h
  -- the look-ups are run to see that it is the denying flow that was found
  have hflow : (subject .source denyingRequest.toConsentRequest).runIn denyingBroker =
      (.ok ⟨⟨.minted 1, "Files", .source, .minted 2⟩,
        ⟨.minted 2, .minted 1, "files", "1.0.0", ⟨none, [], none⟩⟩, denyingFlow⟩, _) := rfl
  rw [hflow] at hsubject
  cases hsubject
  rw [hsecret rfl] at hsaid
  cases hsaid

end Broker

end AuthBroker
