import AuthBroker.Proofs.Agreement
import AuthBroker.Proofs.Broker.Verdict
import AuthBroker.Proofs.Broker.Writing
import AuthBroker.Proofs.Input.Dependence
import AuthBroker.Proofs.Input.Expression

/-! # Whose configuration a flow gets to see

A request that names an actor is filled from the configuration that is stored for this actor on the
request's side, and only at the places that the version declares for fields the request masks. These
places are all that a call depends on (`calls_of_alike`). Whose actor it is does not matter: neither
its definition nor its workspace is compared with those of the request, so a call can carry what
another workspace stored (`not_calls_of_owned`). -/

namespace AuthBroker.Broker

open Connector Exchange

/-! ## What an operation reads of a configuration -/

/-- The configuration of an actor with its secrets in place. -/
def stored? (b : Broker) (side : Side) (id : Identifier) : Option Fields :=
  (b.catalog.actors.get? (side, id)).map fun a =>
    (b.hydrated.get? (side, id)).getD a.configuration

/-- What keys lead to in the configuration of an actor. -/
def found? (b : Broker) (side : Side) (id : Identifier) (keys : List String) :
    Option (Except Path.Invalid (Option Document)) :=
  (b.stored? side id).map fun stored => (Document.object stored).lookup (Input.expression keys)

/-- The keys are declared for a field that the request masks, by the OAuth specification of the
version that applies, and the request names the actor. -/
inductive Reads (b : Broker) (operation : Operation) : Identifier → List String → Prop
  | masked {d : Definition} {v : Version} {spec : OAuthSpecification} {id : Identifier}
      {declarations : Input.Declarations} {field : String} {keys : List String} :
      Finds b operation d v → v.specification.oauth? = some spec →
      operation.request.actor = some id →
      Input.declared (.ofFields? spec.userInput) = .ok declarations →
      (field, keys) ∈ declarations →
      (field, .text Input.mask) ∈ operation.request.input.getD [] → Reads b operation id keys

/-- The brokers differ at most in their parameters and in what they keep of actors, their workspaces
apart. -/
structure Alike (b b' : Broker) : Prop where
  rest : b' = { b with catalog := b'.catalog, hydrated := b'.hydrated }
  definitions : b'.catalog.definitions = b.catalog.definitions
  versions : b'.catalog.versions = b.catalog.versions
  actorPins : b'.catalog.actorPins = b.catalog.actorPins
  workspacePins : b'.catalog.workspacePins = b.catalog.workspacePins
  workspaces : ∀ key, (b.catalog.actors.get? key).map (·.workspace) =
    (b'.catalog.actors.get? key).map (·.workspace)

section
variable {b b' : Broker} {operation : Operation} {d : Definition} {v : Version}

theorem Alike.registry (h : Alike b b') : b'.registry = b.registry := by
  rw [h.rest]

theorem Alike.selected (h : Alike b b') (actor : Option Identifier) (workspace : Identifier) :
    b'.catalog.selected d actor workspace = b.catalog.selected d actor workspace := by
  unfold Catalog.selected
  rw [h.actorPins, h.workspacePins]

theorem Alike.exists_actor (h : Alike b b') {key : Side × Identifier} {a : Actor}
    (hget : b.catalog.actors.get? key = some a) :
    ∃ a', b'.catalog.actors.get? key = some a' ∧ a'.workspace = a.workspace := by
  rcases cases_of_map_eq (h.workspaces key) with ⟨hnone, -⟩ | ⟨a₁, a', h₁, h', hsame⟩
  · rw [hnone] at hget
    cases hget
  · rw [h₁] at hget
    cases hget
    exact ⟨a', h', hsame.symm⟩

theorem Alike.counts (h : Alike b b') {workspace : Identifier} (hc : Counts b operation workspace) :
    Counts b' operation workspace := by
  cases hc with
  | own hnone => exact .own hnone
  | ofActor hactor hget =>
    obtain ⟨a', hget', hworkspace⟩ := h.exists_actor hget
    rw [← hworkspace]
    exact .ofActor hactor hget'

theorem Alike.finds (h : Alike b b') (hf : Finds b operation d v) : Finds b' operation d v := by
  obtain ⟨hd, workspace, hc, hv⟩ := hf
  refine ⟨?_, workspace, h.counts hc, ?_⟩
  · rw [h.definitions]
    exact hd
  · rw [h.versions, h.selected]
    exact hv

/-- What is given to the flow is the same, if all that the operation reads is. -/
theorem Alike.gives (h : Alike b b')
    (hreads : ∀ id keys, Reads b operation id keys →
      b.found? operation.side id keys = b'.found? operation.side id keys)
    (hfinds : Finds b operation d v) {input : Option Fields} (hgives : Gives b operation v input) :
    Gives b' operation v input := by
  cases hgives with
  | unspecified hspec => exact .unspecified hspec
  | own hspec hnone => exact .own hspec hnone
  | @filled spec id a result warnings hspec hactor hget hschema hreconcile =>
    obtain ⟨a', hget', -⟩ := h.exists_actor hget
    cases hdeclared : Input.declared (.ofFields? spec.userInput) with
    | error defect =>
      rw [Input.reconcile, hdeclared] at hreconcile
      cases hreconcile
    | ok declarations =>
      have hsame : ∀ field keys, (field, keys) ∈ declarations →
          (field, .text Input.mask) ∈ operation.request.input.getD [] →
          (Document.object ((b.hydrated.get? (operation.side, id)).getD a.configuration)).lookup
              (Input.expression keys) =
            (Document.object ((b'.hydrated.get? (operation.side, id)).getD a'.configuration)).lookup
              (Input.expression keys) := by
        intro field keys hkeys hmasked
        have hfound := hreads id keys (.masked hfinds hspec hactor hdeclared hkeys hmasked)
        unfold found? stored? at hfound
        rw [hget, hget'] at hfound
        exact Option.some.inj hfound
      obtain ⟨warnings', hreconcile'⟩ := Input.reconcile_congr hdeclared hsame hreconcile
      exact .filled hspec hactor hget' hschema hreconcile'

theorem Alike.decides (h : Alike b b')
    (hreads : ∀ id keys, Reads b operation id keys →
      b.found? operation.side id keys = b'.found? operation.side id keys)
    {verdict : Verdict} (hdecides : Decides b operation verdict) : Decides b' operation verdict := by
  cases hdecides with
  | noDefinition hnone =>
    rw [← h.definitions] at hnone
    exact .noDefinition hnone
  | @noActor d id hd hactor hnone =>
    rw [← h.definitions] at hd
    refine .noActor hd hactor ?_
    have hworkspace := h.workspaces (operation.side, id)
    rw [hnone] at hworkspace
    exact Option.map_eq_none_iff.mp hworkspace.symm
  | @noVersion d workspace hd hcounts hnone =>
    rw [← h.definitions] at hd
    rw [← h.versions, ← h.selected] at hnone
    rw [← h.selected]
    exact .noVersion hd (h.counts hcounts) hnone
  | noFlow hfinds hnone =>
    rw [← h.registry] at hnone
    exact .noFlow (h.finds hfinds) hnone
  | malformed hfinds hflow hspec hactor hschema hdefect =>
    rw [← h.registry] at hflow
    exact .malformed (h.finds hfinds) hflow hspec hactor hschema hdefect
  | raises hfinds hflow hgives hfailure =>
    rw [← h.registry] at hflow
    exact .raises (h.finds hfinds) hflow (h.gives hreads hfinds hgives) hfailure
  | answers hfinds hflow hgives hfailure =>
    rw [← h.registry] at hflow
    exact .answers (h.finds hfinds) hflow (h.gives hreads hfinds hgives) hfailure

end

/-! ## The calls of an operation -/

/-- The calls of flows that are made before a verdict. -/
def Verdict.calls : Verdict → List Flow.Call
  | .refused _ => []
  | .raised call _ => [call]
  | .answered call _ _ => [call]

theorem Meets.calls {b after : Broker} {operation : Operation} {verdict : Verdict}
    {outcome : Except Fault Answer} (h : Meets b operation verdict outcome after) :
    after.calls = b.calls ++ verdict.calls := by
  cases verdict with
  | refused fault =>
    have hcalls := congrArg Broker.calls h.2
    rw [Verdict.calls, List.append_nil]
    exact hcalls
  | raised call failure => exact congrArg Broker.calls h.2
  | answered call flow event => exact congrArg Broker.calls h.2

theorem calls_of_decides {b : Broker} {operation : Operation} {verdict : Verdict}
    (hkeyed : b.catalog.Keyed) (h : Decides b operation verdict) :
    (operation.perform.runIn b).2.calls = b.calls ++ verdict.calls :=
  (h.meets hkeyed).calls

/-- Storing the result of a completion makes no call. -/
theorem calls_completeAsAsked (request : CompletionRequest) (b : Broker) :
    ((completeAsAsked request).runIn b).2.calls =
      ((Operation.completion .source request).perform.runIn b).2.calls := by
  obtain ⟨outcome, minted, store, journal, hrun, -⟩ := exists_of_completeAsAsked request b
  rw [hrun, Operation.perform, Action.runIn_map]

/-! ## The workspace of a request -/

namespace Operation

/-- The operation, asked for in another workspace. -/
def inWorkspace (workspace : Identifier) : Operation → Operation
  | .consent side request => .consent side { request with workspace := workspace }
  | .completion side request => .completion side { request with workspace := workspace }

variable (operation : Operation) (workspace : Identifier)

@[simp]
theorem side_inWorkspace : (operation.inWorkspace workspace).side = operation.side := by
  cases operation <;> rfl

@[simp]
theorem request_inWorkspace : (operation.inWorkspace workspace).request =
    { operation.request with workspace := workspace } := by
  cases operation <;> rfl

@[simp]
theorem otherwise_inWorkspace :
    (operation.inWorkspace workspace).otherwise = operation.otherwise := by
  cases operation <;> rfl

theorem call_inWorkspace (version : Version) (input : Option Fields) :
    (operation.inWorkspace workspace).call version input =
      { operation.call version input with workspace := workspace } := by
  cases operation <;> rfl

theorem event_inWorkspace (definition : Definition) (version : Version) :
    (operation.inWorkspace workspace).event definition version =
      { operation.event definition version with
        distinctId := workspace.text
        groups := some [("workspace", workspace.toDocument)] } := by
  cases operation <;> rfl

end Operation

def Verdict.inWorkspace (workspace : Identifier) : Verdict → Verdict
  | .refused fault => .refused fault
  | .raised call failure => .raised { call with workspace := workspace } failure
  | .answered call flow event =>
    .answered { call with workspace := workspace } flow { event with
      distinctId := workspace.text
      groups := some [("workspace", workspace.toDocument)] }

theorem Verdict.calls_inWorkspace (workspace : Identifier) (verdict : Verdict) :
    (verdict.inWorkspace workspace).calls =
      verdict.calls.map fun call => { call with workspace := workspace } := by
  cases verdict <;> rfl

theorem Verdict.length_calls_le (verdict : Verdict) : verdict.calls.length ≤ 1 := by
  cases verdict with
  | refused fault => exact Nat.zero_le 1
  | raised call failure => exact Nat.le_refl 1
  | answered call flow event => exact Nat.le_refl 1

section
variable {b : Broker} {operation : Operation} {d : Definition} {v : Version} {id : Identifier}

theorem Counts.inWorkspace {counted : Identifier} (h : Counts b operation counted)
    (hactor : operation.request.actor = some id) (workspace : Identifier) :
    Counts b (operation.inWorkspace workspace) counted := by
  cases h with
  | own hnone =>
    rw [hnone] at hactor
    cases hactor
  | ofActor hother hget => exact .ofActor (by simpa using hother) (by simpa using hget)

theorem Finds.inWorkspace (h : Finds b operation d v)
    (hactor : operation.request.actor = some id) (workspace : Identifier) :
    Finds b (operation.inWorkspace workspace) d v := by
  obtain ⟨hd, counted, hcounts, hv⟩ := h
  exact ⟨by simpa using hd, counted, hcounts.inWorkspace hactor workspace, by simpa using hv⟩

theorem Gives.inWorkspace {input : Option Fields} (h : Gives b operation v input)
    (hactor : operation.request.actor = some id) (workspace : Identifier) :
    Gives b (operation.inWorkspace workspace) v input := by
  cases h with
  | unspecified hspec =>
    rw [← operation.otherwise_inWorkspace workspace]
    exact .unspecified hspec
  | own hspec hnone =>
    rw [hnone] at hactor
    cases hactor
  | filled hspec hother hget hschema hreconcile =>
    exact .filled hspec (by simpa using hother) (by simpa using hget) hschema
      (by simpa using hreconcile)

/-- For a request that names an actor, the workspace decides nothing. It is only handed on. -/
theorem Decides.inWorkspace {verdict : Verdict} (h : Decides b operation verdict)
    (hactor : operation.request.actor = some id) (workspace : Identifier) :
    Decides b (operation.inWorkspace workspace) (verdict.inWorkspace workspace) := by
  cases h with
  | noDefinition hnone =>
    have hdecides := @Decides.noDefinition b (operation.inWorkspace workspace) (by simpa using hnone)
    rw [Operation.side_inWorkspace, Operation.request_inWorkspace] at hdecides
    exact hdecides
  | noActor hd hother hnone =>
    have hdecides := @Decides.noActor b (operation.inWorkspace workspace) _ _ (by simpa using hd)
      (by simpa using hother) (by simpa using hnone)
    rw [Operation.side_inWorkspace] at hdecides
    exact hdecides
  | noVersion hd hcounts hnone =>
    have hdecides := @Decides.noVersion b (operation.inWorkspace workspace) _ _ (by simpa using hd)
      (hcounts.inWorkspace hactor workspace) (by simpa using hnone)
    rw [Operation.request_inWorkspace] at hdecides
    exact hdecides
  | noFlow hfinds hnone => exact .noFlow (hfinds.inWorkspace hactor workspace) hnone
  | malformed hfinds hflow hspec hother hschema hdefect =>
    exact .malformed (hfinds.inWorkspace hactor workspace) hflow hspec (by simpa using hother)
      hschema hdefect
  | raises hfinds hflow hgives hfailure =>
    rw [Verdict.inWorkspace, ← Operation.call_inWorkspace]
    exact .raises (hfinds.inWorkspace hactor workspace) hflow (hgives.inWorkspace hactor workspace)
      hfailure
  | answers hfinds hflow hgives hfailure =>
    rw [Verdict.inWorkspace, ← Operation.call_inWorkspace, ← Operation.event_inWorkspace]
    exact .answers (hfinds.inWorkspace hactor workspace) hflow
      (hgives.inWorkspace hactor workspace) hfailure

end

/-- A request for consent or completion makes at most one call. What is stored of actors enters it only
through the places that the version declares for fields the request masks, in the configuration of the
actor the request names: brokers that agree there make the same calls, whatever the definition of the
actor and of all others. The workspace of such a request is only handed on, and storing the result of
a completion makes no further call. -/
theorem calls_of_alike (b b' : Broker) (operation : Operation) (told told' : List Population)
    (hcatalog : b.catalog = Catalog.populated told)
    (hcatalog' : b'.catalog = Catalog.populated told') (halike : Alike b b')
    (hreads : ∀ id keys, Reads b operation id keys →
      b.found? operation.side id keys = b'.found? operation.side id keys) :
    ∃ made : List Flow.Call, made.length ≤ 1 ∧
      (operation.perform.runIn b).2.calls = b.calls ++ made ∧
      (operation.perform.runIn b').2.calls = b.calls ++ made ∧
      (∀ id workspace, operation.request.actor = some id →
        ((operation.inWorkspace workspace).perform.runIn b).2.calls =
          b.calls ++ made.map fun call => { call with workspace := workspace }) ∧
      ∀ request, operation = .completion .source request →
        ((completeAsAsked request).runIn b).2.calls = b.calls ++ made ∧
        ((completeAsAsked request).runIn b').2.calls = b.calls ++ made := by
  have hkeyed : b.catalog.Keyed := by
    rw [hcatalog]
    exact Catalog.populated_keyed told
  have hkeyed' : b'.catalog.Keyed := by
    rw [hcatalog']
    exact Catalog.populated_keyed told'
  obtain ⟨verdict, hdecides⟩ := exists_decides b operation
  have hcalls := calls_of_decides hkeyed hdecides
  have hcalls' : (operation.perform.runIn b').2.calls = b.calls ++ verdict.calls := by
    have hmade := calls_of_decides hkeyed' (halike.decides hreads hdecides)
    have hmade_before : b'.calls = b.calls := by rw [halike.rest]
    rw [hmade_before] at hmade
    exact hmade
  refine ⟨verdict.calls, verdict.length_calls_le, hcalls, hcalls', fun id workspace hactor => ?_,
    fun request hrequest => ?_⟩
  · rw [← Verdict.calls_inWorkspace]
    exact calls_of_decides hkeyed (hdecides.inWorkspace hactor workspace)
  · subst hrequest
    rw [calls_completeAsAsked, calls_completeAsAsked]
    exact ⟨hcalls, hcalls'⟩

/-! ## An actor of another workspace -/

def tokenSpecification : OAuthSpecification where
  userInput := some [(Input.propertiesKey, .object [
    ("token", .object [(Input.pathKey, .list [.text "token"])])])]
  output := none
  serverInput := none
  serverOutput := none

def tokenVersion : Version where
  id := .minted 2
  definition := .minted 1
  repository := "files"
  tag := "1.0.0"
  specification := ⟨none, [], some ⟨"oauth2.0", none, none, some tokenSpecification⟩⟩

/-- An actor of another workspace and of another definition than the request names. -/
def foreignActor (configuration : Fields) : Actor where
  id := .minted 3
  definition := .minted 9
  workspace := .minted 8
  side := .source
  name := ""
  configuration := configuration

def foreignPopulation (configuration : Fields) : List Population := [
  .definition ⟨.minted 1, "Files", .source, .minted 2⟩,
  .version tokenVersion,
  .actor (foreignActor configuration)]

def foreignBroker (configuration : Fields) : Broker :=
  { ofParts .memory ⟨[("files", Flow.unscripted)]⟩ (.recording .empty) (.clear .empty) "" with
    catalog := Catalog.populated (foreignPopulation configuration) }

/-- A request of one workspace that names the actor of the other and masks its token. -/
def foreignOperation : Operation :=
  .consent .source ⟨.minted 1, .minted 4, "https://app.example.com", some (.minted 3),
    some [("token", .text Input.mask)]⟩

theorem plain_token : ∀ key ∈ ["token"], Input.PlainKey key := by
  unfold Input.PlainKey
  decide

theorem lookup_token (token : String) (rest : Fields) :
    (Document.object (("token", .text token) :: rest)).lookup (Input.expression ["token"]) =
      .ok (some (.text token)) := by
  rw [Document.lookup, Input.parse_expression_of_plain plain_token]
  rfl

/-- The masked token is replaced by the stored one. -/
theorem reconcile_token {token : String} (htoken : token ≠ Input.mask) (rest : Fields) :
    ∃ warnings, Input.reconcile tokenSpecification (.object (("token", .text token) :: rest))
      (some [("token", .text Input.mask)]) = .ok ([("token", .text token)], warnings) := by
  have hdeclared : Input.declared (.ofFields? tokenSpecification.userInput) =
      .ok [("token", ["token"])] := rfl
  have hstored : Table.get? (Input.resolve (.object (("token", .text token) :: rest))
      (Input.expressions [("token", ["token"])])).1 "token" = some (.text token) :=
    (Input.get?_resolve_eq_some_iff rfl plain_token (by decide) rfl _).mpr (.into rfl .here)
  have hmask : ¬ Input.isMask (.text token) = true := by
    rw [Input.isMask_iff]
    exact fun h => htoken (Document.text.inj h)
  rw [Input.reconcile_of_declared _ _ hdeclared]
  generalize Input.resolve _ _ = resolved at hstored ⊢
  have hfield : Input.mergeField resolved.1 "token" (.text Input.mask) = .ok (.text token) := by
    rw [Input.mergeField, if_pos ((Input.isMask_iff _).mpr rfl), hstored]
    exact if_neg hmask
  have hmerge : (Input.merge resolved.1 (some [("token", .text Input.mask)])).1 =
      [("token", .text token)] := by
    change Input.found [("token", Input.mergeField resolved.1 "token" (.text Input.mask))] = _
    rw [hfield]
    rfl
  rw [hmerge]
  exact ⟨_, rfl⟩

theorem wellFormed_token : Input.WellFormed tokenSpecification.userInput :=
  Input.wellFormed_of_declared rfl

/-- The flow gets what the other workspace stored. -/
theorem calls_foreign (token : String) (htoken : token ≠ Input.mask) (rest : Fields) :
    (foreignOperation.perform.runIn (foreignBroker (("token", .text token) :: rest))).2.calls =
      [foreignOperation.call tokenVersion (some [("token", .text token)])] := by
  obtain ⟨warnings, hreconcile⟩ := reconcile_token htoken rest
  have hcounts : Counts (foreignBroker (("token", .text token) :: rest)) foreignOperation
      (.minted 8) := .ofActor (a := foreignActor (("token", .text token) :: rest)) rfl rfl
  have hfinds : Finds (foreignBroker (("token", .text token) :: rest)) foreignOperation
      ⟨.minted 1, "Files", .source, .minted 2⟩ tokenVersion := ⟨rfl, .minted 8, hcounts, rfl⟩
  have hgives : Gives (foreignBroker (("token", .text token) :: rest)) foreignOperation
      tokenVersion (some [("token", .text token)]) :=
    .filled rfl rfl (a := foreignActor (("token", .text token) :: rest)) rfl wellFormed_token hreconcile
  exact calls_of_decides (Catalog.populated_keyed _) (.answers hfinds rfl hgives rfl)

/-- All that is read is the token. -/
theorem found?_of_reads {token : String} {rest : Fields} {id : Identifier} {keys : List String}
    (h : Reads (foreignBroker (("token", .text token) :: rest)) foreignOperation id keys) :
    ∀ rest' : Fields,
      (foreignBroker (("token", .text token) :: rest')).found? .source id keys =
        some (.ok (some (.text token))) := by
  intro rest'
  cases h with
  | @masked d v spec id declarations field keys hfinds hspec hactor hdeclared hkeys hmasked =>
    obtain ⟨-, workspace, -, hv⟩ := hfinds
    have hversion : (_, v) ∈ [(Identifier.minted 2, tokenVersion)] := Table.mem_of_get? hv
    have hv : v = tokenVersion := congrArg Prod.snd (List.mem_singleton.mp hversion)
    subst hv
    cases hspec
    have hplaces : Except.ok [("token", ["token"])] = Except.ok declarations := hdeclared
    cases hplaces
    cases List.mem_singleton.mp hkeys
    cases hactor
    exact congrArg some (lookup_token token rest')

/-- Another secret beside the token changes nothing. -/
theorem calls_of_alike_foreign :
    (foreignBroker [("token", .text "one"), ("secret", .text "two")]).catalog =
      Catalog.populated (foreignPopulation [("token", .text "one"), ("secret", .text "two")]) ∧
    (foreignBroker [("token", .text "one")]).catalog =
      Catalog.populated (foreignPopulation [("token", .text "one")]) ∧
    Alike (foreignBroker [("token", .text "one"), ("secret", .text "two")])
      (foreignBroker [("token", .text "one")]) ∧
    (∀ id keys, Reads (foreignBroker [("token", .text "one"), ("secret", .text "two")])
        foreignOperation id keys →
      (foreignBroker [("token", .text "one"), ("secret", .text "two")]).found? .source id keys =
        (foreignBroker [("token", .text "one")]).found? .source id keys) ∧
    (foreignOperation.perform.runIn
        (foreignBroker [("token", .text "one"), ("secret", .text "two")])).2.calls =
      (foreignOperation.perform.runIn (foreignBroker [("token", .text "one")])).2.calls := by
  have halike : Alike (foreignBroker [("token", .text "one"), ("secret", .text "two")])
      (foreignBroker [("token", .text "one")]) := by
    refine ⟨rfl, rfl, rfl, rfl, rfl, fun key => ?_⟩
    by_cases hkey : key = (.source, .minted 3)
    · rw [hkey]
      rfl
    · have hnone : ∀ configuration,
          (foreignBroker configuration).catalog.actors.get? key = none :=
        fun configuration => Table.get?_cons_of_ne (foreignActor configuration) [] hkey
      rw [hnone, hnone]
  have hreads : ∀ id keys, Reads (foreignBroker [("token", .text "one"), ("secret", .text "two")])
        foreignOperation id keys →
      (foreignBroker [("token", .text "one"), ("secret", .text "two")]).found? .source id keys =
        (foreignBroker [("token", .text "one")]).found? .source id keys :=
    fun _ _ h => (found?_of_reads h _).trans (found?_of_reads h _).symm
  obtain ⟨made, -, hcalls, hcalls', -⟩ := calls_of_alike _ _ foreignOperation _ _ rfl rfl halike hreads
  exact ⟨rfl, rfl, halike, hreads, hcalls.trans hcalls'.symm⟩

/-- Instances that differ only in the stored configuration of a foreign actor make different calls. -/
theorem not_calls_of_owned : ¬ ∀ (b : Broker) (told : List Population) (operation : Operation)
    (id : Identifier) (a : Actor) (configuration : Fields),
    b.catalog = Catalog.populated told →
    operation.request.actor = some id →
    b.catalog.actors.get? (operation.side, id) = some a →
    (a.workspace ≠ operation.request.workspace ∨ a.definition ≠ operation.request.definition) →
    (operation.perform.runIn { b with
      catalog := b.catalog.addActor { a with configuration := configuration } }).2.calls =
        (operation.perform.runIn b).2.calls := by
  intro h
  have hsame := h (foreignBroker [("token", .text "one")]) _ foreignOperation (.minted 3)
    (foreignActor [("token", .text "one")]) [("token", .text "two")] rfl rfl rfl (.inl (by decide))
  change (foreignOperation.perform.runIn (foreignBroker [("token", .text "two")])).2.calls = _ at hsame
  rw [calls_foreign "one" (by decide) [], calls_foreign "two" (by decide) []] at hsame
  have hinput : [some [("token", Document.text "two")]] = [some [("token", Document.text "one")]] :=
    congrArg (List.map Flow.Call.input) hsame
  simp at hinput

end AuthBroker.Broker
