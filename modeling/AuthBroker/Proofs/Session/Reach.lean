import AuthBroker.Proofs.Broker.Sides
import AuthBroker.Session

/-! # Catalogs that sessions reach

Whatever a session does to the catalog, one can tell a catalog: records are stored under their own keys
and versions are pinned, and an edit of a record that was handed out stores it again. So the catalog of
a session is always one that was populated (`populated_run`), and every record in it stands under its
own key. -/

namespace AuthBroker

open Connector Exchange

/-- The catalog was populated, in some order. -/
def Catalog.IsPopulated (catalog : Catalog) : Prop :=
  ∃ told, catalog = Catalog.populated told

namespace Catalog.IsPopulated

variable {catalog : Catalog} (h : catalog.IsPopulated)
include h

theorem filed : catalog.Filed := by
  obtain ⟨told, rfl⟩ := h
  exact populated_filed told

theorem populate (told : Population) : (catalog.populate told).IsPopulated := by
  obtain ⟨before, rfl⟩ := h
  exact ⟨before ++ [told], (populated_concat before told).symm⟩

theorem pinFor (definition version : Identifier) (workspace actor : Option Identifier) :
    (catalog.pinFor definition version workspace actor).IsPopulated := by
  unfold Catalog.pinFor
  split
  · exact h.populate (.pinForActor _ _ _)
  · exact h.populate (.pinForWorkspace _ _ _)
  · exact h

theorem addParameters (ps : List Parameter) :
    (ps.foldl (·.addParameter ·) catalog).IsPopulated := by
  induction ps generalizing catalog with
  | nil => exact h
  | cons p rest ih => exact ih (h.populate (.parameter p))

end Catalog.IsPopulated

namespace Broker

/-- An action that is run in a broker with a populated catalog leaves it one. -/
def Preserves {α : Type} (action : Action α) : Prop :=
  ∀ b : Broker, b.catalog.IsPopulated → (action.runIn b).2.catalog.IsPopulated

section
variable {α β : Type}

/-! ## Rules -/

theorem preserves_pure (a : α) : Preserves (pure a) :=
  fun _ h => h

theorem preserves_throw (fault : Fault) : Preserves (throw fault : Action α) :=
  fun _ h => h

theorem preserves_ofExcept (outcome : Except Fault α) : Preserves (ofExcept outcome) := by
  intro b h
  rw [runIn_ofExcept]
  exact h

theorem preserves_modify {f : Broker → Broker}
    (hf : ∀ b, b.catalog.IsPopulated → (f b).catalog.IsPopulated) :
    Preserves (modify f : Action Unit) :=
  hf

theorem preserves_set {after : Broker} (h : after.catalog.IsPopulated) :
    Preserves (set after : Action Unit) :=
  fun _ _ => h

theorem preserves_get {next : Broker → Action β}
    (hnext : ∀ b, b.catalog.IsPopulated → Preserves (next b)) : Preserves (get >>= next) := by
  intro b h
  rw [Action.runIn_bind, Action.runIn_get]
  exact hnext b h b h

theorem Preserves.bind {first : Action α} {next : α → Action β} (h : Preserves first)
    (hnext : ∀ a, Preserves (next a)) : Preserves (first >>= next) := by
  intro b hb
  have hmid := h b hb
  rw [Action.runIn_bind]
  rcases hrun : first.runIn b with ⟨_ | a, mid⟩
  · rw [hrun] at hmid
    exact hmid
  · rw [hrun] at hmid
    exact hnext a mid hmid

/-- What leaves the world as it is preserves this. -/
theorem preserves_of_indifferent {action : Action α} (side : Side)
    (h : ∀ w : World, w.catalog.Keyed → SameOn side w w → Indifferent w w action) :
    Preserves action := by
  intro b hb
  have hworld := (h b.world hb.filed.keyed (sameOn_refl side b.world) b rfl).2
  have hcatalog : (action.runIn b).2.catalog = b.catalog := congrArg World.catalog hworld
  rw [hcatalog]
  exact hb

/-! ## What steps are made of -/

theorem preserves_reading (check : Document → Check α) (d : Document) :
    Preserves (reading check d) :=
  preserves_ofExcept _

theorem preserves_refusing (wirings : List Wiring) : Preserves (refusing wirings) := by
  refine preserves_get fun b _ => ?_
  split
  · exact preserves_throw _
  · exact preserves_pure _

theorem preserves_modifyCatalog {f : Catalog → Catalog}
    (hf : ∀ catalog, catalog.IsPopulated → (f catalog).IsPopulated) :
    Preserves (modifyCatalog f) :=
  preserves_modify fun b h => hf b.catalog h

theorem preserves_readings (check : Document → Check α) (ds : List Document) :
    Preserves (ds.mapM (reading check)) := by
  induction ds with
  | nil => exact preserves_pure _
  | cons d rest ih =>
    rw [List.mapM_cons]
    exact (preserves_reading check d).bind fun _ => ih.bind fun _ => preserves_pure _

theorem preserves_pin (definition version : Identifier) (workspace actor : Option Identifier) :
    Preserves (pin definition version workspace actor) := by
  refine preserves_get fun b h => ?_
  have hchecked : Preserves (do
      let catalog ← ofExcept (b.catalog.pin definition version workspace actor)
      set { b with catalog := catalog }) := by
    rw [Catalog.pin]
    by_cases hboth : workspace.isSome = actor.isSome
    · rw [if_pos hboth]
      exact fun _ hb => hb
    · rw [if_neg hboth]
      exact preserves_set (h.pinFor definition version workspace actor)
  split
  · exact preserves_modifyCatalog fun _ hc => hc.pinFor definition version workspace actor
  · exact hchecked
  · exact hchecked

theorem preserves_lastCall (provider method : String) : Preserves (lastCall provider method) := by
  refine preserves_get fun b _ => ?_
  cases b.registry.flows.contains provider with
  | false => exact preserves_throw _
  | true =>
    dsimp only
    generalize b.calls.filter (·.provider == provider) = calls
    cases calls.reverse.find? (·.method == method) with
    | none => exact preserves_throw _
    | some call => exact preserves_pure _

theorem preserves_editing (edit : Fields) {after : Broker → Broker}
    (hafter : ∀ b, b.catalog.IsPopulated → (after b).catalog.IsPopulated) :
    Preserves (editing edit after) := by
  refine preserves_modify fun b h => ?_
  split
  · exact hafter b h
  · exact h

/-- An edited actor is stored under its own key again. -/
theorem populated_setConfiguration {b : Broker} (h : b.catalog.IsPopulated) (holding : Holding)
    (configuration : Fields) : (b.setConfiguration holding configuration).catalog.IsPopulated := by
  unfold setConfiguration
  dsimp only
  split
  · exact h
  · split
    · rename_i a hget
      have hkey : (a.side, a.id) = (holding.side, holding.actor) := h.filed.actors.keyed _ _ hget
      rw [← hkey]
      exact h.populate (.actor { a with configuration := configuration })
    · exact h

theorem populated_afterActorEdit {b : Broker} (h : b.catalog.IsPopulated) (side : Side)
    (id : Identifier) (hydrated : Bool) (edit : Fields) :
    (b.afterActorEdit side id hydrated edit).catalog.IsPopulated := by
  unfold afterActorEdit afterConfigurationEdit
  split
  · exact h
  · exact populated_setConfiguration h _ _

theorem populated_afterParameterEdit {b : Broker} (h : b.catalog.IsPopulated) (p : Parameter)
    (written : Bool) (edit : Fields) :
    (b.afterParameterEdit p written edit).catalog.IsPopulated :=
  h.populate (.parameter (editParameter edit p))

/-! ## Every step -/

theorem preserves_perform (s : Step) : Preserves (perform s) := by
  cases s with
  | addDefinition d =>
    refine (preserves_reading _ d).bind fun record => ?_
    exact (preserves_modifyCatalog fun _ h => h.populate (.definition record)).bind fun _ =>
      preserves_pure _
  | addVersion d =>
    refine (preserves_reading _ d).bind fun record => ?_
    exact (preserves_modifyCatalog fun _ h => h.populate (.version record)).bind fun _ =>
      preserves_pure _
  | addActor d =>
    refine (preserves_reading _ d).bind fun record => ?_
    refine (preserves_modifyCatalog fun _ h => h.populate (.actor record)).bind fun _ => ?_
    exact Preserves.bind (preserves_modify fun _ h => h) fun _ => preserves_pure _
  | pin definition version workspace actor =>
    exact (preserves_pin _ _ _ _).bind fun _ => preserves_pure _
  | hydrate side actor configuration =>
    refine (preserves_refusing _).bind fun _ => (preserves_ofExcept side).bind fun side => ?_
    refine (preserves_ofExcept actor).bind fun actor => ?_
    refine Preserves.bind (preserves_modify fun _ h => h) fun _ => ?_
    exact Preserves.bind (preserves_modify fun _ h => h) fun _ => preserves_pure _
  | seedParameters ds =>
    refine (preserves_refusing _).bind fun _ => (preserves_readings _ ds).bind fun records => ?_
    exact (preserves_modifyCatalog fun _ h => h.addParameters records).bind fun _ =>
      preserves_pure _
  | addFlow provider script =>
    refine preserves_get fun b h => (preserves_ofExcept _).bind fun registry => ?_
    exact Preserves.bind (preserves_set h) fun _ => preserves_pure _
  | scriptFlow provider script =>
    refine preserves_get fun b h => ?_
    cases b.registry.flows.get? provider with
    | none => exact preserves_throw _
    | some flow => exact Preserves.bind (preserves_set h) fun _ => preserves_pure _
  | lastCall provider method =>
    exact (preserves_lastCall provider method).bind fun _ => preserves_pure _
  | failUsage failure =>
    exact Preserves.bind (preserves_modify fun _ h => h) fun _ => preserves_pure _
  | failStore failure =>
    refine (preserves_refusing _).bind fun _ => (preserves_ofExcept failure).bind fun failure => ?_
    exact Preserves.bind (preserves_modify fun _ h => h) fun _ => preserves_pure _
  | getDefinition side id =>
    have hdefinition : Preserves (definition side id) :=
      preserves_of_indifferent side fun w _ h => indifferent_definition h id
    exact hdefinition.bind fun _ => preserves_pure _
  | getVersion id =>
    have hversion : Preserves (version id) :=
      preserves_of_indifferent .source fun w _ h => indifferent_version h id
    exact hversion.bind fun _ => preserves_pure _
  | getPinned definition workspace actor =>
    have hpinned : Preserves (pinned? definition workspace actor) :=
      preserves_of_indifferent .source fun w _ h => indifferent_pinned? h definition workspace actor
    exact hpinned.bind fun _ => preserves_pure _
  | getActor side id hydrated edit =>
    have hactor : Preserves (actor side id) :=
      preserves_of_indifferent side fun w _ h => indifferent_actor h id
    have hhydrated : Preserves (hydratedActor side id) :=
      preserves_of_indifferent side fun w _ h => indifferent_hydratedActor h id
    have hedit : ∀ record : Actor, Preserves (do
        editing edit (·.afterActorEdit side id hydrated edit)
        return record.toDocument) := fun record =>
      (preserves_editing edit fun _ h => populated_afterActorEdit h side id hydrated edit).bind
        fun _ => preserves_pure _
    cases hydrated with
    | true => exact hhydrated.bind hedit
    | false => exact hactor.bind hedit
  | getParameter side definition workspace edit =>
    refine Preserves.bind (preserves_get fun b _ => preserves_pure _) fun found => ?_
    cases found with
    | none => exact preserves_pure _
    | some record =>
      exact (preserves_editing edit fun _ h => populated_afterParameterEdit h record false edit).bind
        fun _ => preserves_pure _
  | writeParameter d edit =>
    refine (preserves_reading _ d).bind fun record => ?_
    refine Preserves.bind (preserves_modify fun _ h => h.populate (.parameter record)) fun _ => ?_
    exact (preserves_editing edit fun _ h => populated_afterParameterEdit h record true edit).bind
      fun _ => preserves_pure _
  | listParameters => exact preserves_get fun _ _ => preserves_pure _
  | versionForActor d actor =>
    refine (preserves_reading _ d).bind fun definition => ?_
    refine (preserves_ofExcept actor).bind fun id => ?_
    have hversion : Preserves (versionForActor definition id) :=
      preserves_of_indifferent definition.side fun w _ h => indifferent_versionForActor h id
    exact hversion.bind fun _ => preserves_pure _
  | versionForWorkspace d workspace =>
    refine (preserves_reading _ d).bind fun definition => ?_
    refine (preserves_ofExcept workspace).bind fun id => ?_
    have hversion : Preserves (versionForWorkspace definition id) :=
      preserves_of_indifferent .source fun w _ h => indifferent_versionForWorkspace h definition id
    exact hversion.bind fun _ => preserves_pure _
  | consent side d =>
    refine (preserves_reading _ d).bind fun request => (preserves_ofExcept side).bind fun side => ?_
    have hconsent : Preserves (consent side request) :=
      preserves_of_indifferent side fun w hkeyed h => indifferent_consent h hkeyed request
    exact hconsent.bind fun _ => preserves_pure _
  | complete side d =>
    refine (preserves_reading _ d).bind fun request => (preserves_ofExcept side).bind fun side => ?_
    have hcomplete : Preserves (complete side request) :=
      preserves_of_indifferent side fun w hkeyed h => indifferent_complete h hkeyed request
    exact hcomplete.bind fun _ => preserves_pure _
  | completeAsAsked d =>
    refine (preserves_reading _ d).bind fun request => ?_
    have hcomplete : Preserves (completeAsAsked request) :=
      preserves_of_indifferent .source fun w hkeyed h => indifferent_completeAsAsked h hkeyed request
    exact hcomplete.bind fun _ => preserves_pure _
  | writeSecret workspace d =>
    refine (preserves_reading _ d).bind fun response => ?_
    refine (preserves_ofExcept workspace).bind fun workspace => ?_
    have hwrite : Preserves (writeSecret workspace response) :=
      preserves_of_indifferent .source fun w _ _ => indifferent_writeSecret workspace response
    exact hwrite.bind fun _ => preserves_pure _
  | setParameters side d =>
    refine (preserves_reading _ d).bind fun request => (preserves_ofExcept side).bind fun side => ?_
    refine Preserves.bind (fun b h => ?_) fun _ => preserves_pure _
    rw [catalog_setParameters]
    exact h.populate (.parameter _)
  | unreadable fault => exact preserves_throw _

theorem populated_run (b : Broker) (told : List Population)
    (hcatalog : b.catalog = Catalog.populated told) (script : List Step) :
    (b.run script).2.catalog.IsPopulated := by
  have h : b.catalog.IsPopulated := ⟨told, hcatalog⟩
  clear hcatalog
  induction script generalizing b with
  | nil => exact h
  | cons s rest ih => exact ih (b.step s).2 (preserves_perform s b h)

end

end Broker

end AuthBroker
