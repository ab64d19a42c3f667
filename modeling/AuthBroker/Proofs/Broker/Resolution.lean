import AuthBroker.Proofs.Broker.Reading
import AuthBroker.Proofs.Catalog.History

/-! # Which version applies

The version that applies is told by what the catalog was told last: the pin for the actor, without one
the pin for its workspace, without either the default of the definition. Whichever of them decides,
decides for good: where no version was stored under it, none applies. An actor that was never stored
has none, whatever was pinned for it. Other pins have no say, and neither have refused ones
(`versions_told`). -/

namespace AuthBroker.Broker

open Connector

/-! ## What is due -/

section
variable (told : List Population) (d : Definition)

/-- The version stored last under an identifier. -/
def versionTold (id : Identifier) : Except Fault Version :=
  match Catalog.lastTold (Population.version? id) told with
  | some v => .ok v
  | none => .error (.versionNotFound id)

/-- The version to use in a workspace: the one pinned last for it, else the default. -/
def dueForWorkspace (workspace : Identifier) : Identifier :=
  (Catalog.lastTold (Population.workspacePin? d.id workspace) told).getD d.defaultVersion

/-- The version to use for an actor of a workspace: the one pinned last for the actor, else the one to
use in the workspace. -/
def dueForActor (id workspace : Identifier) : Identifier :=
  (Catalog.lastTold (Population.actorPin? d.id id) told).getD (dueForWorkspace told d workspace)

end

/-- A pin for another definition, or for neither this actor nor this workspace. -/
def PinsElsewhere (definition : Identifier) (actor workspace : Option Identifier) :
    Population → Prop
  | .pin d _ w a => d ≠ definition ∨ (a = none ∨ a ≠ actor) ∧ (w = none ∨ w ≠ workspace)
  | _ => False

/-! ## What the catalog selects -/

section
variable {b : Broker} {told : List Population}

theorem version_populated (id : Identifier) :
    (Catalog.populated told).version id = versionTold told id := by
  have hget := Catalog.get?_versions_populated told id
  unfold Catalog.version versionTold
  generalize Catalog.lastTold (Population.version? id) told = last at hget ⊢
  cases last with
  | none => simp only [hget]
  | some v => simp only [hget]

theorem selected_workspace_populated (d : Definition) (workspace : Identifier) :
    (Catalog.populated told).selected d none workspace = dueForWorkspace told d workspace := by
  rw [dueForWorkspace, ← Catalog.get?_workspacePins_populated]
  rfl

theorem selected_actor_populated (d : Definition) (id workspace : Identifier) :
    (Catalog.populated told).selected d (some id) workspace = dueForActor told d id workspace := by
  rw [dueForActor, dueForWorkspace, ← Catalog.get?_workspacePins_populated,
    ← Catalog.get?_actorPins_populated, Catalog.selected, Option.bind_some]
  cases (Catalog.populated told).actorPins.get? (d.id, id) <;> rfl

theorem runIn_versionForActor (hb : b.catalog = Catalog.populated told) (d : Definition)
    (id : Identifier) :
    ((versionForActor d id).runIn b).1 =
      match Catalog.lastTold (Population.actor? d.side id) told with
      | some a => versionTold told (dueForActor told d id a.workspace)
      | none => .error (.actorNotFound d.side id) := by
  have hget := Catalog.get?_actors_populated told d.side id
  have hactor : b.catalog.actor d.side id =
      match Catalog.lastTold (Population.actor? d.side id) told with
      | some a => .ok a
      | none => .error (.actorNotFound d.side id) := by
    rw [hb]
    unfold Catalog.actor
    generalize Catalog.lastTold (Population.actor? d.side id) told = last at hget ⊢
    cases last with
    | none => simp only [hget]
    | some a => simp only [hget]
  cases hlast : Catalog.lastTold (Population.actor? d.side id) told with
  | some a =>
    rw [hlast] at hactor
    have hrun := (ends_versionForActor b hactor b rfl).1
    rw [hrun, hb, selected_actor_populated, version_populated]
  | none =>
    rw [hlast] at hactor
    have hends := ends_actor b d.side id
    rw [hactor] at hends
    -- the actor is looked up before any pin
    exact (hends.bind_error _ b rfl).1

theorem runIn_versionForWorkspace (hb : b.catalog = Catalog.populated told) (d : Definition)
    (workspace : Identifier) :
    ((versionForWorkspace d workspace).runIn b).1 =
      versionTold told (dueForWorkspace told d workspace) := by
  have hrun := (ends_versionForWorkspace b d workspace b rfl).1
  rw [hrun, hb, selected_workspace_populated, version_populated]

end

/-! ## Pins that have no say -/

section
variable {definition : Identifier} {actor workspace : Option Identifier} {call : Population}

theorem actorPin?_elsewhere (h : PinsElsewhere definition actor workspace call) {id : Identifier}
    (hid : actor = some id) : call.actorPin? definition id = none := by
  cases call with
  | pin d version w a =>
    cases w with
    | some w => rfl
    | none =>
      cases a with
      | none => rfl
      | some a =>
        apply if_neg
        intro heq
        obtain ⟨rfl, rfl⟩ := Prod.mk.inj heq
        rcases h with hd | ⟨ha, -⟩
        · exact hd rfl
        · simp [hid] at ha
  | _ => exact h.elim

theorem workspacePin?_elsewhere (h : PinsElsewhere definition actor workspace call)
    {w : Identifier} (hw : workspace = some w) : call.workspacePin? definition w = none := by
  cases call with
  | pin d version other a =>
    cases a with
    | some a => cases other <;> rfl
    | none =>
      cases other with
      | none => rfl
      | some other =>
        apply if_neg
        intro heq
        obtain ⟨rfl, rfl⟩ := Prod.mk.inj heq
        rcases h with hd | ⟨-, hother⟩
        · exact hd rfl
        · simp [hw] at hother
  | _ => exact h.elim

/-- A pin tells nothing of versions and actors. -/
theorem not_tells_of_pinsElsewhere (h : PinsElsewhere definition actor workspace call) :
    (∀ id, call.version? id = none) ∧ ∀ side id, call.actor? side id = none := by
  cases call with
  | pin d version w a => exact ⟨fun id => rfl, fun side id => rfl⟩
  | _ => exact h.elim

variable {before after : List Population} {d : Definition}

theorem versionTold_elsewhere (h : PinsElsewhere definition actor workspace call)
    (id : Identifier) :
    versionTold (before ++ call :: after) id = versionTold (before ++ after) id := by
  rw [versionTold, Catalog.lastTold_of_eq_none ((not_tells_of_pinsElsewhere h).1 id)]
  rfl

theorem dueForWorkspace_elsewhere {w : Identifier}
    (h : PinsElsewhere d.id actor (some w) call) :
    dueForWorkspace (before ++ call :: after) d w = dueForWorkspace (before ++ after) d w := by
  rw [dueForWorkspace, Catalog.lastTold_of_eq_none (workspacePin?_elsewhere h rfl)]
  rfl

theorem dueForActor_elsewhere {id w : Identifier}
    (h : PinsElsewhere d.id (some id) (some w) call) :
    dueForActor (before ++ call :: after) d id w = dueForActor (before ++ after) d id w := by
  rw [dueForActor, Catalog.lastTold_of_eq_none (actorPin?_elsewhere h rfl),
    dueForWorkspace_elsewhere h]
  rfl

end

/-- In a populated catalog the version for an actor is the one stored last under the pin set last for
the actor, or else for the workspace of the actor as it was stored last, or else under the default of
the definition; without the actor, or without that version, it is refused and nothing else is tried.
For a workspace it is the same without the pin for an actor. A pin for both or for neither of a
workspace and an actor is refused and changes nothing, and pins for other definitions, actors and
workspaces change no outcome. -/
theorem versions_told (told : List Population) (b : Broker)
    (hb : b.catalog = Catalog.populated told) (d : Definition) :
    (∀ id, ((versionForActor d id).runIn b).1 =
      match Catalog.lastTold (Population.actor? d.side id) told with
      | some a => versionTold told (dueForActor told d id a.workspace)
      | none => .error (.actorNotFound d.side id)) ∧
    (∀ workspace, ((versionForWorkspace d workspace).runIn b).1 =
      versionTold told (dueForWorkspace told d workspace)) ∧
    (∀ before after definition version workspace actor,
      told = before ++ .pin definition version workspace actor :: after →
      workspace.isSome = actor.isSome →
      (Catalog.populated before).pin definition version workspace actor = .error .ambiguousPin ∧
      b.catalog = Catalog.populated (before ++ after)) ∧
    ∀ before call after (other : Broker), told = before ++ call :: after →
      other.catalog = Catalog.populated (before ++ after) →
      (∀ id, PinsElsewhere d.id (some id)
          ((Catalog.lastTold (Population.actor? d.side id) told).map (·.workspace)) call →
        ((versionForActor d id).runIn other).1 = ((versionForActor d id).runIn b).1) ∧
      ∀ workspace, PinsElsewhere d.id none (some workspace) call →
        ((versionForWorkspace d workspace).runIn other).1 =
          ((versionForWorkspace d workspace).runIn b).1 := by
  refine ⟨runIn_versionForActor hb d, runIn_versionForWorkspace hb d, ?_, ?_⟩
  · intro before after definition version workspace actor htold hboth
    obtain ⟨hpin, hsame⟩ := Catalog.populated_ambiguous hboth before after definition version
    rw [hb, htold]
    exact ⟨hpin, hsame⟩
  · intro before call after other htold hother
    subst htold
    constructor
    · intro id helsewhere
      have hactor : Catalog.lastTold (Population.actor? d.side id) (before ++ call :: after) =
          Catalog.lastTold (Population.actor? d.side id) (before ++ after) :=
        Catalog.lastTold_of_eq_none ((not_tells_of_pinsElsewhere helsewhere).2 d.side id) _ _
      rw [runIn_versionForActor hb, runIn_versionForActor hother]
      rw [hactor] at helsewhere ⊢
      cases hlast : Catalog.lastTold (Population.actor? d.side id) (before ++ after) with
      | none => rfl
      | some a =>
        rw [hlast] at helsewhere
        dsimp only
        rw [dueForActor_elsewhere helsewhere, versionTold_elsewhere helsewhere]
    · intro workspace helsewhere
      rw [runIn_versionForWorkspace hb, runIn_versionForWorkspace hother,
        dueForWorkspace_elsewhere helsewhere, versionTold_elsewhere helsewhere]

def sampleDefinition : Definition := ⟨.minted 1, "Files", .source, .minted 2⟩

def sampleVersion : Version := ⟨.minted 2, .minted 1, "files", "1.0.0", ⟨none, [], none⟩⟩

/-- A workspace with a good pin, and in it an actor whose own pin leads nowhere. -/
def samplePins : List Population := [
  .version sampleVersion,
  .actor ⟨.minted 3, .minted 1, .minted 4, .source, "", []⟩,
  .pin (.minted 1) (.minted 2) (some (.minted 4)) none,
  .pin (.minted 1) (.minted 5) none (some (.minted 3))]

/-- A later pin for the same actor, but of another definition. -/
def pinOfOther : Population := .pin (.minted 6) (.minted 2) none (some (.minted 3))

/-- A broker without flows that was told so. -/
def brokerTold (told : List Population) : Broker :=
  { ofParts .memory .empty (.recording .empty) (.clear .empty) "" with
    catalog := Catalog.populated told }

/-- The pin for the actor decides, although it leads nowhere and the workspace has a good one. -/
theorem versions_told_dangling :
    (brokerTold (samplePins ++ [pinOfOther])).catalog =
      Catalog.populated (samplePins ++ [pinOfOther]) ∧
    ((versionForActor sampleDefinition (.minted 3)).runIn
      (brokerTold (samplePins ++ [pinOfOther]))).1 = .error (.versionNotFound (.minted 5)) ∧
    ((versionForWorkspace sampleDefinition (.minted 4)).runIn
      (brokerTold (samplePins ++ [pinOfOther]))).1 = .ok sampleVersion ∧
    ((versionForActor sampleDefinition (.minted 3)).runIn (brokerTold samplePins)).1 =
      .error (.versionNotFound (.minted 5)) := by
  obtain ⟨hactor, hworkspace, -, helsewhere⟩ := versions_told (samplePins ++ [pinOfOther])
    (brokerTold (samplePins ++ [pinOfOther])) rfl sampleDefinition
  have hpin : ((versionForActor sampleDefinition (.minted 3)).runIn
      (brokerTold (samplePins ++ [pinOfOther]))).1 = .error (.versionNotFound (.minted 5)) :=
    hactor (.minted 3)
  have hother := (helsewhere samplePins pinOfOther [] (brokerTold samplePins) rfl
    (by rw [List.append_nil]; rfl)).1 (.minted 3) (.inl (by decide))
  exact ⟨rfl, hpin, hworkspace (.minted 4), hother.trans hpin⟩

end AuthBroker.Broker
