import AuthBroker.Proofs.Catalog.Population
import Mathlib.Data.List.Induction

/-! # What a catalog was told last

A catalog forgets what it was told earlier under the same key, and keeps apart what it was told under
others. So each look-up in a populated catalog finds what the last call for its key told
(`get?_versions_populated` and its companions). A pin for both or for neither of a workspace and an
actor tells nothing. -/

namespace AuthBroker

open Connector

theorem Table.get?_insert {κ ν : Type} [BEq κ] [LawfulBEq κ] [DecidableEq κ]
    (table : Table κ ν) (key other : κ) (value : ν) :
    (table.insert key value).get? other =
      (if key = other then some value else none).or (table.get? other) := by
  by_cases h : key = other
  · subst h
    rw [get?_insert_self, if_pos rfl]
    rfl
  · rw [get?_insert_of_ne table value (Ne.symm h), if_neg h]
    rfl

namespace Population

/-! ## What one call tells -/

def version? (id : Identifier) : Population → Option Version
  | .version record => if record.id = id then some record else none
  | _ => none

def actor? (side : Side) (id : Identifier) : Population → Option Actor
  | .actor record => if (record.side, record.id) = (side, id) then some record else none
  | _ => none

/-- The version that a call pins for an actor. -/
def actorPin? (definition actor : Identifier) : Population → Option Identifier
  | .pin d pinned none (some a) => if (d, a) = (definition, actor) then some pinned else none
  | .pinForActor d a pinned => if (d, a) = (definition, actor) then some pinned else none
  | _ => none

/-- The version that a call pins for a workspace. -/
def workspacePin? (definition workspace : Identifier) : Population → Option Identifier
  | .pin d pinned (some w) none => if (d, w) = (definition, workspace) then some pinned else none
  | .pinForWorkspace d w pinned => if (d, w) = (definition, workspace) then some pinned else none
  | _ => none

end Population

namespace Catalog

/-- What the last call that tells anything tells. -/
def lastTold {α : Type} (tells : Population → Option α) (told : List Population) : Option α :=
  told.reverse.findSome? tells

section
variable {α : Type} {tells : Population → Option α}

theorem lastTold_append (before after : List Population) :
    lastTold tells (before ++ after) = (lastTold tells after).or (lastTold tells before) := by
  rw [lastTold, List.reverse_append, List.findSome?_append]
  rfl

theorem lastTold_singleton (call : Population) : lastTold tells [call] = tells call := by
  simp [lastTold]

/-- A call that tells nothing of the kind can be left out. -/
theorem lastTold_of_eq_none {call : Population} (h : tells call = none)
    (before after : List Population) :
    lastTold tells (before ++ call :: after) = lastTold tells (before ++ after) := by
  have hcall : lastTold tells (call :: after) = lastTold tells after := by
    rw [← List.singleton_append, lastTold_append, lastTold_singleton, h, Option.or_none]
  rw [lastTold_append, lastTold_append, hcall]

/-- A look-up that every call either answers or leaves as it is finds what was told last. -/
theorem look_populated (look : Catalog → Option α) (hempty : look empty = none)
    (hstep : ∀ catalog call, look (populate catalog call) = (tells call).or (look catalog))
    (told : List Population) : look (populated told) = lastTold tells told := by
  induction told using List.reverseRecOn with
  | nil => exact hempty
  | append_singleton told call ih =>
    rw [populated_concat, hstep, ih, lastTold_append, lastTold_singleton]

end

/-! ## Each kind of look-up -/

/-- A pin is for an actor, for a workspace, or refused. -/
theorem populate_pin (catalog : Catalog) (definition version : Identifier)
    (workspace actor : Option Identifier) :
    catalog.populate (.pin definition version workspace actor) =
      match workspace, actor with
      | none, some a => catalog.pinForActor definition a version
      | some w, none => catalog.pinForWorkspace definition w version
      | _, _ => catalog := by
  cases workspace with
  | none =>
    cases actor with
    | none => rfl
    | some a => rfl
  | some w =>
    cases actor with
    | none => rfl
    | some a => rfl

theorem get?_versions_populated (told : List Population) (id : Identifier) :
    (populated told).versions.get? id = lastTold (Population.version? id) told := by
  refine look_populated (fun catalog => catalog.versions.get? id) rfl ?_ told
  intro catalog call
  cases call with
  | version record => exact Table.get?_insert catalog.versions record.id id record
  | pin definition version workspace actor =>
    rw [populate_pin]
    cases workspace <;> cases actor <;> rfl
  | _ => rfl

theorem get?_actors_populated (told : List Population) (side : Side) (id : Identifier) :
    (populated told).actors.get? (side, id) = lastTold (Population.actor? side id) told := by
  refine look_populated (fun catalog => catalog.actors.get? (side, id)) rfl ?_ told
  intro catalog call
  cases call with
  | actor record =>
    exact Table.get?_insert catalog.actors (record.side, record.id) (side, id) record
  | pin definition version workspace actor =>
    rw [populate_pin]
    cases workspace <;> cases actor <;> rfl
  | _ => rfl

theorem get?_actorPins_populated (told : List Population) (definition actor : Identifier) :
    (populated told).actorPins.get? (definition, actor) =
      lastTold (Population.actorPin? definition actor) told := by
  refine look_populated (fun catalog => catalog.actorPins.get? (definition, actor)) rfl ?_ told
  intro catalog call
  cases call with
  | pinForActor d a version =>
    exact Table.get?_insert catalog.actorPins (d, a) (definition, actor) version
  | pin d version workspace a =>
    rw [populate_pin]
    cases workspace with
    | some w => cases a <;> rfl
    | none =>
      cases a with
      | none => rfl
      | some a => exact Table.get?_insert catalog.actorPins (d, a) (definition, actor) version
  | _ => rfl

theorem get?_workspacePins_populated (told : List Population) (definition workspace : Identifier) :
    (populated told).workspacePins.get? (definition, workspace) =
      lastTold (Population.workspacePin? definition workspace) told := by
  refine look_populated (fun catalog => catalog.workspacePins.get? (definition, workspace))
    rfl ?_ told
  intro catalog call
  cases call with
  | pinForWorkspace d w version =>
    exact Table.get?_insert catalog.workspacePins (d, w) (definition, workspace) version
  | pin d version w actor =>
    rw [populate_pin]
    cases actor with
    | some a => cases w <;> rfl
    | none =>
      cases w with
      | none => rfl
      | some w =>
        exact Table.get?_insert catalog.workspacePins (d, w) (definition, workspace) version
  | _ => rfl

/-- A pin for both or for neither of a workspace and an actor is refused, wherever it stands among
other calls, and is as if it had not been made. -/
theorem populated_ambiguous {workspace actor : Option Identifier}
    (h : workspace.isSome = actor.isSome) (before after : List Population)
    (definition version : Identifier) :
    (populated before).pin definition version workspace actor = .error .ambiguousPin ∧
      populated (before ++ .pin definition version workspace actor :: after) =
        populated (before ++ after) := by
  have hpin : ∀ catalog : Catalog,
      catalog.pin definition version workspace actor = .error .ambiguousPin := by
    intro catalog
    rw [Catalog.pin, if_pos h]
  refine ⟨hpin _, ?_⟩
  have hsame : ∀ catalog : Catalog,
      catalog.populate (.pin definition version workspace actor) = catalog := by
    intro catalog
    rw [populate, hpin]
  rw [populated, List.foldl_append, List.foldl_cons, hsame, ← List.foldl_append]
  rfl

end Catalog

end AuthBroker
