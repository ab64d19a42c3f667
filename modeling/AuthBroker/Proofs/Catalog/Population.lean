import AuthBroker.Catalog

/-! # Populated catalogs

A catalog is populated by storing records and pinning versions, in any order and as often as one
likes. A refused pin leaves it as it is. Whatever was done, every record stands under its own side and
identifier, and only once (`populated_filed`), and the version that is selected is the one that was
pinned closest to the actor. -/

namespace AuthBroker

open Connector

/-- What a catalog can be told. -/
inductive Population where
  | definition (record : Definition)
  | version (record : Version)
  | actor (record : Actor)
  | parameter (record : Parameter)
  | pin (definition version : Identifier) (workspace actor : Option Identifier)
  | pinForActor (definition actor version : Identifier)
  | pinForWorkspace (definition workspace version : Identifier)

/-! ## Tables by a key of their values -/

namespace Table

variable {κ ν : Type} [BEq κ] [LawfulBEq κ] {keyOf : ν → κ} {table : Table κ ν}

/-- What is found under a key has that key. -/
def Keyed {κ ν : Type} [BEq κ] (keyOf : ν → κ) (table : Table κ ν) : Prop :=
  ∀ key value, table.get? key = some value → keyOf value = key

/-- Every value stands under its own key, and no key stands there twice. -/
structure Filed {κ ν : Type} (keyOf : ν → κ) (table : Table κ ν) : Prop where
  own : ∀ entry ∈ table, keyOf entry.2 = entry.1
  nodup : table.keys.Nodup

theorem filed_nil {κ ν : Type} (keyOf : ν → κ) : Filed keyOf ([] : Table κ ν) where
  own := by simp
  nodup := List.nodup_nil

theorem Filed.keyed (h : Filed keyOf table) : Keyed keyOf table :=
  fun _ _ hget => h.own _ (mem_of_get? hget)

theorem Filed.insert (h : Filed keyOf table) (value : ν) :
    Filed keyOf (table.insert (keyOf value) value) where
  own := by
    intro entry hentry
    rcases mem_of_mem_insert hentry with hold | rfl
    · exact h.own entry hold
    · rfl
  nodup := nodup_keys_insert h.nodup (keyOf value) value

end Table

namespace Catalog

/-- The catalog after it was told something. -/
def populate (catalog : Catalog) : Population → Catalog
  | .definition record => catalog.addDefinition record
  | .version record => catalog.addVersion record
  | .actor record => catalog.addActor record
  | .parameter record => catalog.addParameter record
  | .pin definition version workspace actor =>
    match catalog.pin definition version workspace actor with
    | .ok after => after
    | .error _ => catalog
  | .pinForActor definition actor version => catalog.pinForActor definition actor version
  | .pinForWorkspace definition workspace version =>
    catalog.pinForWorkspace definition workspace version

/-- The catalog that was told all this, from the empty one. -/
def populated (told : List Population) : Catalog :=
  told.foldl populate empty

/-- Every record is stored under its own key. -/
structure Keyed (catalog : Catalog) : Prop where
  definitions : Table.Keyed (fun d => (d.side, d.id)) catalog.definitions
  versions : Table.Keyed (·.id) catalog.versions
  actors : Table.Keyed (fun a => (a.side, a.id)) catalog.actors
  parameters : Table.Keyed (·.id) catalog.parameters

theorem Keyed.side_eq {catalog : Catalog} (h : catalog.Keyed) {side : Side} {id : Identifier}
    {d : Definition} (hget : catalog.definitions.get? (side, id) = some d) : d.side = side :=
  congrArg Prod.fst (h.definitions _ _ hget)

/-- Every record stands under its own key, and no two stand under one. -/
structure Filed (catalog : Catalog) : Prop where
  definitions : Table.Filed (fun d => (d.side, d.id)) catalog.definitions
  versions : Table.Filed (·.id) catalog.versions
  actors : Table.Filed (fun a => (a.side, a.id)) catalog.actors
  parameters : Table.Filed (·.id) catalog.parameters

theorem Filed.keyed {catalog : Catalog} (h : catalog.Filed) : catalog.Keyed where
  definitions := h.definitions.keyed
  versions := h.versions.keyed
  actors := h.actors.keyed
  parameters := h.parameters.keyed

theorem filed_empty : Filed empty where
  definitions := Table.filed_nil _
  versions := Table.filed_nil _
  actors := Table.filed_nil _
  parameters := Table.filed_nil _

theorem Filed.pinFor {catalog : Catalog} (h : catalog.Filed) (definition version : Identifier)
    (workspace actor : Option Identifier) :
    (catalog.pinFor definition version workspace actor).Filed := by
  unfold Catalog.pinFor
  split
  · exact ⟨h.definitions, h.versions, h.actors, h.parameters⟩
  · exact ⟨h.definitions, h.versions, h.actors, h.parameters⟩
  · exact h

theorem Filed.populate {catalog : Catalog} (h : catalog.Filed) (told : Population) :
    (catalog.populate told).Filed := by
  cases told with
  | definition record => exact { h with definitions := h.definitions.insert record }
  | version record => exact { h with versions := h.versions.insert record }
  | actor record => exact { h with actors := h.actors.insert record }
  | parameter record => exact { h with parameters := h.parameters.insert record }
  | pin definition version workspace actor =>
    simp only [Catalog.populate, Catalog.pin]
    by_cases hboth : workspace.isSome = actor.isSome
    · rw [if_pos hboth]
      exact h
    · rw [if_neg hboth]
      exact h.pinFor definition version workspace actor
  | pinForActor definition actor version => exact ⟨h.definitions, h.versions, h.actors, h.parameters⟩
  | pinForWorkspace definition workspace version =>
    exact ⟨h.definitions, h.versions, h.actors, h.parameters⟩

theorem populated_filed (told : List Population) : (populated told).Filed := by
  -- from any filed catalog on, so that the first record can be taken off
  suffices h : ∀ catalog : Catalog, catalog.Filed → (told.foldl populate catalog).Filed from
    h empty filed_empty
  induction told with
  | nil =>
    intro catalog h
    exact h
  | cons first rest ih =>
    intro catalog h
    rw [List.foldl_cons]
    exact ih _ (h.populate first)

theorem populated_keyed (told : List Population) : (populated told).Keyed :=
  (populated_filed told).keyed

theorem populated_concat (told : List Population) (last : Population) :
    populated (told ++ [last]) = (populated told).populate last := by
  rw [populated, List.foldl_append]
  rfl

/-- The version of a definition that is selected: the one pinned for the actor, else the one pinned
for the workspace, else the default one. -/
def selected (catalog : Catalog) (definition : Definition) (actor : Option Identifier)
    (workspace : Identifier) : Identifier :=
  match actor.bind fun id => catalog.actorPins.get? (definition.id, id) with
  | some pin => pin
  | none => (catalog.workspacePins.get? (definition.id, workspace)).getD definition.defaultVersion

end Catalog

end AuthBroker
