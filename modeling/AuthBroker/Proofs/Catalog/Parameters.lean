import AuthBroker.Proofs.Catalog.Population
import Mathlib.Data.List.Nodup

/-! # Parameters by scope

Parameters are stored by identifier and looked up by scope, and the first one of a scope is found.
Nothing keeps a scope from having several. Storing a parameter appends it, or replaces the one with
its identifier where that stands (`Filed.addParameter_cases`), and what a scope has afterwards follows
from this. A change of a scope stores the draft of it: the first parameter with another configuration,
or a new one if there is none (`drafted`). -/

namespace AuthBroker

open Connector

/-- What a parameter is for. -/
structure Connector.Scope where
  side : Side
  definition : Identifier
  workspace : Option Identifier
  deriving DecidableEq

def Connector.Parameter.scope (p : Parameter) : Scope :=
  ⟨p.side, p.definition, p.workspace⟩

namespace Catalog

/-- The parameters of a scope in a table, in order of arrival. -/
def inScope (scope : Scope) (parameters : Table Identifier Parameter) : List Parameter :=
  parameters.values.filter (·.scope = scope)

def parametersFor (catalog : Catalog) (scope : Scope) : List Parameter :=
  inScope scope catalog.parameters

variable {catalog : Catalog} {p q : Parameter} {scope : Scope}

theorem parameter?_eq_head? (catalog : Catalog) (side : Side) (definition : Identifier)
    (workspace : Option Identifier) :
    catalog.parameter? side definition workspace =
      (catalog.parametersFor ⟨side, definition, workspace⟩).head? := by
  have hsame : ∀ p : Parameter, (p.side == side && p.definition == definition &&
      p.workspace == workspace) = decide (p.scope = ⟨side, definition, workspace⟩) := by
    intro p
    rw [Bool.eq_iff_iff]
    simp [Parameter.scope, and_assoc]
  simp only [parameter?, parametersFor, inScope, List.head?_filter, hsame]

/-! ## The parameters of a scope -/

theorem inScope_append (before after : Table Identifier Parameter) :
    inScope scope (before ++ after) = inScope scope before ++ inScope scope after := by
  simp [inScope, Table.values]

theorem inScope_singleton (id : Identifier) (p : Parameter) :
    inScope scope [(id, p)] = if p.scope = scope then [p] else [] := by
  by_cases h : p.scope = scope
  · simp [inScope, Table.values, h]
  · simp [inScope, Table.values, h]

theorem mem_inScope {parameters : Table Identifier Parameter} :
    p ∈ inScope scope parameters ↔ (∃ id, (id, p) ∈ parameters) ∧ p.scope = scope := by
  simp [inScope, Table.values]

theorem Filed.get?_of_mem (h : catalog.Filed) (hp : p ∈ catalog.parametersFor scope) :
    catalog.parameters.get? p.id = some p := by
  obtain ⟨⟨id, hmem⟩, -⟩ := mem_inScope.mp hp
  have hid : p.id = id := h.parameters.own _ hmem
  rw [hid]
  exact Table.get?_of_mem h.parameters.nodup hmem

/-! ## Storing a parameter -/

theorem Filed.addParameter (h : catalog.Filed) (p : Parameter) : (catalog.addParameter p).Filed :=
  h.populate (.parameter p)

theorem addParameter_of_new (h : p.id ∉ catalog.parameters.keys) :
    (catalog.addParameter p).parameters = catalog.parameters ++ [(p.id, p)] :=
  Table.insert_of_notMem_keys h p

/-- A parameter whose identifier is present replaces the one that has it. -/
theorem Filed.addParameter_of_mem (h : catalog.Filed) (hkey : p.id ∈ catalog.parameters.keys) :
    ∃ before held after, catalog.parameters = before ++ (p.id, held) :: after ∧
      (catalog.addParameter p).parameters = before ++ (p.id, p) :: after ∧
      catalog.parameters.get? p.id = some held ∧ ∀ entry ∈ before ++ after, entry.1 ≠ p.id := by
  obtain ⟨before, held, after, heq, hinsert⟩ := Table.exists_insert_eq hkey
  refine ⟨before, held, after, heq, hinsert p, ?_, ?_⟩
  · refine Table.get?_of_mem h.parameters.nodup ?_
    rw [heq]
    exact List.mem_append_right _ List.mem_cons_self
  · have hnodup := h.parameters.nodup
    rw [heq, Table.keys, List.map_append, List.map_cons, List.nodup_middle, List.nodup_cons,
      ← List.map_append] at hnodup
    intro entry hentry hid
    exact hnodup.1 (List.mem_map.mpr ⟨entry, hentry, hid⟩)

/-- What storing a parameter does to a scope: it takes the place of the one with its identifier, if
that was there, and stands at the end otherwise; in another scope nothing takes this place. -/
theorem Filed.parametersFor_addParameter (h : catalog.Filed) (p : Parameter) (scope : Scope) :
    ∃ before replaced after, catalog.parametersFor scope = before ++ replaced ++ after ∧
      (catalog.addParameter p).parametersFor scope =
        before ++ (if p.scope = scope then [p] else []) ++ after ∧
      (∀ q ∈ before ++ after, q.id ≠ p.id) ∧
      ∀ q ∈ replaced, catalog.parameters.get? p.id = some q := by
  -- what stands under another key than that of the parameter has another identifier
  have hother : ∀ table : Table Identifier Parameter, (∀ entry ∈ table, entry ∈ catalog.parameters) →
      (∀ entry ∈ table, entry.1 ≠ p.id) → ∀ q ∈ inScope scope table, q.id ≠ p.id := by
    intro table hsub hne q hq
    obtain ⟨⟨id, hentry⟩, -⟩ := mem_inScope.mp hq
    have hid : q.id = id := h.parameters.own _ (hsub _ hentry)
    rw [hid]
    exact hne _ hentry
  unfold parametersFor
  by_cases hkey : p.id ∈ catalog.parameters.keys
  · obtain ⟨before, held, after, heq, hadd, hget, hne⟩ := h.addParameter_of_mem hkey
    refine ⟨inScope scope before, inScope scope [(p.id, held)], inScope scope after, ?_, ?_, ?_, ?_⟩
    · rw [heq, List.append_cons, inScope_append, inScope_append]
    · rw [hadd, List.append_cons, inScope_append, inScope_append, inScope_singleton]
    · rw [← inScope_append]
      refine hother _ (fun entry hentry => ?_) hne
      rw [heq]
      simp only [List.mem_append, List.mem_cons] at hentry ⊢
      exact hentry.imp_right .inr
    · intro q hq
      obtain ⟨⟨id, hentry⟩, -⟩ := mem_inScope.mp hq
      cases List.mem_singleton.mp hentry
      exact hget
  · refine ⟨inScope scope catalog.parameters, [], [], by simp, ?_, ?_, by simp⟩
    · rw [addParameter_of_new hkey, inScope_append, inScope_singleton, List.append_nil]
    · rw [List.append_nil]
      refine hother _ (fun _ hentry => hentry) fun entry hentry hid => ?_
      exact hkey (List.mem_map.mpr ⟨entry, hentry, hid⟩)

theorem parametersFor_addParameter_of_new (hscope : p.scope = scope)
    (hnew : p.id ∉ catalog.parameters.keys) :
    (catalog.addParameter p).parametersFor scope = catalog.parametersFor scope ++ [p] := by
  rw [parametersFor, addParameter_of_new hnew, inScope_append, inScope_singleton, if_pos hscope]
  rfl

/-- A parameter that is new, or replaces one of its own scope, leaves the other scopes as they are. -/
theorem Filed.parametersFor_addParameter_of_ne (h : catalog.Filed) (hne : p.scope ≠ scope)
    (hheld : ∀ held, catalog.parameters.get? p.id = some held → held.scope = p.scope) :
    (catalog.addParameter p).parametersFor scope = catalog.parametersFor scope := by
  obtain ⟨before, replaced, after, hbefore, hafter, -, hreplaced⟩ :=
    h.parametersFor_addParameter p scope
  have hnone : replaced = [] := by
    refine List.eq_nil_iff_forall_not_mem.mpr fun q hq => hne ?_
    have hmem : q ∈ catalog.parametersFor scope := by
      rw [hbefore]
      simp [hq]
    rw [← hheld q (hreplaced q hq)]
    exact (mem_inScope.mp hmem).2
  rw [hafter, hbefore, hnone, if_neg hne]

theorem Filed.parametersFor_addParameter_sublist (h : catalog.Filed) (hne : p.scope ≠ scope) :
    ((catalog.addParameter p).parametersFor scope).Sublist (catalog.parametersFor scope) := by
  obtain ⟨before, replaced, after, hbefore, hafter, -, -⟩ := h.parametersFor_addParameter p scope
  rw [hafter, hbefore, if_neg hne, List.append_nil]
  exact (List.sublist_append_left before replaced).append_right after

/-- A parameter that replaces the first one of its scope, or is the only one, is found. -/
theorem Filed.head?_parametersFor_addParameter (h : catalog.Filed) (hscope : p.scope = scope)
    (hfirst : ∀ first, (catalog.parametersFor scope).head? = some first → first.id = p.id) :
    ((catalog.addParameter p).parametersFor scope).head? = some p := by
  obtain ⟨before, replaced, after, hbefore, hafter, hother, -⟩ := h.parametersFor_addParameter p scope
  have hnone : before = [] := by
    cases before with
    | nil => rfl
    | cons first rest =>
      have hid : first.id = p.id := hfirst first (by rw [hbefore]; rfl)
      exact absurd hid (hother first List.mem_cons_self)
  rw [hafter, hnone, if_pos hscope]
  rfl

/-- Where a scope has at most the parameter that is replaced, it has the new one alone. -/
theorem Filed.parametersFor_addParameter_sole (h : catalog.Filed) (hscope : p.scope = scope)
    (hall : ∀ q ∈ catalog.parametersFor scope, q.id = p.id) :
    (catalog.addParameter p).parametersFor scope = [p] := by
  obtain ⟨before, replaced, after, hbefore, hafter, hother, -⟩ := h.parametersFor_addParameter p scope
  have hnone : before ++ after = [] := by
    refine List.eq_nil_iff_forall_not_mem.mpr fun q hq => hother q hq (hall q ?_)
    rw [hbefore]
    rcases List.mem_append.mp hq with hq | hq
    · simp [hq]
    · simp [hq]
  obtain ⟨hbefore, hafter'⟩ := List.append_eq_nil_iff.mp hnone
  rw [hafter, hbefore, hafter', if_pos hscope]
  rfl

/-! ## Changing the parameters of a scope -/

/-- What a change of a scope stores: the first parameter there with another configuration, or a new
one. -/
def drafted (catalog : Catalog) (scope : Scope) (configuration : Fields) (id : Identifier) :
    Parameter :=
  match (catalog.parametersFor scope).head? with
  | some first => { first with configuration := configuration }
  | none => ⟨id, scope.definition, scope.side, scope.workspace, configuration⟩

section
variable (scope : Scope) (configuration : Fields) (id : Identifier)

theorem configuration_drafted :
    (catalog.drafted scope configuration id).configuration = configuration := by
  unfold drafted
  split <;> rfl

theorem id_drafted : (catalog.drafted scope configuration id).id =
    (catalog.parametersFor scope).head?.elim id (·.id) := by
  unfold drafted
  cases (catalog.parametersFor scope).head? <;> rfl

theorem scope_drafted : (catalog.drafted scope configuration id).scope = scope := by
  unfold drafted
  cases hfirst : (catalog.parametersFor scope).head? with
  | none => rfl
  | some first => exact (mem_inScope.mp (List.mem_of_head? hfirst)).2

/-- The change, which stores the draft. -/
def changed (catalog : Catalog) : Catalog :=
  catalog.addParameter (catalog.drafted scope configuration id)

theorem Filed.head?_changed (h : catalog.Filed) :
    ((catalog.changed scope configuration id).parametersFor scope).head? =
      some (catalog.drafted scope configuration id) := by
  refine h.head?_parametersFor_addParameter (scope_drafted scope configuration id) fun first hfirst => ?_
  rw [id_drafted, hfirst]
  rfl

/-- Where the identifier for a new parameter is new, a change replaces one of its scope or none. -/
theorem Filed.get?_drafted (h : catalog.Filed) (hfresh : id ∉ catalog.parameters.keys) :
    catalog.parameters.get? (catalog.drafted scope configuration id).id =
      (catalog.parametersFor scope).head? := by
  rw [id_drafted]
  cases hfirst : (catalog.parametersFor scope).head? with
  | none => exact (Table.get?_eq_none_iff _ _).mpr hfresh
  | some first => exact h.get?_of_mem (List.mem_of_head? hfirst)

theorem Filed.parametersFor_changed_of_ne (h : catalog.Filed)
    (hfresh : id ∉ catalog.parameters.keys) {other : Scope} (hne : other ≠ scope) :
    (catalog.changed scope configuration id).parametersFor other = catalog.parametersFor other := by
  have hscope : (catalog.drafted scope configuration id).scope = scope := scope_drafted _ _ _
  refine h.parametersFor_addParameter_of_ne (by rw [hscope]; exact hne.symm) fun held hheld => ?_
  rw [h.get?_drafted scope configuration id hfresh] at hheld
  rw [hscope]
  exact (mem_inScope.mp (List.mem_of_head? hheld)).2

theorem Filed.length_changed (h : catalog.Filed) (hfresh : id ∉ catalog.parameters.keys) :
    (catalog.changed scope configuration id).parameters.length =
      catalog.parameters.length + (catalog.parametersFor scope).head?.elim 1 fun _ => 0 := by
  have hget := h.get?_drafted scope configuration id hfresh
  rw [changed, Catalog.addParameter, Table.length_insert]
  cases hfirst : (catalog.parametersFor scope).head? with
  | none =>
    rw [hfirst] at hget
    rw [if_neg ((Table.get?_eq_none_iff _ _).mp hget)]
    rfl
  | some first =>
    rw [hfirst] at hget
    rw [if_pos (Table.mem_keys_of_get? hget)]
    rfl

/-- A change leaves the parameters of other scopes where they are. -/
theorem Filed.getElem?_changed_of_ne (h : catalog.Filed) (hfresh : id ∉ catalog.parameters.keys)
    {other : Identifier} (hq : q.scope ≠ scope) (place : Nat) :
    (catalog.changed scope configuration id).parameters[place]? = some (other, q) ↔
      catalog.parameters[place]? = some (other, q) := by
  have hget := h.get?_drafted scope configuration id hfresh
  have hfiled : (catalog.changed scope configuration id).Filed := h.addParameter _
  by_cases hid : other = (catalog.drafted scope configuration id).id
  · -- under this identifier stands a parameter of the scope, before and after
    subst hid
    constructor
    · intro hafter
      have hdraft := Table.get?_of_mem hfiled.parameters.nodup (List.mem_of_getElem? hafter)
      have hself : (catalog.changed scope configuration id).parameters.get?
          (catalog.drafted scope configuration id).id =
            some (catalog.drafted scope configuration id) := Table.get?_insert_self _ _ _
      rw [hself] at hdraft
      refine absurd ?_ hq
      rw [← Option.some.inj hdraft]
      exact scope_drafted scope configuration id
    · intro hbefore
      have hfirst := Table.get?_of_mem h.parameters.nodup (List.mem_of_getElem? hbefore)
      rw [hget] at hfirst
      exact absurd (mem_inScope.mp (List.mem_of_head? hfirst)).2 hq
  · exact Table.getElem?_insert_of_ne _ _ _ hid place

/-- A scope with at most one parameter has the draft alone afterwards. -/
theorem Filed.parametersFor_changed (h : catalog.Filed)
    (hone : (catalog.parametersFor scope).length ≤ 1) :
    (catalog.changed scope configuration id).parametersFor scope =
      [catalog.drafted scope configuration id] := by
  refine h.parametersFor_addParameter_sole (scope_drafted scope configuration id) fun q hq => ?_
  rw [id_drafted]
  cases hlist : catalog.parametersFor scope with
  | nil =>
    rw [hlist] at hq
    cases hq
  | cons first rest =>
    rw [hlist, List.length_cons] at hone
    have hrest : rest = [] := List.eq_nil_of_length_eq_zero (by omega)
    rw [hlist, hrest] at hq
    rw [List.mem_singleton.mp hq]
    rfl

/-- If no scope has two parameters, none has afterwards, whatever identifier a new one gets. -/
theorem Filed.length_parametersFor_changed_le (h : catalog.Filed)
    (hone : ∀ other, (catalog.parametersFor other).length ≤ 1) (other : Scope) :
    ((catalog.changed scope configuration id).parametersFor other).length ≤ 1 := by
  by_cases heq : other = scope
  · subst heq
    rw [h.parametersFor_changed other configuration id (hone other)]
    exact Nat.le_refl 1
  · have hne : (catalog.drafted scope configuration id).scope ≠ other := by
      rw [scope_drafted]
      exact fun h => heq h.symm
    exact Nat.le_trans (h.parametersFor_addParameter_sublist hne).length_le (hone other)

end

end Catalog

end AuthBroker
