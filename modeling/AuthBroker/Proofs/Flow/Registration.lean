import AuthBroker.Flow.Registry
import Mathlib.Data.List.Induction
import Mathlib.Data.List.Nodup
import Mathlib.Data.List.TakeWhile

/-! # Which flow a provider keeps

A registration succeeds when its provider has no flow yet. A table is registered entry by entry, and
the rest of it is given up at the first provider that has a flow. `registered` tells the successful
registrations of a course of commands by the providers alone, and the registry holds just these, in
their order (`run_flows`). So a provider keeps the flow that it was given first, whatever fails before
or after (`run_registered`). -/

namespace AuthBroker.Flow.Registry

variable {φ : Type}

/-! ## Commands -/

/-- What can be asked of a registry. A table to build from has every provider once. -/
inductive Command (φ : Type) where
  | register (provider : String) (flow : φ)
  | build (flows : Table String φ) (distinct : flows.keys.Nodup)
  | get (provider : String)
  | list

inductive Answer (φ : Type) where
  | done
  | flow (flow : φ)
  | providers (names : List String)
  | refused (fault : Fault)

def perform (registry : Registry φ) : Command φ → Answer φ × Registry φ
  | .register provider flow =>
    match registry.register provider flow with
    | .ok after => (.done, after)
    | .error fault => (.refused fault, registry)
  | .build flows _ =>
    match registry.registerAll flows with
    | (after, .ok ()) => (.done, after)
    | (after, .error fault) => (.refused fault, after)
  | .get provider =>
    match registry.get provider with
    | .ok flow => (.flow flow, registry)
    | .error fault => (.refused fault, registry)
  | .list => (.providers registry.providers, registry)

/-- The registry after a course of commands. -/
def run (commands : List (Command φ)) : Registry φ :=
  commands.foldl (fun registry command => (registry.perform command).2) empty

/-! ## Successful registrations -/

/-- What a command registers when some providers have flows: an entry by itself unless its provider
has one, and the entries of a table up to the first whose provider has one. -/
def Command.registers (taken : List String) : Command φ → Table String φ
  | .register provider flow => if provider ∈ taken then [] else [(provider, flow)]
  | .build flows _ => flows.takeWhile fun entry => decide (entry.1 ∉ taken)
  | .get _ | .list => []

/-- The successful registrations of a course of commands, in the order in which they happen. -/
def registered (commands : List (Command φ)) : Table String φ :=
  commands.foldl (fun earlier command => earlier ++ command.registers earlier.keys) []

theorem registered_concat (commands : List (Command φ)) (command : Command φ) :
    registered (commands ++ [command]) =
      registered commands ++ command.registers (registered commands).keys := by
  rw [registered, List.foldl_append]
  rfl

theorem run_concat (commands : List (Command φ)) (command : Command φ) :
    run (commands ++ [command]) = ((run commands).perform command).2 := by
  rw [run, List.foldl_append]
  rfl

/-! ## One command -/

section
variable {registry : Registry φ} {provider : String}

theorem contains_iff (registry : Registry φ) (provider : String) :
    registry.flows.contains provider = true ↔ provider ∈ registry.providers :=
  Table.contains_iff_mem_keys registry.flows provider

theorem perform_register_of_mem (h : provider ∈ registry.providers) (flow : φ) :
    registry.perform (.register provider flow) =
      (.refused (.providerTaken provider), registry) := by
  rw [perform, register_of_contains ((contains_iff registry provider).mpr h)]

theorem register_of_notMem (h : provider ∉ registry.providers) (flow : φ) :
    registry.register provider flow = .ok ⟨registry.flows ++ [(provider, flow)]⟩ := by
  refine register_of_not_contains (Bool.eq_false_iff.mpr fun hcontains => ?_) flow
  exact h ((contains_iff registry provider).mp hcontains)

theorem perform_register_of_notMem (h : provider ∉ registry.providers) (flow : φ) :
    registry.perform (.register provider flow) =
      (.done, ⟨registry.flows ++ [(provider, flow)]⟩) := by
  rw [perform, register_of_notMem h]

/-- Entries for other providers go in one after the other. -/
theorem registerAll_append {before : Table String φ} (hdistinct : before.keys.Nodup)
    (hfree : ∀ entry ∈ before, entry.1 ∉ registry.providers) (rest : Table String φ) :
    registry.registerAll (before ++ rest) =
      (⟨registry.flows ++ before⟩ : Registry φ).registerAll rest := by
  induction before generalizing registry with
  | nil => rw [List.nil_append, List.append_nil]
  | cons entry before ih =>
    obtain ⟨provider, flow⟩ := entry
    obtain ⟨hprovider, hdistinct⟩ := List.nodup_cons.mp hdistinct
    obtain ⟨hnew, hfree⟩ := List.forall_mem_cons.mp hfree
    have hnext : ∀ entry ∈ before,
        entry.1 ∉ (⟨registry.flows ++ [(provider, flow)]⟩ : Registry φ).providers := by
      intro entry hentry hmem
      rw [providers, Table.keys, List.map_append, List.mem_append] at hmem
      rcases hmem with htaken | hself
      · exact hfree entry hentry htaken
      · obtain rfl : entry.1 = provider := List.mem_singleton.mp hself
        exact hprovider (List.mem_map.mpr ⟨entry, hentry, rfl⟩)
    rw [List.cons_append, registerAll, register_of_notMem hnew]
    dsimp only
    rw [ih hdistinct hnext, List.append_assoc]
    rfl

theorem perform_build_of_free {flows : Table String φ} (distinct : flows.keys.Nodup)
    (hfree : ∀ entry ∈ flows, entry.1 ∉ registry.providers) :
    registry.perform (.build flows distinct) = (.done, ⟨registry.flows ++ flows⟩) := by
  have hall := registerAll_append distinct hfree []
  rw [List.append_nil, registerAll] at hall
  rw [perform, hall]

/-- Building stops at the first provider that has a flow, and keeps what it has registered. -/
theorem perform_build_of_mem {flows before after : Table String φ} {flow : φ}
    (distinct : flows.keys.Nodup) (hflows : flows = before ++ (provider, flow) :: after)
    (hfree : ∀ entry ∈ before, entry.1 ∉ registry.providers)
    (htaken : provider ∈ registry.providers) :
    registry.perform (.build flows distinct) =
      (.refused (.providerTaken provider), ⟨registry.flows ++ before⟩) := by
  subst hflows
  have hbefore : before.keys.Nodup := by
    rw [Table.keys, List.map_append] at distinct
    exact (List.nodup_append.mp distinct).1
  have hstill : provider ∈ (⟨registry.flows ++ before⟩ : Registry φ).providers := by
    rw [providers, Table.keys, List.map_append]
    exact List.mem_append_left _ htaken
  rw [perform, registerAll_append hbefore hfree, registerAll,
    register_of_contains ((contains_iff _ _).mpr hstill)]

/-- All providers of a table are free, or there is a first one that is not. -/
theorem free_or_first (registry : Registry φ) (flows : Table String φ) :
    (∀ entry ∈ flows, entry.1 ∉ registry.providers) ∨
      ∃ before provider flow after, flows = before ++ (provider, flow) :: after ∧
        (∀ entry ∈ before, entry.1 ∉ registry.providers) ∧ provider ∈ registry.providers := by
  induction flows with
  | nil => exact .inl nofun
  | cons entry rest ih =>
    by_cases htaken : entry.1 ∈ registry.providers
    · exact .inr ⟨[], entry.1, entry.2, rest, rfl, nofun, htaken⟩
    · rcases ih with hfree | ⟨before, provider, flow, after, rfl, hfree, hprovider⟩
      · exact .inl (List.forall_mem_cons.mpr ⟨htaken, hfree⟩)
      · exact .inr ⟨entry :: before, provider, flow, after, rfl,
          List.forall_mem_cons.mpr ⟨htaken, hfree⟩, hprovider⟩

/-- A command adds what it registers at the end, and changes nothing else. -/
theorem perform_flows (registry : Registry φ) (command : Command φ) :
    (registry.perform command).2.flows =
      registry.flows ++ command.registers registry.providers := by
  cases command with
  | register provider flow =>
    by_cases h : provider ∈ registry.providers
    · rw [perform_register_of_mem h, Command.registers, if_pos h, List.append_nil]
    · rw [perform_register_of_notMem h, Command.registers, if_neg h]
  | build flows distinct =>
    rcases free_or_first registry flows with hfree | ⟨before, provider, flow, after, rfl, hfree, htaken⟩
    · rw [perform_build_of_free distinct hfree, Command.registers,
        List.takeWhile_eq_self_iff.mpr fun entry hentry => decide_eq_true (hfree entry hentry)]
    · rw [perform_build_of_mem distinct rfl hfree htaken, Command.registers,
        List.takeWhile_append_of_pos fun entry hentry => decide_eq_true (hfree entry hentry),
        List.takeWhile_cons_of_neg (by simpa using htaken), List.append_nil]
  | get provider =>
    rw [perform, Command.registers, List.append_nil]
    cases registry.get provider <;> rfl
  | list => exact (List.append_nil _).symm

end

/-! ## Courses of commands -/

theorem run_flows (commands : List (Command φ)) : (run commands).flows = registered commands := by
  induction commands using List.reverseRecOn with
  | nil => rfl
  | append_singleton commands command ih =>
    rw [run_concat, perform_flows, registered_concat, providers, ih]

/-- What a command registers has no flow yet, and every provider in it once. -/
theorem Command.registers_spec (taken : List String) (command : Command φ) :
    (command.registers taken).keys.Nodup ∧ ∀ entry ∈ command.registers taken, entry.1 ∉ taken := by
  cases command with
  | register provider flow =>
    by_cases h : provider ∈ taken
    · rw [registers, if_pos h]
      exact ⟨List.nodup_nil, nofun⟩
    · rw [registers, if_neg h]
      exact ⟨List.nodup_singleton _, List.forall_mem_singleton.mpr h⟩
  | build flows distinct =>
    rw [registers]
    refine ⟨distinct.sublist ((List.takeWhile_sublist _).map _), fun entry hentry => ?_⟩
    have hfree := List.mem_takeWhile_imp hentry
    exact of_decide_eq_true hfree
  | _ => exact ⟨List.nodup_nil, nofun⟩

/-- No provider is registered twice. -/
theorem registered_nodup (commands : List (Command φ)) : (registered commands).keys.Nodup := by
  induction commands using List.reverseRecOn with
  | nil => exact List.nodup_nil
  | append_singleton commands command ih =>
    obtain ⟨hdistinct, hfree⟩ := command.registers_spec (registered commands).keys
    rw [registered_concat, Table.keys, List.map_append, List.nodup_append]
    refine ⟨ih, hdistinct, ?_⟩
    rintro provider hprovider _ hnew rfl
    obtain ⟨entry, hentry, rfl⟩ := List.mem_map.mp hnew
    exact hfree entry hentry hprovider

theorem flows_kept_perform (registry : Registry φ) (command : Command φ) :
    registry.flows <+: (registry.perform command).2.flows := by
  rw [perform_flows]
  exact List.prefix_append _ _

theorem flows_kept_run (earlier later : List (Command φ)) :
    (run earlier).flows <+: (run (earlier ++ later)).flows := by
  induction later using List.reverseRecOn with
  | nil => simp
  | append_singleton later command ih =>
    rw [← List.append_assoc, run_concat]
    exact ih.trans (flows_kept_perform _ command)

/-! ## The first registration -/

/-- The first entry for a provider has a flow. -/
def FirstFor (entries : Table String φ) (provider : String) (flow : φ) : Prop :=
  ∃ before after, entries = before ++ (provider, flow) :: after ∧ provider ∉ Table.keys before

theorem get?_eq_some_iff_firstFor (entries : Table String φ) (provider : String) (flow : φ) :
    entries.get? provider = some flow ↔ FirstFor entries provider flow := by
  rw [Table.get?, List.lookup_eq_some_iff]
  refine exists_congr fun before => exists_congr fun after => and_congr_right fun _ => ?_
  constructor
  · intro hother hmem
    obtain ⟨entry, hentry, rfl⟩ := List.mem_map.mp hmem
    simpa using hother entry hentry
  · intro hnone entry hentry
    rw [bne_iff_ne]
    rintro rfl
    exact hnone (List.mem_map.mpr ⟨entry, hentry, rfl⟩)

theorem perform_get_eq_flow_iff (registry : Registry φ) (provider : String) (flow : φ) :
    registry.perform (.get provider) = (.flow flow, registry) ↔
      FirstFor registry.flows provider flow := by
  rw [← get?_eq_some_iff_firstFor, perform, get]
  cases registry.flows.get? provider <;> simp

theorem perform_get_eq_refused_iff (registry : Registry φ) (provider : String) (fault : Fault) :
    registry.perform (.get provider) = (.refused fault, registry) ↔
      fault = .providerNotSupported provider ∧ provider ∉ registry.providers := by
  rw [providers, ← Table.get?_eq_none_iff, perform, get]
  cases registry.flows.get? provider <;> simp [eq_comm]

theorem exists_perform_build_refused_iff (registry : Registry φ) {flows : Table String φ}
    (distinct : flows.keys.Nodup) :
    (∃ fault, (registry.perform (.build flows distinct)).1 = .refused fault) ↔
      ∃ entry ∈ flows, entry.1 ∈ registry.providers := by
  rcases free_or_first registry flows with hfree | ⟨before, provider, flow, after, rfl, hfree, htaken⟩
  · rw [perform_build_of_free distinct hfree]
    exact iff_of_false nofun fun ⟨entry, hentry, htaken⟩ => hfree entry hentry htaken
  · rw [perform_build_of_mem distinct rfl hfree htaken]
    exact iff_of_true ⟨_, rfl⟩ ⟨_, List.mem_append_right _ List.mem_cons_self, htaken⟩

/-- After any course of commands, a provider has the flow of its first successful registration, and is
not supported when there was none; the providers are listed in the order of their registrations, none
of them twice. Later commands take nothing away. A registration is refused exactly when the provider
has a flow, and then it changes nothing. A table is refused exactly when one of its providers has a
flow, and then the entries before the first such provider have been registered, and no other. -/
theorem run_registered (commands : List (Command φ)) :
    let registry := run commands
    (∀ provider flow, registry.perform (.get provider) = (.flow flow, registry) ↔
      FirstFor (registered commands) provider flow) ∧
    (∀ provider fault, registry.perform (.get provider) = (.refused fault, registry) ↔
      fault = .providerNotSupported provider ∧ provider ∉ (registered commands).keys) ∧
    registry.perform .list = (.providers (registered commands).keys, registry) ∧
    (registered commands).keys.Nodup ∧
    (∀ later, registry.flows <+: (run (commands ++ later)).flows) ∧
    (∀ provider flow, registry.perform (.register provider flow) =
      if provider ∈ registry.providers then (.refused (.providerTaken provider), registry)
      else (.done, ⟨registry.flows ++ [(provider, flow)]⟩)) ∧
    ∀ flows distinct,
      ((∃ fault, (registry.perform (.build flows distinct)).1 = .refused fault) ↔
        ∃ entry ∈ flows, entry.1 ∈ registry.providers) ∧
      ((∀ entry ∈ flows, entry.1 ∉ registry.providers) →
        registry.perform (.build flows distinct) = (.done, ⟨registry.flows ++ flows⟩)) ∧
      ∀ before provider flow after, flows = before ++ (provider, flow) :: after →
        (∀ entry ∈ before, entry.1 ∉ registry.providers) → provider ∈ registry.providers →
        registry.perform (.build flows distinct) =
          (.refused (.providerTaken provider), ⟨registry.flows ++ before⟩) := by
  intro registry
  have hflows : registry.flows = registered commands := run_flows commands
  have hproviders : registry.providers = (registered commands).keys := by
    rw [providers, hflows]
  refine ⟨fun provider flow => ?_, fun provider fault => ?_, ?_, registered_nodup commands,
    flows_kept_run commands, fun provider flow => ?_, fun flows distinct => ⟨?_, ?_, ?_⟩⟩
  · rw [perform_get_eq_flow_iff, hflows]
  · rw [perform_get_eq_refused_iff, hproviders]
  · rw [perform, hproviders]
  · split
    · rename_i h
      exact perform_register_of_mem h flow
    · rename_i h
      exact perform_register_of_notMem h flow
  · exact exists_perform_build_refused_iff registry distinct
  · exact perform_build_of_free distinct
  · intro before provider flow after hsplit hfree htaken
    exact perform_build_of_mem distinct hsplit hfree htaken

/-- The second table stops at a provider of the first, and what stands behind it is not registered. -/
example : (run [.build [("z", 1), ("m", 2)] (by decide), .register "m" 3,
      .build [("a", 4), ("z", 5), ("b", 6)] (by decide), .get "b"]).flows =
    [("z", 1), ("m", 2), ("a", 4)] := by decide

end AuthBroker.Flow.Registry
