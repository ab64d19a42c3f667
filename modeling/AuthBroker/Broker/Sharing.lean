import AuthBroker.Broker.Basic

/-!
What the caller and the flows share with the broker.

Rehearsal doubles hand out the records that they keep, so what the caller writes into one is
there at the next look-up, and also in the calls of flows that got a table of it. A table that is
replaced, alone or with its configuration, is no longer kept, and its loans end. All other
brokers hand out copies.
-/

namespace AuthBroker.Broker

open Connector

def sharesRecords (b : Broker) : Bool :=
  b.wiring == .rehearsal

/-! ## Kept configurations -/

/-- The configuration that a look-up of an actor hands out, with its secrets in place if asked. -/
def holding (b : Broker) (side : Side) (id : Identifier) (hydrated : Bool) : Holding :=
  ⟨side, id, hydrated && b.hydrated.contains (side, id)⟩

def configuration? (b : Broker) (holding : Holding) : Option Fields :=
  if holding.hydrated then b.hydrated.get? (holding.side, holding.actor)
  else (b.catalog.actors.get? (holding.side, holding.actor)).map (·.configuration)

def setConfiguration (b : Broker) (holding : Holding) (configuration : Fields) : Broker :=
  let key := (holding.side, holding.actor)
  if holding.hydrated then { b with hydrated := b.hydrated.insert key configuration }
  else
    match b.catalog.actors.get? key with
    | some actor =>
      let edited := { actor with configuration := configuration }
      { b with catalog := { b.catalog with actors := b.catalog.actors.insert key edited } }
    | none => b

/-! ## Loans -/

/-- Notes the tables that the next call gets as they stand. -/
def lend (side : Side) (id : Identifier) (spec : OAuthSpecification) (input : Option Fields) :
    Action Unit :=
  modify fun b =>
    let holding := b.holding side id true
    match b.sharesRecords, b.configuration? holding with
    | true, some configuration =>
      let lent := (Input.parts spec configuration input).map fun (field, part) =>
        (⟨b.calls.length, field, holding, part⟩ : Loan)
      { b with loans := b.loans ++ lent }
    | _, _ => b

/-- Ends the loans of a configuration that is no longer kept. -/
def endLoans (b : Broker) (holding : Holding) : Broker :=
  { b with loans := b.loans.filter (·.holding != holding) }

/-! ## Edits by the caller -/

/-- Writes entries into every table that a configuration holds, and into itself. -/
def editDeep (configuration edit : Fields) : Fields :=
  Table.insertAll
    (configuration.map fun (key, value) =>
      match value with
      | .object entries => (key, .object (Table.insertAll entries edit))
      | d => (key, d))
    edit

/-- What an edit of a configuration makes of a part of it. Nothing becomes of a table that the
edit replaces. -/
def editPart (edit : Fields) (part : Input.Part) (value : Document) : Document :=
  match part, value with
  | .whole, .object entries => .object (editDeep entries edit)
  | .entry key, .object entries =>
    if edit.contains key then value else .object (Table.insertAll entries edit)
  | _, d => d

def isReplaced (edit : Fields) : Input.Part → Bool
  | .whole => false
  | .entry key => edit.contains key

/-- The broker after an edit of a kept configuration: the calls that share it change too. -/
def afterConfigurationEdit (b : Broker) (holding : Holding) (edit : Fields) : Broker :=
  match b.configuration? holding with
  | none => b
  | some configuration =>
    let shared := b.loans.filter (·.holding == holding)
    let calls := shared.foldl (fun calls loan =>
      calls.modify loan.call (·.modifyInput loan.field (editPart edit loan.part))) b.calls
    let loans := b.loans.filter fun loan =>
      loan.holding != holding || !isReplaced edit loan.part
    { b.setConfiguration holding (editDeep configuration edit) with calls := calls, loans := loans }

/-- The broker after an edit of the configuration that was handed out with an actor. -/
def afterActorEdit (b : Broker) (side : Side) (id : Identifier) (hydrated : Bool)
    (edit : Fields) : Broker :=
  b.afterConfigurationEdit (b.holding side id hydrated) edit

def editParameter (edit : Fields) (parameter : Parameter) : Parameter :=
  { parameter with configuration := Table.insertAll parameter.configuration edit }

/-- The broker after an edit of a parameter that was handed out; `written` tells that the same
record was just written. -/
def afterParameterEdit (b : Broker) (parameter : Parameter) (written : Bool) (edit : Fields) :
    Broker :=
  let edited := editParameter edit parameter
  { b with
    catalog := b.catalog.addParameter edited
    parameterWrites :=
      if written then b.parameterWrites.dropLast ++ [edited] else b.parameterWrites }

/-- Lets the caller edit what was handed out, where it is shared. -/
def editing (edit : Fields) (after : Broker → Broker) : Action Unit :=
  modify fun b => if b.sharesRecords && !edit.isEmpty then after b else b

end AuthBroker.Broker
