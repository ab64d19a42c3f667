import AuthBroker.Binary64.Basic
import AuthBroker.Binary64.Decimal
import AuthBroker.Binary64.Scaled
import AuthBroker.Broker.Basic
import AuthBroker.Broker.Exchange
import AuthBroker.Broker.Parameters
import AuthBroker.Broker.Resolution
import AuthBroker.Broker.Secret
import AuthBroker.Broker.Sharing
import AuthBroker.Catalog
import AuthBroker.Connector
import AuthBroker.Deployment
import AuthBroker.Document.Basic
import AuthBroker.Document.Conversion
import AuthBroker.Document.Display
import AuthBroker.Document.Json
import AuthBroker.Exchange.Request
import AuthBroker.Exchange.Response
import AuthBroker.Failure
import AuthBroker.Fault
import AuthBroker.Flow.Basic
import AuthBroker.Flow.Registry
import AuthBroker.Identifier
import AuthBroker.Input.Declared
import AuthBroker.Input.Part
import AuthBroker.Input.Reconcile
import AuthBroker.Journal.Basic
import AuthBroker.Journal.Line
import AuthBroker.Journal.Options
import AuthBroker.Journal.Template
import AuthBroker.Path.Basic
import AuthBroker.Path.Query
import AuthBroker.Secret.Coordinate
import AuthBroker.Secret.Key
import AuthBroker.Secret.Payload
import AuthBroker.Secret.Request
import AuthBroker.Secret.Store
import AuthBroker.Session
import AuthBroker.Settings.Basic
import AuthBroker.Settings.Dotenv
import AuthBroker.Table
import AuthBroker.Text.Blank
import AuthBroker.Text.Digit
import AuthBroker.Text.Integer
import AuthBroker.Text.Points
import AuthBroker.Text.Printable
import AuthBroker.Text.Quoted
import AuthBroker.Text.Stretch
import AuthBroker.Text.Uppercase
import AuthBroker.Text.Word
import AuthBroker.Usage.Event
import AuthBroker.Usage.Sink
import AuthBroker.Validation
import AuthBroker.Proofs.Text.Integer
import AuthBroker.Proofs.Document.Proper
import AuthBroker.Proofs.Input.Schema
import AuthBroker.Proofs.Path.Grammar
import AuthBroker.Proofs.Input.Filling
import AuthBroker.Proofs.Broker.Reading
import AuthBroker.Proofs.Broker.Verdict
import AuthBroker.Proofs.Identifier
import AuthBroker.Proofs.Secret.Coordinate
import AuthBroker.Proofs.Secret.Replies
import AuthBroker.Proofs.Secret.Store
import AuthBroker.Proofs.Secret.Cipher
import AuthBroker.Proofs.Broker.Writing
import AuthBroker.Proofs.Path.Location
import AuthBroker.Proofs.Input.Expression
import AuthBroker.Proofs.Broker.Status
import AuthBroker.Proofs.Input.Blotted
import AuthBroker.Proofs.Agreement
import AuthBroker.Proofs.Exchange.Blotted
import AuthBroker.Proofs.Broker.Blotted
import AuthBroker.Proofs.Broker.Coupling
import AuthBroker.Proofs.Session.Secrecy
import AuthBroker.Proofs.Catalog.Population
import AuthBroker.Proofs.Catalog.Parameters
import AuthBroker.Proofs.Broker.Parameters
import AuthBroker.Proofs.Broker.Overlap
import AuthBroker.Proofs.Input.Dependence
import AuthBroker.Proofs.Broker.Ownership
import AuthBroker.Proofs.Broker.Sides
import AuthBroker.Proofs.Broker.InStep
import AuthBroker.Proofs.Session.InStep
import AuthBroker.Proofs.Session.Reach
import AuthBroker.Proofs.Session.Sides
import AuthBroker.Proofs.Broker.Hearing
import AuthBroker.Proofs.Session.Sinks
import AuthBroker.Proofs.Session.Events
import AuthBroker.Proofs.Session.Wirings
import AuthBroker.Proofs.Path.Continuation
import AuthBroker.Proofs.Text.Decimal
import AuthBroker.Proofs.Path.Canonical
import AuthBroker.Proofs.Catalog.History
import AuthBroker.Proofs.Broker.Resolution
import AuthBroker.Proofs.Binary64.Nearest
import AuthBroker.Proofs.Binary64.Shortest
import AuthBroker.Proofs.Json.Grammar
import AuthBroker.Proofs.Json.Reader
import AuthBroker.Proofs.Json.Reading
import AuthBroker.Proofs.Json.Number
import AuthBroker.Proofs.Document.Json
import AuthBroker.Proofs.Broker.Storing
import AuthBroker.Proofs.Path.Defect
import AuthBroker.Proofs.Document.Occurrences
import AuthBroker.Proofs.Document.Plain
import AuthBroker.Proofs.Exchange.Response
import AuthBroker.Proofs.Input.Warnings
import AuthBroker.Proofs.Secret.Payload
import AuthBroker.Proofs.Broker.Failing
import AuthBroker.Proofs.Flow.Registration
import AuthBroker.Proofs.Input.Collecting
import AuthBroker.Proofs.Secret.Places
