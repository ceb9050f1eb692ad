import LdapDecoy.Act
import LdapDecoy.Asn1.Extent
import LdapDecoy.Asn1.Header
import LdapDecoy.Asn1.Reader
import LdapDecoy.Asn1.Value
import LdapDecoy.Ber.Element
import LdapDecoy.Ber.ObjectId
import LdapDecoy.Ber.Write
import LdapDecoy.Config.Configuration
import LdapDecoy.Config.LogLevel
import LdapDecoy.Config.Settings
import LdapDecoy.Config.Token
import LdapDecoy.Config.Toml
import LdapDecoy.Correlation
import LdapDecoy.Crypto.Aes
import LdapDecoy.Crypto.Digest
import LdapDecoy.Crypto.Edwards
import LdapDecoy.Crypto.Field
import LdapDecoy.Crypto.Sha
import LdapDecoy.Daemon.CommandLine
import LdapDecoy.Daemon.Run
import LdapDecoy.Event
import LdapDecoy.Fault
import LdapDecoy.InFlight
import LdapDecoy.Json.Read
import LdapDecoy.Json.Scan
import LdapDecoy.Json.Text
import LdapDecoy.Ldap.Decode
import LdapDecoy.Ldap.Encode
import LdapDecoy.Ldap.Filter.Basic
import LdapDecoy.Ldap.Filter.Display
import LdapDecoy.Ldap.Filter.Text
import LdapDecoy.Ldap.Message
import LdapDecoy.Ldap.Reply
import LdapDecoy.Ldap.Wire
import LdapDecoy.Main
import LdapDecoy.Net.Endpoint
import LdapDecoy.Net.Host
import LdapDecoy.Os.Failure
import LdapDecoy.Os.Files
import LdapDecoy.Proofs.Acts
import LdapDecoy.Proofs.Checks
import LdapDecoy.Proofs.Config.Configuration
import LdapDecoy.Proofs.Config.Updates
import LdapDecoy.Proofs.Correlation.Extraction
import LdapDecoy.Proofs.Correlation.Key
import LdapDecoy.Proofs.Correlation.Labels
import LdapDecoy.Proofs.Json.Object
import LdapDecoy.Proofs.Json.Text
import LdapDecoy.Proofs.Ldap.Framing
import LdapDecoy.Proofs.Record
import LdapDecoy.Proofs.Recorder
import LdapDecoy.Proofs.Responder.Atomic
import LdapDecoy.Proofs.Responder.Blindness
import LdapDecoy.Proofs.Responder.Deeds
import LdapDecoy.Proofs.Responder.Outlet
import LdapDecoy.Proofs.Responder.Partition
import LdapDecoy.Proofs.Responder.Policy
import LdapDecoy.Proofs.Responder.Changes
import LdapDecoy.Proofs.Responder.Rows
import LdapDecoy.Proofs.Responder.Run
import LdapDecoy.Proofs.Storage.Agreement
import LdapDecoy.Proofs.Storage.Journal
import LdapDecoy.Proofs.Storage.Memory
import LdapDecoy.Proofs.Text.Decoding
import LdapDecoy.Proofs.Text.Utf8
import LdapDecoy.Record
import LdapDecoy.Recorder
import LdapDecoy.Responder.Client
import LdapDecoy.Responder.Dialogue
import LdapDecoy.Responder.Run
import LdapDecoy.Responder.Scripted
import LdapDecoy.Responder.Transcript
import LdapDecoy.Server.Connection
import LdapDecoy.Server.Session
import LdapDecoy.Server.Start
import LdapDecoy.Storage.Basic
import LdapDecoy.Storage.Journal
import LdapDecoy.Storage.Memory
import LdapDecoy.Storage.Store
import LdapDecoy.Storage.Switched
import LdapDecoy.Text.Blank
import LdapDecoy.Text.Lines
import LdapDecoy.Text.Quoted
import LdapDecoy.Text.Utf8
import LdapDecoy.Text.Visible
import LdapDecoy.Tls.Algorithm
import LdapDecoy.Tls.Base64
import LdapDecoy.Tls.Certificate
import LdapDecoy.Tls.Curve.Basic
import LdapDecoy.Tls.Curve.Description
import LdapDecoy.Tls.Curve.Named
import LdapDecoy.Tls.Handshake
import LdapDecoy.Tls.Key.Basic
import LdapDecoy.Tls.Key.Elliptic
import LdapDecoy.Tls.Key.Envelope
import LdapDecoy.Tls.Key.File
import LdapDecoy.Tls.Key.Locked
import LdapDecoy.Tls.Key.Rsa
import LdapDecoy.Tls.Key.Unmeasured
import LdapDecoy.Tls.Loopback
import LdapDecoy.Tls.Name
import LdapDecoy.Tls.Pem
import LdapDecoy.Tls.Provider
import LdapDecoy.Proofs.InFlight
import LdapDecoy.Proofs.Server.Connection
import LdapDecoy.Proofs.Server.Stream
import LdapDecoy.Proofs.Server.Turns
import LdapDecoy.Proofs.Server.Account
import LdapDecoy.Proofs.Server.Transport
import LdapDecoy.Proofs.Server.Injection
import LdapDecoy.Proofs.Server.Abandonment
import LdapDecoy.Proofs.Server.Segmentation
import LdapDecoy.Proofs.Server.Complaints
import LdapDecoy.Proofs.Server.Insertion
import LdapDecoy.Proofs.Interleaving
import LdapDecoy.Proofs.Os.Files
import LdapDecoy.Proofs.Responder.Answers
import LdapDecoy.Proofs.Server.Steps
import LdapDecoy.Proofs.Server.Isolation
import LdapDecoy.Proofs.Tls.Provider
import LdapDecoy.Proofs.Tls.Measure
import LdapDecoy.Proofs.Server.Start
import LdapDecoy.Proofs.Server.Setup
import LdapDecoy.Proofs.Daemon.Configtest
import LdapDecoy.Proofs.Correlation.Probe
import LdapDecoy.Proofs.Correlation.Origin
import LdapDecoy.Proofs.Responder.Ledger
import LdapDecoy.Proofs.Server.Accounting
import LdapDecoy.Proofs.Storage.History
import LdapDecoy.Proofs.Storage.Lines
import LdapDecoy.Proofs.Json.Fragment
import LdapDecoy.Proofs.Storage.Resumption
import LdapDecoy.Proofs.Text.Order
import LdapDecoy.Proofs.Storage.Multimap
import LdapDecoy.Proofs.Text.Quoted
import LdapDecoy.Proofs.Ldap.Filter.Parts
import LdapDecoy.Proofs.Ldap.Filter.Grammar
import LdapDecoy.Proofs.Ldap.Filter.Reading
import LdapDecoy.Proofs.Ldap.Filter.Display
import LdapDecoy.Proofs.Ldap.Filter.Brackets
