import WorkloadLogin.Address.Ip
import WorkloadLogin.Address.Network
import WorkloadLogin.Address.Reader
import WorkloadLogin.Calendar.Date
import WorkloadLogin.Calendar.Timestamp
import WorkloadLogin.Config
import WorkloadLogin.Config.Codec
import WorkloadLogin.Config.Load
import WorkloadLogin.Config.Variables
import WorkloadLogin.Constraint
import WorkloadLogin.Controller.Client
import WorkloadLogin.Controller.Credentials
import WorkloadLogin.Controller.Fault
import WorkloadLogin.Controller.Wire
import WorkloadLogin.Credential
import WorkloadLogin.Credential.Codec
import WorkloadLogin.Dialogue
import WorkloadLogin.Digest
import WorkloadLogin.Digest.Sha1
import WorkloadLogin.Digest.Sha256
import WorkloadLogin.Digest.Sha512
import WorkloadLogin.Duration
import WorkloadLogin.Encoding.Base64
import WorkloadLogin.Encoding.Bytes
import WorkloadLogin.Encoding.Der
import WorkloadLogin.Encoding.Pem
import WorkloadLogin.Encoding.PemSections
import WorkloadLogin.Entries
import WorkloadLogin.Gateway
import WorkloadLogin.Http.DomainName
import WorkloadLogin.Http.DomainName.Label
import WorkloadLogin.Http.DomainName.Mapping
import WorkloadLogin.Http.DomainName.Punycode
import WorkloadLogin.Http.Exchange
import WorkloadLogin.Http.Form
import WorkloadLogin.Http.Host
import WorkloadLogin.Http.Percent
import WorkloadLogin.Http.Routes
import WorkloadLogin.Http.Status
import WorkloadLogin.Http.Url
import WorkloadLogin.Http.Url.Reader
import WorkloadLogin.Identity
import WorkloadLogin.Json
import WorkloadLogin.Json.Decode
import WorkloadLogin.Json.Nested
import WorkloadLogin.Json.Pointer
import WorkloadLogin.Json.Printer
import WorkloadLogin.Json.Reader
import WorkloadLogin.Nanos
import WorkloadLogin.Platform
import WorkloadLogin.Platform.Directory
import WorkloadLogin.Proofs.Address.Membership
import WorkloadLogin.Proofs.Address.NetworkText
import WorkloadLogin.Proofs.Address.Octets
import WorkloadLogin.Proofs.Address.Parts
import WorkloadLogin.Proofs.Address.Printed
import WorkloadLogin.Proofs.Address.Spelling
import WorkloadLogin.Proofs.Calendar.Civil
import WorkloadLogin.Proofs.Calendar.Years
import WorkloadLogin.Proofs.Config.Layers
import WorkloadLogin.Proofs.Config.Names
import WorkloadLogin.Proofs.Config.Override
import WorkloadLogin.Proofs.Config.Values
import WorkloadLogin.Proofs.Controller.Handshake
import WorkloadLogin.Proofs.Controller.RecordAddress
import WorkloadLogin.Proofs.Controller.Replies
import WorkloadLogin.Proofs.Controller.Secrecy
import WorkloadLogin.Proofs.Controller.TokenProtocol
import WorkloadLogin.Proofs.Credential.Recovery
import WorkloadLogin.Proofs.Credential.Strictness
import WorkloadLogin.Proofs.Credential.Written
import WorkloadLogin.Proofs.Encoding.Base64
import WorkloadLogin.Proofs.Encoding.Canonical
import WorkloadLogin.Proofs.Encoding.Pem
import WorkloadLogin.Proofs.Encoding.TextOrder
import WorkloadLogin.Proofs.Entries
import WorkloadLogin.Proofs.Gates
import WorkloadLogin.Proofs.Http.Lockstep
import WorkloadLogin.Proofs.Http.Percent
import WorkloadLogin.Proofs.Http.Segments
import WorkloadLogin.Proofs.Http.Transcript
import WorkloadLogin.Proofs.Json.Branches
import WorkloadLogin.Proofs.Json.Change
import WorkloadLogin.Proofs.Json.Overlay
import WorkloadLogin.Proofs.Json.Record
import WorkloadLogin.Proofs.Last
import WorkloadLogin.Proofs.Platform.Directory
import WorkloadLogin.Proofs.RemoteAddress
import WorkloadLogin.Proofs.Role.Written
import WorkloadLogin.Proofs.Service.AddressText
import WorkloadLogin.Proofs.Service.Admission
import WorkloadLogin.Proofs.Service.Agreement
import WorkloadLogin.Proofs.Service.Balance
import WorkloadLogin.Proofs.Service.CacheAutomaton
import WorkloadLogin.Proofs.Service.CacheTrace
import WorkloadLogin.Proofs.Service.CallCourses
import WorkloadLogin.Proofs.Service.CallSeries
import WorkloadLogin.Proofs.Service.Calls
import WorkloadLogin.Proofs.Service.ConfigWrites
import WorkloadLogin.Proofs.Service.Corroboration
import WorkloadLogin.Proofs.Service.Course
import WorkloadLogin.Proofs.Service.CrossGates
import WorkloadLogin.Proofs.Service.CrossVerdict
import WorkloadLogin.Proofs.Service.Custody
import WorkloadLogin.Proofs.Service.Deadlock
import WorkloadLogin.Proofs.Service.Flight
import WorkloadLogin.Proofs.Service.Judgement
import WorkloadLogin.Proofs.Service.Lifetime
import WorkloadLogin.Proofs.Service.LockOrder
import WorkloadLogin.Proofs.Service.LoginGates
import WorkloadLogin.Proofs.Service.LoginSpec
import WorkloadLogin.Proofs.Service.PlatformGates
import WorkloadLogin.Proofs.Service.Pool
import WorkloadLogin.Proofs.Service.Progress
import WorkloadLogin.Proofs.Service.Protocol
import WorkloadLogin.Proofs.Service.Queue
import WorkloadLogin.Proofs.Service.Renewal
import WorkloadLogin.Proofs.Service.RenewalGates
import WorkloadLogin.Proofs.Service.Replay
import WorkloadLogin.Proofs.Service.Requests
import WorkloadLogin.Proofs.Service.Schedules
import WorkloadLogin.Proofs.Service.SingleFlight
import WorkloadLogin.Proofs.Service.Solo
import WorkloadLogin.Proofs.Service.Storage
import WorkloadLogin.Proofs.Service.Visits
import WorkloadLogin.Proofs.SignedMessage
import WorkloadLogin.Proofs.SigningLayouts
import WorkloadLogin.Proofs.SigningSecond
import WorkloadLogin.Proofs.SigningTime
import WorkloadLogin.Proofs.SigningWindow
import WorkloadLogin.Proofs.Text.Blank
import WorkloadLogin.Proofs.Text.Decimal
import WorkloadLogin.Proofs.Text.Fields
import WorkloadLogin.Proofs.Text.Quoted
import WorkloadLogin.Proofs.X509.Bundle
import WorkloadLogin.Proofs.X509.Chain
import WorkloadLogin.Proofs.X509.Clues
import WorkloadLogin.Proofs.X509.Extraction
import WorkloadLogin.Proofs.X509.Roots
import WorkloadLogin.Proofs.X509.SignatureText
import WorkloadLogin.Proofs.X509.Signer
import WorkloadLogin.Proofs.X509.Subject
import WorkloadLogin.Proofs.X509.Trust
import WorkloadLogin.Role
import WorkloadLogin.Role.Codec
import WorkloadLogin.Service.CacheScenario
import WorkloadLogin.Service.Client
import WorkloadLogin.Service.CrossCheck
import WorkloadLogin.Service.Error
import WorkloadLogin.Service.Login
import WorkloadLogin.Service.Request
import WorkloadLogin.Service.Scenario
import WorkloadLogin.Service.Schedule
import WorkloadLogin.Service.Script
import WorkloadLogin.Service.State
import WorkloadLogin.Service.Store
import WorkloadLogin.Signature.Ecdsa
import WorkloadLogin.Signature.Ed25519
import WorkloadLogin.Signature.PowerMod
import WorkloadLogin.Signature.Rsa
import WorkloadLogin.SigningTime
import WorkloadLogin.SigningWindow
import WorkloadLogin.Text.Blank
import WorkloadLogin.Text.Composition
import WorkloadLogin.Text.Decimal
import WorkloadLogin.Text.Direction
import WorkloadLogin.Text.Hexadecimal
import WorkloadLogin.Text.Joining
import WorkloadLogin.Text.Numeral
import WorkloadLogin.Text.Printable
import WorkloadLogin.Text.Quoted
import WorkloadLogin.Text.Runs
import WorkloadLogin.Verifier
import WorkloadLogin.X509.AltName
import WorkloadLogin.X509.BasicConstraints
import WorkloadLogin.X509.Certificate
import WorkloadLogin.X509.Extension
import WorkloadLogin.X509.Fault
import WorkloadLogin.X509.Field
import WorkloadLogin.X509.Issuance
import WorkloadLogin.X509.Key
import WorkloadLogin.X509.Name
import WorkloadLogin.X509.Time
import WorkloadLogin.X509.TrustAnchor
import WorkloadLogin.X509.Verifier
import WorkloadLogin.Yaml.Cursor
import WorkloadLogin.Yaml.Node
import WorkloadLogin.Yaml.Scalar
import WorkloadLogin.Yaml.Tag
import WorkloadLogin.Yaml.Token
import WorkloadLogin.Yaml.Value
