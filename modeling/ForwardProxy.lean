import ForwardProxy.Config.Json
import ForwardProxy.Config.Environment
import ForwardProxy.Event
import ForwardProxy.Session
import ForwardProxy.Proofs.Endpoint
import ForwardProxy.Proofs.Endpoint.Grammar
import ForwardProxy.Proofs.Endpoint.Offset
import ForwardProxy.Proofs.Endpoint.Port
import ForwardProxy.Proofs.Exclusions
import ForwardProxy.Proofs.Exclusions.OnePass
import ForwardProxy.Proofs.Exclusions.Offset
import ForwardProxy.Proofs.Idna
import ForwardProxy.Proofs.Ip
import ForwardProxy.Proofs.Percent
import ForwardProxy.Proofs.Reading
import ForwardProxy.Proofs.Reading.Repair
import ForwardProxy.Proofs.Resolution
import ForwardProxy.Proofs.Resolution.Domain
import ForwardProxy.Proofs.Resolution.Host
import ForwardProxy.Proofs.Resolution.Loopback
import ForwardProxy.Proofs.Resolution.Reachable
import ForwardProxy.Proofs.Text.LowerCase
import ForwardProxy.Proofs.Text.Offset
import ForwardProxy.Proofs.Url.Authority
import ForwardProxy.Proofs.Url.Host
import ForwardProxy.Proofs.Url.Parse
import ForwardProxy.Proofs.Url.Opaque
import ForwardProxy.Proofs.Url.Prefix
import ForwardProxy.Proofs.Url.Presence
import ForwardProxy.Proofs.Url.Target
import ForwardProxy.Proofs.Uri
import ForwardProxy.Proofs.Request
import ForwardProxy.Proofs.Request.Form
import ForwardProxy.Proofs.Event
import ForwardProxy.Proofs.Session
import ForwardProxy.Proofs.Url.Number
import ForwardProxy.Proofs.Reading.Bare
import ForwardProxy.Proofs.Text.SmallForm
import ForwardProxy.Proofs.Exclusions.Pattern
import ForwardProxy.Proofs.Exclusions.List
import ForwardProxy.Proofs.Exclusions.Spelling
import ForwardProxy.Proofs.Idna.Ascii
import ForwardProxy.Proofs.Url.Name
import ForwardProxy.Proofs.Idna.LowerCase
import ForwardProxy.Proofs.Resolution.OwnName
import ForwardProxy.Proofs.Resolution.Address
import ForwardProxy.Proofs.Resolution.Splitting
import ForwardProxy.Proofs.Exclusions.Form
import ForwardProxy.Proofs.Config.Environment
import ForwardProxy.Proofs.Failure
import ForwardProxy.Proofs.Json.Literal
import ForwardProxy.Proofs.Json.Number
import ForwardProxy.Proofs.Json.Value
import ForwardProxy.Proofs.Config.Document
import ForwardProxy.Proofs.Config.RoundTrip
