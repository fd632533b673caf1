import ServiceDiscovery.Message.Lookup
import ServiceDiscovery.Session.Querying
import ServiceDiscovery.Address.Reading
import ServiceDiscovery.Proofs.Wire.Names
import ServiceDiscovery.Proofs.Header
import ServiceDiscovery.Proofs.Record.Body
import ServiceDiscovery.Proofs.Question
import ServiceDiscovery.Proofs.Record.Wire
import ServiceDiscovery.Proofs.Message.Wire
import ServiceDiscovery.Proofs.Message.Building
import ServiceDiscovery.Proofs.Message.RoundTrip
import ServiceDiscovery.Proofs.Message.Counts
import ServiceDiscovery.Proofs.Message.NormalForm
import ServiceDiscovery.Proofs.Message.Received
import ServiceDiscovery.Proofs.Name.Services
import ServiceDiscovery.Proofs.Record.Attribute
import ServiceDiscovery.Proofs.Service.Assembly
import ServiceDiscovery.Proofs.Service.Catalog
import ServiceDiscovery.Proofs.Discovery.Announcement
import ServiceDiscovery.Proofs.Discovery.Operation
import ServiceDiscovery.Proofs.Discovery.Failure
import ServiceDiscovery.Proofs.Discovery.Chronicle
import ServiceDiscovery.Proofs.Discovery.Arrival
import ServiceDiscovery.Proofs.Discovery.Dispatch
import ServiceDiscovery.Proofs.Wire.Growing
import ServiceDiscovery.Proofs.Message.Growing
import ServiceDiscovery.Proofs.Message.Truncation
import ServiceDiscovery.Proofs.Wire.Pointers
import ServiceDiscovery.Proofs.Message.Opaque
import ServiceDiscovery.Proofs.Session.Lifecycle
import ServiceDiscovery.Proofs.Wire.Grammar
import ServiceDiscovery.Proofs.Session.Hearing
import ServiceDiscovery.Proofs.Session.Queued
import ServiceDiscovery.Proofs.Session.Registrations
import ServiceDiscovery.Proofs.Session.Sending
import ServiceDiscovery.Proofs.Session.Answer
import ServiceDiscovery.Proofs.Session.Interrupted
import ServiceDiscovery.Proofs.Session.Overlap
import ServiceDiscovery.Proofs.Text.Ascii
import ServiceDiscovery.Proofs.Wire.Spelling
import ServiceDiscovery.Proofs.Name.Comparison
import ServiceDiscovery.Proofs.Wire.Moving
import ServiceDiscovery.Proofs.Record.Framing
import ServiceDiscovery.Proofs.Message.Layout
import ServiceDiscovery.Proofs.Message.Faults
import ServiceDiscovery.Proofs.Name.Instances
import ServiceDiscovery.Proofs.Service.Contents
import ServiceDiscovery.Proofs.Service.Instances
import ServiceDiscovery.Proofs.Record.Making
import ServiceDiscovery.Proofs.Text.Digits
import ServiceDiscovery.Proofs.Text.Quoted
import ServiceDiscovery.Proofs.Address.Text
import ServiceDiscovery.Proofs.Record.Content
import ServiceDiscovery.Proofs.Message.Equality
import ServiceDiscovery.Proofs.Query
import ServiceDiscovery.Proofs.Pattern.Literal
import ServiceDiscovery.Proofs.Message.Finding
import ServiceDiscovery.Proofs.Session.Reading
import ServiceDiscovery.Proofs.Session.Deeds
import ServiceDiscovery.Proofs.Session.Turns
import ServiceDiscovery.Proofs.Wire.Tiling
import ServiceDiscovery.Proofs.Wire.Window
import ServiceDiscovery.Proofs.Wire.Scanning
import ServiceDiscovery.Proofs.Message.Scanning
