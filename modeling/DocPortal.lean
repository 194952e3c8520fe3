import DocPortal.Json.Data
import DocPortal.Json.Grammar
import DocPortal.Listing.Memory
import DocPortal.Main
import DocPortal.Proofs.Absolute
import DocPortal.Proofs.Agreement
import DocPortal.Proofs.Arrangement
import DocPortal.Proofs.Assembly
import DocPortal.Proofs.Build
import DocPortal.Proofs.Decoding
import DocPortal.Proofs.Descent
import DocPortal.Proofs.Destination
import DocPortal.Proofs.Discovery
import DocPortal.Proofs.Effect
import DocPortal.Proofs.Encoding
import DocPortal.Proofs.Exactness
import DocPortal.Proofs.Extension
import DocPortal.Proofs.Failure
import DocPortal.Proofs.Fallback
import DocPortal.Proofs.Faults
import DocPortal.Proofs.Filter
import DocPortal.Proofs.Growth
import DocPortal.Proofs.Head
import DocPortal.Proofs.Independence
import DocPortal.Proofs.Keys
import DocPortal.Proofs.Kinds
import DocPortal.Proofs.Layout
import DocPortal.Proofs.Lines
import DocPortal.Proofs.Loading
import DocPortal.Proofs.Location
import DocPortal.Proofs.Obstacle
import DocPortal.Proofs.Overlay
import DocPortal.Proofs.Overrides
import DocPortal.Proofs.Pages
import DocPortal.Proofs.Places
import DocPortal.Proofs.Rebuild
import DocPortal.Proofs.Records
import DocPortal.Proofs.References
import DocPortal.Proofs.Reports
import DocPortal.Proofs.Resolution
import DocPortal.Proofs.Serialization
import DocPortal.Proofs.Silence
import DocPortal.Proofs.StandIn
import DocPortal.Proofs.Substitution
import DocPortal.Proofs.Surroundings
import DocPortal.Proofs.Tree
import DocPortal.Proofs.Upkeep
