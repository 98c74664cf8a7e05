import Autoscaler.Main
import Autoscaler.Proofs.Aws.Cloud
import Autoscaler.Proofs.Fleet.Sizes
import Autoscaler.Roster.Script
import Autoscaler.Proofs.Fleet.Provider
import Autoscaler.Proofs.ScaleUp.Cycle
import Autoscaler.Proofs.ScaleUp.Decision
import Autoscaler.Proofs.ScaleUp.Effects
import Autoscaler.Proofs.ScaleUp.Bounds
import Autoscaler.Proofs.Fit
import Autoscaler.Proofs.Packing.FirstFit
import Autoscaler.Proofs.ScaleUp.Placement
import Autoscaler.Proofs.Directory
import Autoscaler.Proofs.Roster.Answers
import Autoscaler.Proofs.Aws.Instances
import Autoscaler.Proofs.Gce.Instances
import Autoscaler.Proofs.Roster.Confirmation
import Autoscaler.Proofs.Fleet.Ownership
import Autoscaler.Proofs.Fleet.Removal
import Autoscaler.Proofs.Fleet.Runs
import Autoscaler.Proofs.Roster.History
import Autoscaler.Proofs.Roster.Fresh
import Autoscaler.Proofs.ScaleUp.Events
import Autoscaler.Proofs.Fleet.Steady
import Autoscaler.Proofs.ScaleUp.Turns
import Autoscaler.Proofs.ScaleUp.Repetition
import Autoscaler.Proofs.ScaleUp.Growth
import Autoscaler.Proofs.Roster.Tasks
import Autoscaler.Proofs.Fleet.Separation
import Autoscaler.Proofs.Fleet.Discovery
import Autoscaler.Proofs.Aws.Twins
import Autoscaler.Proofs.Fleet.Twins
import Autoscaler.Proofs.Fleet.Increase
import Autoscaler.Proofs.ScaleUp.Isolation
import Autoscaler.Proofs.Gce.Url
import Autoscaler.Proofs.Gce.Watch
import Autoscaler.Proofs.Gce.Waiting
import Autoscaler.Proofs.Fleet.Layout
import Autoscaler.Proofs.Fleet.Counterparts
import Autoscaler.Proofs.Fleet.Built
import Autoscaler.Proofs.ScaleUp.Counterparts
import Autoscaler.Proofs.Fleet.Building
import Autoscaler.Proofs.Config.Validation
import Autoscaler.Proofs.Simulation
import Autoscaler.Proofs.Fleet.Sightings
import Autoscaler.Proofs.Toml.Text
import Autoscaler.Proofs.Toml.Reader
import Autoscaler.Proofs.Toml.Assembly
import Autoscaler.Proofs.Config.Document
import Autoscaler.Proofs.Config.RoundTrip
import Autoscaler.Proofs.Packing.Choice
import Autoscaler.Proofs.Packing.Optimum
import Autoscaler.Proofs.Packing.Oversized
import Autoscaler.Proofs.Packing.Uniform
import Autoscaler.Proofs.Packing.Total
import Autoscaler.Proofs.Roster.Lookup
import Autoscaler.Proofs.Text.Numeral
import Autoscaler.Proofs.GroupSpec
import Autoscaler.Proofs.ScaleUp.Reordering
import Autoscaler.Proofs.Fleet.Losses
import Autoscaler.Proofs.Duration
import Autoscaler.Proofs.Config.Faults
import Autoscaler.Proofs.Fleet.ProviderIds
