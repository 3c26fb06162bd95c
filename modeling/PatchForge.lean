import PatchForge.Main
import PatchForge.Proofs.Build.Preflight
import PatchForge.Proofs.Compilation.Strategies
import PatchForge.Proofs.Compilation.Visibility
import PatchForge.Proofs.Generation.Fixed
import PatchForge.Proofs.Generation.Regeneration
import PatchForge.Proofs.Generation.Templated
import PatchForge.Proofs.Rendering.LoadOrder
import PatchForge.Proofs.Capability.LoadOrder
import PatchForge.Proofs.Capability.Declared
import PatchForge.Proofs.Capability.Report
import PatchForge.Proofs.Command.Verify
import PatchForge.Proofs.Work.Touch
import PatchForge.Proofs.Generation.Effect
import PatchForge.Proofs.Rendering.Soundness
import PatchForge.Proofs.Discovery.Candidates
import PatchForge.Proofs.Discovery.Account
import PatchForge.Proofs.Command.Validate
import PatchForge.Proofs.Build.Trace
import PatchForge.Proofs.Dict.Merge
import PatchForge.Proofs.Template.Segments
import PatchForge.Proofs.Json.RoundTrip
import PatchForge.Proofs.Rendering.FirstSeen
import PatchForge.Proofs.Rendering.Policies
import PatchForge.Proofs.Json.Limits
import PatchForge.Proofs.UserConfig.Updates
import PatchForge.Proofs.Rendering.PlainTemplates
import PatchForge.Proofs.Rendering.Lookups
import PatchForge.Proofs.Generation.FirstPass
import PatchForge.Proofs.Generation.Untouched
import PatchForge.Proofs.Capability.Clashes
import PatchForge.Proofs.Capability.Uses
import PatchForge.Proofs.Command.Listing
import PatchForge.Proofs.Compilation.Tasks
import PatchForge.Proofs.Declaration.Data
import PatchForge.Proofs.Declaration.Loading
import PatchForge.Proofs.Declaration.Validation
import PatchForge.Proofs.Compilation.BuildFolder
import PatchForge.Proofs.BuildPlan.Layers
import PatchForge.Proofs.Grants.History
import PatchForge.Proofs.Version.Release
import PatchForge.Proofs.Disc.Files
import PatchForge.Proofs.Disc.LastWins
