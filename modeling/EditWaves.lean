import EditWaves.Main
import EditWaves.Mutation.Combine
import EditWaves.Proofs.Mutation.RoundTrip
import EditWaves.Proofs.Run.Files
import EditWaves.Proofs.Workspace.SimultaneousEdit
import EditWaves.Proofs.Mutation.Choice
import EditWaves.Proofs.Run.Results
import EditWaves.Proofs.Workspace.Grouping
import EditWaves.Proofs.Workspace.Steps
import EditWaves.Proofs.Workspace.Interleaving
import EditWaves.Proofs.Workspace.InsertedText
import EditWaves.Proofs.Workspace.TouchingEdits
import EditWaves.Proofs.Mutation.Acceptance
import EditWaves.Proofs.Resolver.Faults
import EditWaves.Proofs.Resolver.History
import EditWaves.Proofs.Resolver.Resolution
import EditWaves.Proofs.Resolver.Transparency
import EditWaves.Proofs.Resolver.Depth
import EditWaves.Proofs.Run.Abort
import EditWaves.Proofs.Run.Blocks
import EditWaves.Proofs.Workspace.Reports
import EditWaves.Proofs.Run.Outage
import EditWaves.Proofs.Run.Protocol
import EditWaves.Proofs.Config.Overlay
import EditWaves.Proofs.Program.Report
import EditWaves.Proofs.Program.Exit
import EditWaves.Proofs.Resolver.Unresolved
import EditWaves.Proofs.Workspace.Tally
import EditWaves.Proofs.Run.Statistics
import EditWaves.Proofs.Mutation.Removal
import EditWaves.Proofs.Workspace.Arrangement
import EditWaves.Proofs.Pattern.Substitution
import EditWaves.Proofs.Mutation.Hull
import EditWaves.Proofs.Mutation.Place
import EditWaves.Proofs.Resolver.Pruning
import EditWaves.Proofs.Mutation.Spelling
import EditWaves.Proofs.Workspace.Spelling
import EditWaves.Proofs.Pattern.Matches
import EditWaves.Proofs.Pattern.Replacement
import EditWaves.Proofs.Pattern.Search
import EditWaves.Proofs.Mutation.Forms
import EditWaves.Proofs.Pattern.Literal
import EditWaves.Proofs.Text.Undo
import EditWaves.Proofs.Mutation.Positions
