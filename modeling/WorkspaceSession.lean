import WorkspaceSession.Host.Machine
import WorkspaceSession.Main
import WorkspaceSession.Mod.Encoding
import WorkspaceSession.Proofs.AddedPlugins
import WorkspaceSession.Proofs.Artifacts
import WorkspaceSession.Proofs.CacheFindings
import WorkspaceSession.Proofs.CleanupOrder
import WorkspaceSession.Proofs.ConnectionString
import WorkspaceSession.Proofs.Credentials
import WorkspaceSession.Proofs.DependencyWalk
import WorkspaceSession.Proofs.Encoding
import WorkspaceSession.Proofs.ExporterLookup
import WorkspaceSession.Proofs.Failure
import WorkspaceSession.Proofs.InitCalls
import WorkspaceSession.Proofs.InitError
import WorkspaceSession.Proofs.InitHoldings
import WorkspaceSession.Proofs.Installation
import WorkspaceSession.Proofs.Judgement
import WorkspaceSession.Proofs.MessageRouting
import WorkspaceSession.Proofs.RootSearch
import WorkspaceSession.Proofs.Summary
import WorkspaceSession.Proofs.Unconstrained
import WorkspaceSession.Proofs.Verdict
import WorkspaceSession.Proofs.WalkHistory
import WorkspaceSession.Proofs.WorkspaceClosing
