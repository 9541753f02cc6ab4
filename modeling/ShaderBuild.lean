import ShaderBuild.Cache.Crowd
import ShaderBuild.Main
import ShaderBuild.Vulkan.ModuleInfo
import ShaderBuild.Watch
import ShaderBuild.Pattern.Basic
import ShaderBuild.Text.Escape
import ShaderBuild.Pattern.Fault
import ShaderBuild.Text.Letter
import ShaderBuild.Pattern.Modes
import ShaderBuild.Pattern.Cursor
import ShaderBuild.Pattern.Piece
import ShaderBuild.Pattern.Bracket
import ShaderBuild.Pattern.Group
import ShaderBuild.Pattern.Reading
import ShaderBuild.Proofs.Cache.Agreement
import ShaderBuild.Proofs.Cache.Invocation
import ShaderBuild.Proofs.Cache.Transparency
import ShaderBuild.Proofs.Cache.Accounts
import ShaderBuild.Cache.Custody
import ShaderBuild.Proofs.Cache.Ceiling
import ShaderBuild.Proofs.KeyStream
import ShaderBuild.Proofs.Cache.Recency
import ShaderBuild.Proofs.Cache.Stock
import ShaderBuild.Proofs.Cache.Deeds
import ShaderBuild.Proofs.Cache.Failures
import ShaderBuild.Cache.Holding
import ShaderBuild.Proofs.Cache.Handles
import ShaderBuild.Proofs.Cache.Holding
import ShaderBuild.Proofs.Cache.Ownership
import ShaderBuild.Cache.Commons
import ShaderBuild.Proofs.Cache.Inclusion
import ShaderBuild.Proofs.Directories
import ShaderBuild.Proofs.Cache.ByteOrder
import ShaderBuild.Proofs.Cache.Invalidation
import ShaderBuild.Cache.Record
import ShaderBuild.Proofs.Cache.Counters
import ShaderBuild.Files.Writers
import ShaderBuild.Proofs.Sibling
import ShaderBuild.Proofs.Writers
import ShaderBuild.Proofs.Cache.KeyTier
import ShaderBuild.Proofs.Cache.Reordering
import ShaderBuild.Shell.Trace
import ShaderBuild.Proofs.PathTraversal
import ShaderBuild.Proofs.ParentPaths
import ShaderBuild.Proofs.MakeDirectories
import ShaderBuild.Proofs.Tree
import ShaderBuild.Proofs.FileAgreement
import ShaderBuild.Proofs.Cache.Faithful
import ShaderBuild.Proofs.Shell.Compiling
import ShaderBuild.Proofs.Shell.Bypass
import ShaderBuild.Proofs.Shell.Batch
import ShaderBuild.Proofs.Shell.Opening
import ShaderBuild.Proofs.Shell.NoCache
import ShaderBuild.Proofs.UnchangedPlaces
import ShaderBuild.Proofs.Shell.Yield
import ShaderBuild.Proofs.Shell.Preparing
import ShaderBuild.Proofs.Shell.Independence
import ShaderBuild.Proofs.Shell.Watching
import ShaderBuild.Proofs.Encoding
import ShaderBuild.Cache.Uses
import ShaderBuild.Proofs.Cache.Eviction
import ShaderBuild.Cache.Client
import ShaderBuild.Proofs.Watching
import ShaderBuild.Proofs.Pipeline
import ShaderBuild.Proofs.Stripping
import ShaderBuild.Proofs.FileName
import ShaderBuild.Proofs.KeyText
import ShaderBuild.Proofs.Cache.IndependentFlights
import ShaderBuild.Proofs.Cache.Footprint
import ShaderBuild.Proofs.Cache.Forgetting
import ShaderBuild.Proofs.Cache.DiskHits
import ShaderBuild.Proofs.Settings.Version
import ShaderBuild.Proofs.Settings.Merging
import ShaderBuild.Proofs.Shell.Watching
