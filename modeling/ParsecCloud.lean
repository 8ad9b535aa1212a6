import ParsecCloud.Folder.PatternChange
import ParsecCloud.Merge.FolderMerge
import ParsecCloud.Workspace.OpenedFiles
import ParsecCloud.Certif.Poll
import ParsecCloud.Certif.ShamirTopic
import ParsecCloud.Certif.Legitimate
import ParsecCloud.Store.PathAgreement
import ParsecCloud.Store.Populate
import ParsecCloud.Transactions.ConflictCopy
import ParsecCloud.Transactions.MoveRuns
import ParsecCloud.Transactions.SelfHeal
import ParsecCloud.PlatformStorage.RemoteVersions
import ParsecCloud.PlatformStorage.Equivalence
import ParsecCloud.Blockstore.Raid5
import ParsecCloud.Server.GreetingProtocol
import ParsecCloud.Server.VlobAcceptance
import ParsecCloud.Server.IncrementalPoll
import ParsecCloud.Server.RefusedCalls
import ParsecCloud.Server.Enrollments
import ParsecCloud.Server.Invitations
import ParsecCloud.Server.Blocks
import ParsecCloud.Server.TopicLocks
import ParsecCloud.Server.RealmExportBackends
import ParsecCloud.Server.AccountRuns
import ParsecCloud.Server.RealmNeedsRuns
import ParsecCloud.Transactions.Reparenting
import ParsecCloud.Transactions.ConflictUpdater
import ParsecCloud.Store.RetrievePath
import ParsecCloud.File.ReleaseBuild
import ParsecCloud.Merge.CountedNames
import ParsecCloud.Merge.MergeReturns
import ParsecCloud.Workspace.UploadRuns
import ParsecCloud.Addr.AnyText
import ParsecCloud.Folder.RemoteView
import ParsecCloud.Certif.KeysBundleChecks
import ParsecCloud.Certif.SequesterTopic
import ParsecCloud.Server.RecoveryReveal
import ParsecCloud.Server.BlocksExportEnds
import ParsecCloud.Server.PollChanges
import ParsecCloud.Server.PastReads
import ParsecCloud.PlatformStorage.BlockCache
import ParsecCloud.Certif.ShamirViewsAgree
import ParsecCloud.Types.HumanHandle
import ParsecCloud.Store.LockedEntries
import ParsecCloud.Server.StatsRuns
import ParsecCloud.Transactions.OutboundRuns
import ParsecCloud.Server.Governance
import ParsecCloud.Mountpoint.Inodes
