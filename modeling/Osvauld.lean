import Osvauld.CryptoUtils.AesUtils
import Osvauld.CryptoUtils.DidComparison
import Osvauld.CryptoUtils.ProofWalk
import Osvauld.Libremot.ChatIsolation
import Osvauld.Libremot.ChatSaves
import Osvauld.Libremot.DeletedMessages
import Osvauld.Libremot.MalformedMessages
import Osvauld.Libremot.ReadReceipts
import Osvauld.Livnote.CommentsStore
import Osvauld.Livnote.ConnectionSets
import Osvauld.Livnote.EditorIsolation
import Osvauld.Livnote.EditorSaves
import Osvauld.Livnote.ImageStorage
import Osvauld.Livnote.LiveEditExchange
import Osvauld.Livnote.LiveSessionGap
import Osvauld.Livnote.MathNumbering
import Osvauld.Livnote.NoteOwnership
import Osvauld.Livnote.PastedSlices
import Osvauld.Livnote.PreviewBalance
import Osvauld.Livnote.PreviewImages
import Osvauld.Livnote.SearchFreshness
import Osvauld.Livnote.TableCommands
import Osvauld.Livnote.UpdateContainment
import Osvauld.Network.P2P.BrokenStreams
import Osvauld.Network.P2P.ConnectionAttempts
import Osvauld.Network.P2P.ConnectionCleanup
import Osvauld.Network.P2P.Disclosure
import Osvauld.Network.P2P.EstablishedContacts
import Osvauld.Network.P2P.FailedConnects
import Osvauld.Network.P2P.FiledRecords
import Osvauld.Network.P2P.HandshakeGate
import Osvauld.Network.P2P.IdentityBinding
import Osvauld.Network.P2P.MergeFrame
import Osvauld.Network.P2P.OneTimeTokens
import Osvauld.Network.P2P.OwnDevices
import Osvauld.Network.P2P.SyncCompletion
import Osvauld.PasswordManager.ImportedSecrets
import Osvauld.Persistance.ImportOrders
import Osvauld.Persistance.NameClashes
import Osvauld.SearchIndexer.CrashConsistency
import Osvauld.Services.ClockGossip
import Osvauld.Services.ClockWrites
import Osvauld.Services.DefaultFolder
import Osvauld.Services.DelegatedGrants
import Osvauld.Services.FolderSharing
import Osvauld.Services.FoundChains
import Osvauld.Services.KeyExchange
import Osvauld.Services.ManifestSymmetry
import Osvauld.Services.MergedPlaintext
import Osvauld.Services.StartUpListing
import Osvauld.Services.UpdateExchange
import Osvauld.Services.UsableShares
import Osvauld.TypescriptPort.AccountLifeCycle
import Osvauld.TypescriptPort.Collaboration
import Osvauld.TypescriptPort.DocumentWrites
import Osvauld.TypescriptPort.FolderMoves
import Osvauld.TypescriptPort.FolderOwnership
import Osvauld.TypescriptPort.IndexConsistency
import Osvauld.TypescriptPort.SearchIsolation
import Osvauld.TypescriptPort.ShareLinks
import Osvauld.TypescriptPort.SharedAccess
