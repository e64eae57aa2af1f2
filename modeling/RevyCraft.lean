import RevyCraft.Bytes
import RevyCraft.StoredDeflate
import RevyCraft.TransferWire
import RevyCraft.ProcessJournal
import RevyCraft.Act
import RevyCraft.Sequence
import RevyCraft.RakNetWire
import RevyCraft.OrderedMap
import RevyCraft.RakNetPeer
import RevyCraft.RakNetTransfer
import RevyCraft.RakNetAccounts
import RevyCraft.RakNetRestore
import RevyCraft.RakNetSending
import RevyCraft.RakNetDelivery
import RevyCraft.RakNetSchedule
import RevyCraft.RakNetRouter
import RevyCraft.Semantic
import RevyCraft.SemanticRules
import RevyCraft.Program
import RevyCraft.CoreState
import RevyCraft.StateBackend
import RevyCraft.StateAccess
import RevyCraft.CoreOps
import RevyCraft.InventoryRules
import RevyCraft.Containers
import RevyCraft.Mutation
import RevyCraft.Canonical
import RevyCraft.Frames
import RevyCraft.Footprints
import RevyCraft.Transaction
import RevyCraft.Overlay
import RevyCraft.TransactionView
import RevyCraft.Command
import RevyCraft.Version
import RevyCraft.CanonicalContent
import RevyCraft.Cbor
import RevyCraft.Replay
import RevyCraft.GameplaySteps
import RevyCraft.EntityInvariant
import RevyCraft.PluginFailures
import RevyCraft.ProtocolRegistry
import RevyCraft.Stacks
import RevyCraft.BaseRuns
import RevyCraft.WindowRuns
import RevyCraft.ItemTotals
import RevyCraft.ReturnedItems
import RevyCraft.WindowFrames
import RevyCraft.FurnaceTicks
import RevyCraft.WorldContainers
import RevyCraft.ContainerViewers
import RevyCraft.FurnaceViewers
import RevyCraft.CoreStore
import RevyCraft.JavaDecoding
import RevyCraft.PluginCalls
import RevyCraft.BedrockBatches
import RevyCraft.Tasks
import RevyCraft.DataPlane
import RevyCraft.TransportWriter
import RevyCraft.Readers
import RevyCraft.Streams
import RevyCraft.StreamCipher
import RevyCraft.WireFraming
import RevyCraft.SlotNbt
import RevyCraft.Dispatching
import RevyCraft.DispatchOrder
import RevyCraft.Nbt
import RevyCraft.LegacyTables
import RevyCraft.SlotCodec
import RevyCraft.PackedBits
import RevyCraft.LegacyAnvil
import RevyCraft.ChunkSections
import RevyCraft.ChunkLayouts
import RevyCraft.BedrockSubchunk
import RevyCraft.OnlinePlayers
import RevyCraft.Steps
import RevyCraft.SessionLife
import RevyCraft.SessionEnds
import RevyCraft.SessionCutover
import RevyCraft.CutoverRuns
import RevyCraft.CutoverMoves
import RevyCraft.CutoverOutcome
import RevyCraft.CutoverProgress
import RevyCraft.UpgradeSaves
import RevyCraft.JournaledStore
import RevyCraft.UpgradeCore
import RevyCraft.UpgradeConnections
import RevyCraft.Generations
import RevyCraft.PluginHandles
import RevyCraft.PluginOwners
import RevyCraft.PluginMetadata
import RevyCraft.WindowClicks
import RevyCraft.StackRequests
import RevyCraft.ClickTotals
import RevyCraft.Arrangements
import RevyCraft.CraftingGrid
import RevyCraft.OutputExchange
import RevyCraft.FurnaceAccounts
import RevyCraft.PaletteIndices
import RevyCraft.Ranges
import RevyCraft.TransferResources
import RevyCraft.RakNetEmissions
import RevyCraft.TransferArena
import RevyCraft.ModernChunks
import RevyCraft.ChunkBiomes
import RevyCraft.SequenceRuns
import RevyCraft.InventoryMerge
import RevyCraft.LoginAdmission
import RevyCraft.PluginReload
import RevyCraft.ArtifactReloads
import RevyCraft.BrokenCandidates
import RevyCraft.QuarantinedAdapters
import RevyCraft.RegionFile
