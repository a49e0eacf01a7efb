import Nyx.Foundations.StepMachines
import Nyx.Foundations.RingSweeps
import Nyx.Foundations.Blocks
import Nyx.Foundations.OrderedMaps
import Nyx.Foundations.ByteStreams
import Nyx.Foundations.CutStreams
import Nyx.Foundations.Leftovers
import Nyx.Foundations.MagicNumbers
import Nyx.Foundations.CountedLists
import Nyx.Foundations.Multimaps
import Nyx.Foundations.NodeOwners
import Nyx.Foundations.Tilings
import Nyx.Foundations.RangeWrites
import Nyx.Foundations.GrowingVectors
import Nyx.Foundations.RunningTotals
import Nyx.Foundations.RoundedIntegers
import Nyx.Foundations.HandleSlots
import Nyx.Foundations.FilledTables
import Nyx.Foundations.Ledgers
import Nyx.Foundations.MatchedNames
import Nyx.Foundations.ReusedBlocks
import Nyx.Foundations.SharedMaps
import Nyx.Vulkan.Commands
import Nyx.Vulkan.Formats
import Nyx.Events.EventManagers
import Nyx.Events.EventDelivery
import Nyx.Events.EventOwnership
import Nyx.Events.MouseMotion
import Nyx.Events.CallbackRegistry
import Nyx.Loaders.NyxFiles
import Nyx.Loaders.ShaderDecoding
import Nyx.Loaders.Reloading
import Nyx.Loaders.NggFiles
import Nyx.Loaders.MeshDecoding
import Nyx.Loaders.MeshAccess
import Nyx.Loaders.NssFiles
import Nyx.Loaders.SkeletonDecoding
import Nyx.Loaders.BoneLinks
import Nyx.Loaders.NttFiles
import Nyx.Loaders.FontDecoding
import Nyx.Loaders.NgtFiles
import Nyx.Loaders.CompleteFiles
import Nyx.Loaders.ImageBytes
import Nyx.Loaders.MeshBuffers
import Nyx.Memory.Memories
import Nyx.Memory.Buffers
import Nyx.Memory.Images
import Nyx.Memory.HandleLives
import Nyx.Memory.Arrays
import Nyx.Memory.Suballocations
import Nyx.Memory.Bindings
import Nyx.Memory.ResizedImages
import Nyx.Memory.ArrayBounds
import Nyx.Memory.SyncedCopies
import Nyx.Memory.RepeatedOffsets
import Nyx.Memory.CudaCopies
import Nyx.Memory.ImageTransfers
import Nyx.Shaders.NyxShaders
import Nyx.Shaders.Descriptors
import Nyx.Shaders.DescriptorTables
import Nyx.Shaders.VertexLayouts
import Nyx.Shaders.LayoutBindings
import Nyx.Shaders.StageFlags
import Nyx.Shaders.PoolRoom
import Nyx.Shaders.ShaderModules
import Nyx.Shaders.ShaderLives
import Nyx.Shaders.BlendAttachments
import Nyx.Shaders.AttributeSlots
import Nyx.Shaders.DescriptorSets
import Nyx.Shaders.Renderers
import Nyx.Devices.Devices
import Nyx.Devices.DeviceCreation
import Nyx.Devices.QueueGetters
import Nyx.Devices.Library
import Nyx.Devices.Bootstrap
import Nyx.Devices.Windows
import Nyx.Presentation.Swapchains
import Nyx.Presentation.RenderPasses
import Nyx.Recording.CommandBuffers
import Nyx.Recording.Fences
import Nyx.Recording.StagingPools
import Nyx.Recording.Chains
import Nyx.Recording.Moves
import Nyx.Recording.Broadcasts
import Nyx.Recording.RecordingDiscipline
import Nyx.Recording.CommandLists
import Nyx.Recording.SequentialChains
import Nyx.Recording.SubmittedLists
import Nyx.Recording.Scripts
import Nyx.Recording.ImageBarriers
import Nyx.Recording.Pages
import Nyx.Recording.RenderPassScopes
import Nyx.Recording.Subpasses
import Nyx.Recording.TurnedRings
import Nyx.Recording.ChainLives
import Nyx.Recording.SlotSteps
import Nyx.Recording.ChainFamilies
import Nyx.Recording.BuffersInUse
import Nyx.Recording.ChildRounds
import Nyx.Recording.CombinedChildren
import Nyx.Recording.ExplicitEnd
import Nyx.Recording.PushConstants
import Nyx.Recording.Draws
import Nyx.Recording.CommandPools
import Nyx.Transfers.ReadyPools
import Nyx.Transfers.StagingDevices
import Nyx.Transfers.Uploads
import Nyx.Transfers.CopyRegions
import Nyx.Transfers.LosslessRuns
import Nyx.Transfers.Downloads
import Nyx.Transfers.Models
import Nyx.Transfers.DrawnModels
import Nyx.Presentation.Framebuffers
import Nyx.Presentation.FrameSteps
import Nyx.Presentation.PresentSemaphores
import Nyx.Presentation.FrameBounds
import Nyx.Presentation.Recreation
import Nyx.Presentation.PresentedImages
import Nyx.Presentation.SubpassReferences
import Nyx.Presentation.SubpassDependencies
import Nyx.Presentation.ImageTables
import Nyx.Presentation.ClearValues
import Nyx.Presentation.SwapchainCreation
import Nyx.Presentation.ImagePlaces
import Nyx.Presentation.PassLives
