import VllmEngine.Hashing.TextHashes
import VllmEngine.Hashing.Isolation
import VllmEngine.SpecDecode.DraftPool
import VllmEngine.KVCache.PoolIndex
import VllmEngine.KVCache.HybridHit
import VllmEngine.KVCache.RefExact
import VllmEngine.Sample.ProcessorsFollow
import VllmEngine.Sample.BudgetExact
import VllmEngine.SpecDecode.Lossless
import VllmEngine.Encoder.EncoderAccounting
import VllmEngine.Offload.StoreInPlace
import VllmEngine.Sched.Fences
import VllmEngine.Output.ThinkingStream
import VllmEngine.Output.EngineChunks
import VllmEngine.P2P.ServerCalls
import VllmEngine.Output.TextDeltas
import VllmEngine.Multimodal.ShmStorage
import VllmEngine.Multimodal.MirroredCaches
import VllmEngine.Structured.Advance
import VllmEngine.Sched.MambaChunks
import VllmEngine.Sched.RunningVisits
import VllmEngine.KVCache.FailedSlots
import VllmEngine.Sched.InvalidBlocks
import VllmEngine.KVCache.QueueRefinement
import VllmEngine.SpecDecode.NgramProposer
