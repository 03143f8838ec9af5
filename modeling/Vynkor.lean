import Vynkor.Proofs.PeerDelivery
import Vynkor.Proofs.ActionGate
import Vynkor.Proofs.UserIsolation
import Vynkor.Proofs.CallerStamp
import Vynkor.Proofs.RawFrames
import Vynkor.Proofs.SessionConnections
import Vynkor.Proofs.CallerQuota
import Vynkor.Proofs.TaggedFrames
import Vynkor.Proofs.ActionIndex
import Vynkor.Proofs.ReassemblyOverflow
import Vynkor.Proofs.StopIsFinal
import Vynkor.Proofs.SingleInstance
import Vynkor.Proofs.ManualRestart
import Vynkor.Proofs.LoadOrder
import Vynkor.Proofs.DeadEntries
import Vynkor.Proofs.RestartChains
import Vynkor.Proofs.ReapedSignals
import Vynkor.Proofs.QuietShutdown
import Vynkor.Proofs.ShutdownNotices
import Vynkor.Proofs.AnsweredPings
import Vynkor.Proofs.FailedPairing
import Vynkor.Proofs.DeviceHistory
import Vynkor.Proofs.DeviceRace
import Vynkor.Proofs.AdminGate
import Vynkor.Proofs.EventNames
import Vynkor.Proofs.EventIds
import Vynkor.Proofs.DeclaredEvents
import Vynkor.Proofs.StaleSubscriptions
import Vynkor.Proofs.PruneTick
import Vynkor.Proofs.MuxTargets
import Vynkor.Proofs.WebSocketSlots
import Vynkor.Proofs.ConnIds
import Vynkor.Proofs.ErrorChains
import Vynkor.Proofs.EventFanOut
import Vynkor.Proofs.DevicePresence
import Vynkor.Proofs.BudgetIsolation
import Vynkor.Proofs.RetryCount
import Vynkor.Proofs.SpawnFailures
import Vynkor.Proofs.PluginPlaces
import Vynkor.Proofs.ShimEnvironment
import Vynkor.Proofs.ShimSignals
import Vynkor.Proofs.PermissionTexts
import Vynkor.Proofs.Timestamps
import Vynkor.Proofs.StartupNumbers
