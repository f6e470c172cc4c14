import HeliumSync.Keyed
import HeliumSync.ThreeWay
import HeliumSync.Additions
import HeliumSync.Absorption
import HeliumSync.LostUpdate
import HeliumSync.Reference
import HeliumSync.SoloSync
import HeliumSync.Convergence
import HeliumSync.Quiescence
import HeliumSync.Symmetry
import HeliumSync.SiblingOrder
import HeliumSync.GlobalIds
import HeliumSync.Store
import HeliumSync.Log
import HeliumSync.Feed
import HeliumSync.Framing
import HeliumSync.Sealing
import HeliumSync.Devices
import HeliumSync.Ancestry
import HeliumSync.Writers
import HeliumSync.ExactDiscovery
import HeliumSync.ExtensionRetry
import HeliumSync.Codec
import HeliumSync.Nesting
import HeliumSync.Revocation
import HeliumSync.FailedSync
import HeliumSync.BookmarksSwap
import HeliumSync.Confinement
import HeliumSync.ExtensionSwap
import HeliumSync.ExtensionFrame
import HeliumSync.Contexts
import HeliumSync.RecoveryCode
import HeliumSync.Recycling
import HeliumSync.Online
import HeliumSync.SignIn
