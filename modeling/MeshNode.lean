import MeshNode.Main
import MeshNode.Rehearsal.Overlay
import MeshNode.Rehearsal.Reconciliation
import MeshNode.Rehearsal.Running
import MeshNode.Rehearsal.Service
import MeshNode.Rehearsal.Tunnels
import MeshNode.Proofs.Tables
import MeshNode.Proofs.Changes
import MeshNode.Proofs.Settlement
import MeshNode.Proofs.Plans
import MeshNode.Proofs.Prefixes
import MeshNode.Proofs.Listings
import MeshNode.Proofs.Runs
import MeshNode.Proofs.TunnelAgreement
import MeshNode.Proofs.Requests
import MeshNode.Proofs.Convergence
import MeshNode.Proofs.ShortCut
import MeshNode.Proofs.RouteTracking
import MeshNode.Proofs.Ownership
import MeshNode.Proofs.MinimalChange
import MeshNode.Proofs.RouteRecovery
import MeshNode.Proofs.CryptokeyTables
import MeshNode.Proofs.LongestPrefixes
import MeshNode.Proofs.UserspacePasses
import MeshNode.Proofs.Pings
import MeshNode.Proofs.CryptokeyAgreement
import MeshNode.Proofs.CacheAgreement
import MeshNode.Proofs.MutualPaths
import MeshNode.Proofs.HistoryIndependence
import MeshNode.Proofs.FailedFetches
import MeshNode.Proofs.ConvergingPeers
import MeshNode.Proofs.Numerals
import MeshNode.Proofs.AddressTexts
import MeshNode.Proofs.IdentityTexts
import MeshNode.Proofs.PeerWire
import MeshNode.Proofs.Calls
import MeshNode.Proofs.FailureContainment
import MeshNode.Proofs.SessionRenewal
import MeshNode.Proofs.AddressWatch
import MeshNode.Proofs.RelayVerdict
import MeshNode.Proofs.RelayOnly
import MeshNode.Proofs.RelayedPrefixes
import MeshNode.Proofs.NextHops
import MeshNode.Proofs.AggregatedPrefixes
import MeshNode.Proofs.AdoptedRoutes
import MeshNode.Proofs.CacheInterleavings
import MeshNode.Proofs.StunResponses
import MeshNode.Proofs.ByteReadings
import MeshNode.Proofs.PathRules
import MeshNode.Proofs.ResponseReading
import MeshNode.Proofs.NoisyRequests
import MeshNode.Proofs.DiscoveryAttempts
import MeshNode.Proofs.Checksums
import MeshNode.Proofs.EchoPackets
import MeshNode.Proofs.ProbeCycles
import MeshNode.Proofs.FanOut
import MeshNode.Proofs.EchoReadings
import MeshNode.Proofs.DatagramDelivery
import MeshNode.Proofs.KeyTexts
import MeshNode.Proofs.SettingsRules
import MeshNode.Proofs.SettingsPrecedence
import MeshNode.Proofs.DeviceIdentity
import MeshNode.Proofs.KernelRefinement
import MeshNode.Proofs.ProbePasses
import MeshNode.Proofs.DistinctPrefixes
import MeshNode.Proofs.ListingDifferences
import MeshNode.Proofs.SystemEchoes
