import NetworkMonitor.Network.Types
import NetworkMonitor.Network.Operations
import NetworkMonitor.Network.Reachable
import NetworkMonitor.Network.EdgeIndex
import NetworkMonitor.Network.Lines
import NetworkMonitor.Network.TravelTimes
import NetworkMonitor.Network.RouteTravelTime
import NetworkMonitor.Network.Passengers
import NetworkMonitor.Network.Serving
import NetworkMonitor.Network.Json
import NetworkMonitor.Network.FromJson
import NetworkMonitor.Network.Catalogue
import NetworkMonitor.Timer.Measurements
import NetworkMonitor.Timer.Program
import NetworkMonitor.Timer.Report
import NetworkMonitor.Timer.Log
import NetworkMonitor.Path.Search
import NetworkMonitor.Path.Walk
import NetworkMonitor.Path.Invariant
import NetworkMonitor.Path.Termination
import NetworkMonitor.Path.Fastest
import NetworkMonitor.Path.Deterministic
import NetworkMonitor.Path.OnRoute
import NetworkMonitor.Path.Compose
