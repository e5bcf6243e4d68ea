import Claudie.Lib.GoMap
import Claudie.Lib.Outcome
import Claudie.Spec.Basic
import Claudie.Spec.Task
import Claudie.Spec.Utils
import Claudie.Spec.Consume
import Claudie.NodePools
import Claudie.Manager.Diff
import Claudie.Manager.HealthCheck
import Claudie.Manager.Schedule.Cluster
import Claudie.Manager.GenerateState
import Claudie.Manager.Schedule.Kubernetes
import Claudie.Manager.Schedule.LoadBalancers
import Claudie.Manager.Schedule.Unreachable
import Claudie.Manager.ClustersUnion
import Claudie.Manager.Reconcile
import Claudie.Manager.ProcessTask
import Claudie.Manager.Watchers
import Claudie.Manager.Handlers
import Claudie.Lib.Transition
import Claudie.Lib.List
import Claudie.Lib.Versioned
import Claudie.Manager.System
import Claudie.Manager.Lemmas.Transition
import Claudie.Manager.Lemmas.Reconcile
import Claudie.Manager.Lemmas.ProcessTask
import Claudie.Manager.Lemmas.Documents
import Claudie.Manager.Lemmas.Coherence
import Claudie.Manager.Lemmas.Reconcile
import Claudie.Lib.Versioned
import Claudie.Manager.Lemmas.Coherence
import Claudie.Manager.Lifecycle
import Claudie.Manager.Lemmas.Schedule
import Claudie.Lib.Progress
import Claudie.Manager.Lemmas.Entries
import Claudie.Manager.Lemmas.Chains
import Claudie.Manager.Deliveries
import Claudie.Manager.Lemmas.Messages
import Claudie.Manager.Lemmas.Consume
import Claudie.Manager.InFlight
import Claudie.Manager.Priorities
import Claudie.Manager.Publishing
import Claudie.Manager.UnknownNodes
import Claudie.Manager.Lemmas.Diff
import Claudie.Manager.Union
import Claudie.Manager.Lemmas.Idle
import Claudie.Manager.Lemmas.Agreement
import Claudie.Manager.Lemmas.GenerateState
import Claudie.Manager.Completeness
import Claudie.Manager.EndpointLoadBalancer
import Claudie.Manager.EndpointNode
import Claudie.Kuber.DeleteNodes
import Claudie.Manager.ControlPlane
import Claudie.Ansibler.MoveApiEndpoint
import Claudie.Manager.EndpointChange
import Claudie.Terraformer.Build
import Claudie.Terraformer.Update
import Claudie.Ansibler.Nodes
import Claudie.Manager.DeletedNodes
import Claudie.Terraformer.Destroy
import Claudie.Manager.Destruction
import Claudie.Terraformer.DnsRecords
import Claudie.Manager.Execution
import Claudie.Manager.Longhorn
import Claudie.Ansibler.InstallVPN
import Claudie.Ansibler.PrivateAddresses
import Claudie.Ansibler.ReconcileLoadBalancers
import Claudie.Manager.Lemmas.Execution
import Claudie.Manager.TargetPools
import Claudie.Manager.StaticEndpoints
import Claudie.Ansibler.Proxy
import Claudie.Manager.Differences
import Claudie.Manager.ProxyChanges
import Claudie.Kuber.PatchNodes
import Claudie.Manager.NodePatches
import Claudie.Kuber.Patch
import Claudie.Manifest.Labels
import Claudie.Lemmas.Metadata
import Claudie.Kuber.Labels
import Claudie.Lib.Matching
import Claudie.Manager.ExistingState
import Claudie.Manager.Lemmas.ExistingState
import Claudie.Manager.ScaleDown
import Claudie.Manifest.Basic
import Claudie.Manifest.Validate
import Claudie.Manager.DesiredState
import Claudie.Lemmas.Names
import Claudie.Manager.Lemmas.References
import Claudie.Manager.NodePoolNames
import Claudie.Manager.Lemmas.DesiredState
import Claudie.Manager.Lemmas.Passes
import Claudie.Manager.Surplus
import Claudie.Manager.MarkedNodes
import Claudie.Ansibler.AddressSpace
import Claudie.Manifest.Accepted
import Claudie.Manifest.ApiServer
import Claudie.Lib.Overwrite
import Claudie.Manager.CommittedUpdates
import Claudie.Manager.Credentials
import Claudie.Manager.Subnets
import Claudie.Manager.StaticNodeNames
import Claudie.Manager.Lemmas.Carried
import Claudie.Manager.ClustersComplete
import Claudie.Manager.SurplusReported
import Claudie.Copies
import Claudie.Manager.UniqueNodeNames
import Claudie.Lib.Protobuf
import Claudie.Lib.Rfc3339
import Claudie.Store.Api
import Claudie.Store.ConvertDbGrpc
import Claudie.Store.RoundTrip
import Claudie.Lib.Rounds
import Claudie.Manager.Lemmas.RoleSettings
import Claudie.Manager.RoleRefresh
import Claudie.Manager.Commits
import Claudie.Operator.Controller
import Claudie.Operator.Finalizers
import Claudie.Kuber.Deleter
