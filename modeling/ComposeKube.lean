import ComposeKube.Lib.Data
import ComposeKube.Lib.Related
import ComposeKube.Lib.Fallible
import ComposeKube.Lib.Keyed
import ComposeKube.Lib.Store
import ComposeKube.Lib.Reconcile
import ComposeKube.Lib.Strings
import ComposeKube.Lib.Regex
import ComposeKube.Lib.Transition
import ComposeKube.Lib.UniqueQueue
import ComposeKube.Lib.History
import ComposeKube.Lib.Versioned
import ComposeKube.Lib.Interleaving
import ComposeKube.Lib.Polling
import ComposeKube.Lib.Replica
import ComposeKube.Lib.Client
import ComposeKube.Lib.Collection
import ComposeKube.Api.Kube
import ComposeKube.Api.Compose
import ComposeKube.Api.Semantic
import ComposeKube.Convert.Runtime
import ComposeKube.Convert.Labels
import ComposeKube.Convert.Placement
import ComposeKube.Convert.Volumes
import ComposeKube.Convert.Mounts
import ComposeKube.Convert.Pod
import ComposeKube.StackResources.State
import ComposeKube.Convert.Service
import ComposeKube.Convert.Workload
import ComposeKube.Convert.Stack
import ComposeKube.Convert.Ports
import ComposeKube.Convert.Children
import ComposeKube.Convert.Numbers
import ComposeKube.StackResources.Diff
import ComposeKube.StackResources.Equality
import ComposeKube.Convert.Order
import ComposeKube.Convert.Inherit
import ComposeKube.Convert.Sidecars
import ComposeKube.Convert.NodeTerm
import ComposeKube.Convert.HostAliases
import ComposeKube.Controller.Apply
import ComposeKube.Controller.Soundness
import ComposeKube.Controller.Convergence
import ComposeKube.Controller.History
import ComposeKube.Controller.Belonging
import ComposeKube.Controller.ChildrenStore
import ComposeKube.Controller.Requests
import ComposeKube.Controller.Addresses
import ComposeKube.Controller.Isolation
import ComposeKube.Registry.Conversions
import ComposeKube.Registry.Validate
import ComposeKube.Registry.Names
import ComposeKube.Registry.VolumeNames
import ComposeKube.Registry.ObjectNames
import ComposeKube.Registry.Collisions
import ComposeKube.Registry.DryRun
import ComposeKube.Registry.Strategy
import ComposeKube.Registry.Subresources
import ComposeKube.Registry.RoundTrip
import ComposeKube.Registry.ComposeFile
import ComposeKube.Registry.Constraints
import ComposeKube.Registry.ComposeConfig
import ComposeKube.Registry.NodeSelection
import ComposeKube.Registry.Preparation
import ComposeKube.Registry.Scale
import ComposeKube.Registry.LogStream
import ComposeKube.Registry.LogReader
import ComposeKube.Registry.Signaler
import ComposeKube.Controller.StatusWrite
import ComposeKube.Controller.Status
import ComposeKube.Controller.Dirty
import ComposeKube.Controller.Generation
import ComposeKube.Controller.OwnerCache
import ComposeKube.Controller.Deletion
import ComposeKube.Controller.Identity
import ComposeKube.Dedup.StringChan
import ComposeKube.Controller.Loop
import ComposeKube.Controller.Wakeups
import ComposeKube.Controller.Quiescence
import ComposeKube.Controller.Retries
import ComposeKube.ApiServer.Registration
import ComposeKube.ApiServer.Reregistration
import ComposeKube.Install.Uninstall
import ComposeKube.Install.Cluster
import ComposeKube.Install.Removal
import ComposeKube.Install.Installer
import ComposeKube.Install.Footprint
import ComposeKube.Install.Update
import ComposeKube.Install.NoLoss
import ComposeKube.Install.Restored
import ComposeKube.Install.Abort
import ComposeKube.Install.Ownership
import ComposeKube.Install.Idempotence
import ComposeKube.Registry.FollowLogs
