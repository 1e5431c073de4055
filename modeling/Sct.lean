import Sct.Lib.Cidr
import Sct.Lib.Dict
import Sct.Lib.DictOrder
import Sct.Lib.Effect
import Sct.Lib.Fallible
import Sct.Lib.Fields
import Sct.Lib.Groovy
import Sct.Lib.Insertion
import Sct.Lib.Issued
import Sct.Lib.PyExpr
import Sct.Lib.Reorder
import Sct.Lib.RoundRobin
import Sct.Lib.Scan
import Sct.Lib.Search
import Sct.Lib.Table
import Sct.Lib.Trace
import Sct.Lib.Words
import Sct.Provision.Placement
import Sct.Provision.Common.RegionFallback
import Sct.Provision.Common.RegionRuns
import Sct.Provision.Common.DcRuns
import Sct.Provision.Gce.VmProvider
import Sct.Provision.Gce.World
import Sct.Provision.Gce.ZoneResolver
import Sct.Provision.Gce.RegionFallback
import Sct.Provision.Aws.AzResolver
import Sct.Provision.Aws.Cluster
import Sct.Provision.Aws.Provisioner
import Sct.Provision.Aws.World
import Sct.Provision.Aws.RegionFallback
import Sct.Provision.Aws.Layout
import Sct.Provision.Aws.DbLayout
import Sct.Cluster.AwsNodes
import Sct.Cleanup.World
import Sct.Cleanup.Azure
import Sct.Cleanup.Cleaners
import Sct.Cleanup.Resources
import Sct.Config.Environment
import Sct.Config.Merge
import Sct.Events.Argus
import Sct.Events.EventsDevice
import Sct.Events.Severities
import Sct.Cluster.WaitForInit
import Sct.Cluster.NodeHealth
import Sct.Cluster.Group0
import Sct.Log.DbLogReader
import Sct.Nemesis.Decommission
import Sct.Nemesis.NodeAllocator
import Sct.Nemesis.Registry
import Sct.Nemesis.Runner
import Sct.Trigger.Matrix
import Sct.Trigger.Resolution
import Sct.Trigger.Triggering
import Sct.Trigger.Groovy
import Sct.Utils.CidrPool
import Sct.Utils.InstanceMatcher
import Sct.Utils.VersionUtils
import Sct.Verif.GceRegion
import Sct.Verif.GceDcFallback
import Sct.Verif.GceSweep
import Sct.Verif.GceVmProvider
import Sct.Verif.AwsAzResolver
import Sct.Verif.AwsSwitch
import Sct.Verif.AwsRegion
import Sct.Verif.AwsImages
import Sct.Verif.AwsImageRuns
import Sct.Verif.AwsCluster
import Sct.Verif.AwsDcMove
import Sct.Verif.AwsDcFallback
import Sct.Verif.AwsNodes
import Sct.Verif.AwsRacks
import Sct.Verif.AwsAdoption
import Sct.Verif.AwsProvisioner
import Sct.Verif.CidrPool
import Sct.Verif.CleanupAzure
import Sct.Verif.CleanupDryRun
import Sct.Verif.CleanupBehavior
import Sct.Verif.ConfigAppend
import Sct.Verif.ConfigMerge
import Sct.Verif.DbLogReader
import Sct.Verif.Environment
import Sct.Verif.EventsDevice
import Sct.Verif.InstanceMatcher
import Sct.Verif.NodeAllocator
import Sct.Verif.NemesisRunner
import Sct.Verif.ScyllaTag
import Sct.Verif.Selector
import Sct.Verif.WaitForInit
import Sct.Verif.TriggerMatrix
import Sct.Verif.TriggerRegion
import Sct.Verif.TriggerVersion
import Sct.Verif.TriggerGroovy
import Sct.Provision.Gce.Provisioner
import Sct.Provision.Instances
import Sct.Verif.GceVmOutcomes
import Sct.Verif.GceCreation
import Sct.Verif.InstanceOrder
import Sct.Verif.GceProvisioner
import Sct.Cluster.AwsInstances
import Sct.Verif.AwsInstances
import Sct.Utils.LoaderUtils
import Sct.Verif.LoaderUtils
import Sct.Verif.TriggerLine
import Sct.Utils.GceLabel
import Sct.Verif.GceLabel
import Sct.Trigger.Images
import Sct.Verif.TriggerBuild
import Sct.Provision.Aws.DedicatedHost
import Sct.Provision.Azure.Names
import Sct.Verif.DedicatedHost
import Sct.Verif.AzureNames
import Sct.Verif.MarkedNodes
import Sct.Verif.Argus
import Sct.Verif.Decommission
import Sct.Verif.NodeHealth
import Sct.Verif.Group0
import Sct.Trigger.CrossArch
import Sct.Verif.CrossArch
import Sct.Utils.AutoRepair
import Sct.Utils.BisectTest
import Sct.Utils.ClusterTools
import Sct.Utils.ReplicationStrategy
import Sct.Verif.AutoRepair
import Sct.Verif.BisectTest
import Sct.Verif.ClusterTools
import Sct.Verif.ReplicationStrategy
import Sct.Utils.HdrHistogram
import Sct.Verif.HdrHistogram
import Sct.Utils.Decorators
import Sct.Verif.Decorators
import Sct.Utils.LogTimeConsistency
import Sct.Verif.LogTimeConsistency
import Sct.Nemesis.Hierarchy
import Sct.Verif.Hierarchy
