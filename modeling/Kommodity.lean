import Kommodity.GoValues
import Kommodity.GoNet
import Kommodity.Transition
import Kommodity.VersionedStore
import Kommodity.SecretStorage
import Kommodity.KmsClientAddress
import Kommodity.KmsServer
import Kommodity.KmsKeySets
import Kommodity.KmsRun
import Kommodity.KmsDurability
import Kommodity.KmsBinding
import Kommodity.KmsFirstSeal
import Kommodity.Config
import Kommodity.ServerAuth
import Kommodity.ServerAccess
import Kommodity.AttestationReport
import Kommodity.AttestationNonces
import Kommodity.ConfigMapStorage
import Kommodity.Machines
import Kommodity.AttestationHandlers
import Kommodity.AttestationStorage
import Kommodity.ReportStorage
import Kommodity.NonceRuns
import Kommodity.TokenBucket
import Kommodity.NonceIssuance
import Kommodity.MetadataGate
import Kommodity.GoPath
import Kommodity.NamespacedStore
import Kommodity.NamespaceIsolation
import Kommodity.GoCidr
import Kommodity.CidrRegistry
import Kommodity.Interaction
import Kommodity.SigningKeys
import Kommodity.SigningKeyBootstrap
import Kommodity.TokenRotation
import Kommodity.SigningKeyAgreement
import Kommodity.GoTime
import Kommodity.AzureARM
import Kommodity.ARMTrace
import Kommodity.ARMCluster
import Kommodity.ARMAuthority
import Kommodity.ARMReady
import Kommodity.ARMRefusals
import Kommodity.ARMTeardown
import Kommodity.GoHeap
import Kommodity.TunnelPool
import Kommodity.ProxySystem
import Kommodity.ProxyInvariants
import Kommodity.IdleTimers
import Kommodity.IdleClose
import Kommodity.IdleTimeout
import Kommodity.TunnelConns
import Kommodity.TunnelCounts
import Kommodity.DialTunnel
import Kommodity.TunnelRemoval
import Kommodity.ProxyReconciler
import Kommodity.FairTurns
import Kommodity.RoutingConvergence
import Kommodity.GoStream
import Kommodity.ConnectTunnel
import Kommodity.CredentialMaterializer
import Kommodity.CredentialOwnership
import Kommodity.CredentialWatch
import Kommodity.StoreCalls
import Kommodity.WriteOnce
import Kommodity.WebhookCert
import Kommodity.LibkapiKeys
import Kommodity.LibkapiKeySync
import Kommodity.LibkapiServer
import Kommodity.LibkapiHooks
import Kommodity.GoFiles
import Kommodity.LibkapiWebhookCert
import Kommodity.Autoscaler
import Kommodity.AutoscalerRotation
import Kommodity.GoNetText
import Kommodity.GoText
import Kommodity.GoUuid
import Kommodity.AttestationVerdicts
import Kommodity.MachineResolution
import Kommodity.KmsForwardedFor
import Kommodity.KmsNodeIds
import Kommodity.ConnectResponse
import Kommodity.ProxyEnv
import Kommodity.ARMThrottling
import Kommodity.ProviderCRDs
import Kommodity.LibkapiAuth
import Kommodity.AzureCredentials
import Kommodity.ARMReferences
import Kommodity.TokenCoverage
import Kommodity.CredentialUpsert
import Kommodity.GoSeparator
import Kommodity.HelmJob
import Kommodity.HelmJobText
import Kommodity.HelmJobRendering
import Kommodity.PCRSelection
import Kommodity.KmsVolumes
import Kommodity.GoNilMap
import Kommodity.SecretNormalisation
import Kommodity.GoJson
import Kommodity.ProviderCache
import Kommodity.ProviderTrust
import Kommodity.ProviderDiscovery
