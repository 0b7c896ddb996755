import Connect3Dp.Collections.Dictionary
import Connect3Dp.Collections.HashSet
import Connect3Dp.Builder.DiffLaw
import Connect3Dp.Builder.Faulting
import Connect3Dp.Configuration.Persistence
import Connect3Dp.Configuration.Retention
import Connect3Dp.Connectors.AMSMapping
import Connect3Dp.Connectors.Alerts
import Connect3Dp.Connectors.Atomicity
import Connect3Dp.Connectors.AutoResolve
import Connect3Dp.Connectors.Creality
import Connect3Dp.Connectors.Delivery
import Connect3Dp.Connectors.Cancellation
import Connect3Dp.Connectors.DisconnectRecovery
import Connect3Dp.Connectors.FailedStore
import Connect3Dp.Connectors.FilamentMapping
import Connect3Dp.Connectors.HMSNotifications
import Connect3Dp.Connectors.JobClearing
import Connect3Dp.Connectors.LocalPrints
import Connect3Dp.Connectors.MQTTReconnection
import Connect3Dp.Connectors.OrphanRule
import Connect3Dp.Connectors.OperationResults
import Connect3Dp.Connectors.OperationRuns
import Connect3Dp.Connectors.Operations
import Connect3Dp.Connectors.PrintMetadata
import Connect3Dp.Connectors.History
import Connect3Dp.Connectors.ScheduleRuns
import Connect3Dp.Connectors.Subscriber
import Connect3Dp.Files.Isolation
import Connect3Dp.Files.Prune
import Connect3Dp.MachineConnectionCollection.Handlers
import Connect3Dp.MachineConnectionCollection.Removal
import Connect3Dp.MachineConnectionCollection.Restart
import Connect3Dp.MonoMachine
import Connect3Dp.Relays.CameraCleanup
import Connect3Dp.Scheduling.CronRuns
import Connect3Dp.Runtime.Alarm
import Connect3Dp.Scheduling.Occurrences
import Connect3Dp.Services.BroadcastIsolation
import Connect3Dp.Services.Framing
import Connect3Dp.Services.LogForwarding
import Connect3Dp.Services.LogSubscriptions
import Connect3Dp.Services.Replies
import Connect3Dp.Services.SessionSafety
import Connect3Dp.Services.SubscriptionDetail
import Connect3Dp.State.Merge
import Connect3Dp.State.ReportLaw
import Connect3Dp.WebClient.Reconnection
import Connect3Dp.WebClient.Requests
import Connect3Dp.Connectors.LocalJobMirroring
import Connect3Dp.Connectors.KeyAgreement
import Connect3Dp.Connectors.NotificationLifetime
import Connect3Dp.Connectors.MessageDelivery
import Connect3Dp.Connectors.Restrictions
import Connect3Dp.Connectors.StorageGate
import Connect3Dp.State.LastCall
import Connect3Dp.Connectors.ScheduleAnnouncement
import Connect3Dp.Connectors.CrealityPaging
import Connect3Dp.Connectors.ListingRefresh
import Connect3Dp.Connectors.HistoryRefresh
import Connect3Dp.Connectors.JsonHelpers
import Connect3Dp.State.SpoolRematching
import Connect3Dp.Connectors.ElegooProgress
import Connect3Dp.Connectors.MaterialChange
import Connect3Dp.Connectors.MUHeating
import Connect3Dp.Connectors.HeatingLimits
import Connect3Dp.Runtime.Flags
import Connect3Dp.Validation.ReadOnlyTests
import Connect3Dp.Validation.BambuLab
import Connect3Dp.Connectors.PrintSpeed
import Connect3Dp.Connectors.ElegooUpload
import Connect3Dp.Connectors.CameraStreamer
import Connect3Dp.Services.LogEnumeration
import Connect3Dp.State.MaterialEncoding
import Connect3Dp.Connectors.FileHandles
import Connect3Dp.Connectors.Thumbnails
import Connect3Dp.Connectors.DownloadCache
import Connect3Dp.Builder.ChangesEmitter
import Connect3Dp.Connectors.ElegooAddress
import Connect3Dp.WebClient.LogInterval
import Connect3Dp.Relays.PathNames
import Connect3Dp.Services.Replicas
import Connect3Dp.Collections.LiveMap
import Connect3Dp.WebClient.SubscriptionRecovery
import Connect3Dp.Runtime.Watch
import Connect3Dp.Connectors.ScanLoop
import Connect3Dp.Files.StoreMap
import Connect3Dp.Runtime.Handover
import Connect3Dp.Services.Joining
