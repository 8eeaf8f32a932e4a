import ImageConfig.Handles
import ImageConfig.Session
import ImageConfig.ConfigFile.Reflection
import ImageConfig.ConfigFile.Resources
import ImageConfig.ConfigFile.Proxies
import ImageConfig.ConfigFile.Timing
import ImageConfig.ConfigFile.Settings
import ImageConfig.BuildArguments.File
import ImageConfig.LogFile
import ImageConfig.Main
import ImageConfig.Proofs.Contribution
import ImageConfig.Proofs.Listing
import ImageConfig.Proofs.Verification
import ImageConfig.Proofs.Run
import ImageConfig.Proofs.Submission
import ImageConfig.Proofs.VerificationGate
import ImageConfig.Proofs.ClassGrowth
import ImageConfig.Proofs.FailureLines
import ImageConfig.Proofs.Following
import ImageConfig.Proofs.BulkRegistration
import ImageConfig.Proofs.Steadiness
import ImageConfig.Proofs.Interleaving
import ImageConfig.Proofs.Merging
import ImageConfig.Proofs.History
import ImageConfig.Proofs.Retention
import ImageConfig.Proofs.Recording
import ImageConfig.Proofs.PhaseConflicts
import ImageConfig.Proofs.EngineIndependence
import ImageConfig.Proofs.DebugIndependence
import ImageConfig.Proofs.Forwarding
import ImageConfig.Proofs.CompactText
import ImageConfig.Proofs.ReflectionFile
import ImageConfig.Proofs.ConfigFiles
import ImageConfig.Proofs.FirstFault
import ImageConfig.Proofs.FlagReading
import ImageConfig.Proofs.ClassFaults
import ImageConfig.Proofs.ArgumentReading
import ImageConfig.Proofs.ArgumentLines
import ImageConfig.Proofs.FailedClasses
import ImageConfig.Proofs.ProxyRegistration
import ImageConfig.Proofs.LogRequests
import ImageConfig.Proofs.Survivors
import ImageConfig.Proofs.Collecting
import ImageConfig.Proofs.Repeats
