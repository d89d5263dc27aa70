import ContractLens.Main
import ContractLens.Rpc.Client
import ContractLens.Proofs.Bridge.SharedEvents
import ContractLens.Proofs.Details
import ContractLens.Proofs.LogAddresses
import ContractLens.Proofs.Search.Deployment
import ContractLens.Proofs.Search.Creation
import ContractLens.Proofs.Bridge.ActiveRelease
import ContractLens.Proofs.Inspector
import ContractLens.Proofs.DecodedLogs
import ContractLens.Proofs.Fingerprint
import ContractLens.Proofs.Search.Prefetched
import ContractLens.Proofs.InterfaceChanges
import ContractLens.Proofs.LogFile
import ContractLens.Proofs.Rpc.Client
import ContractLens.Proofs.Bridge.FederationChange
import ContractLens.Proofs.Bridge.LegacyArguments
import ContractLens.Proofs.DecodedEvents
import ContractLens.Proofs.InspectionSafety
import ContractLens.Proofs.Search.Probes
import ContractLens.Proofs.Abi.TypeTree
import ContractLens.Proofs.DistinctEvents
import ContractLens.Proofs.AddressLists
import ContractLens.Proofs.FingerprintGrowth
import ContractLens.Proofs.Contract
import ContractLens.Proofs.Methods
import ContractLens.Proofs.Configuration
import ContractLens.Proofs.Records
import ContractLens.Proofs.QuantityGrammar
import ContractLens.Proofs.Bridge.LegacyTopics
import ContractLens.Proofs.Bridge.LegacyNetworks
import ContractLens.Proofs.Bridge.ReleaseIntervals
