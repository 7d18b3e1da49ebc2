import JitTarget.Profile.Consistency
import JitTarget.Profile.Text
import JitTarget.Json.Printer
import JitTarget.Json.Reader
import JitTarget.Config.FromJson
import JitTarget.Config.FromToml
import JitTarget.Config.Validation
import JitTarget.Config.Search
import JitTarget.Text.Utf8
import JitTarget.Store
import JitTarget.Code.Environment
import JitTarget.Code.Session
import JitTarget.Code.History
import JitTarget.Diagnostics
import JitTarget.Main
import JitTarget.Proofs.DirtySpan
import JitTarget.Proofs.Contents
import JitTarget.Code.Custody
import JitTarget.Proofs.LedgerBalance
import JitTarget.Proofs.SessionSteps
import JitTarget.Proofs.Custody
import JitTarget.Proofs.Outstanding
import JitTarget.Proofs.Accounting
import JitTarget.Code.Trace
import JitTarget.Proofs.NativeGate
import JitTarget.Proofs.ForeignCalls
import JitTarget.Command.Precedence
import JitTarget.Toml.Line
import JitTarget.Proofs.Arguments
import JitTarget.Proofs.Resolution
import JitTarget.Proofs.ShowPrecedence
import JitTarget.Proofs.CheckAgreement
import JitTarget.Proofs.NewFiles
import JitTarget.Proofs.TomlLines
import JitTarget.Proofs.TomlSections
import JitTarget.Proofs.ConfigText
import JitTarget.Proofs.Initialization
import JitTarget.Proofs.FirstFailure
import JitTarget.Command.Transcript
import JitTarget.Proofs.DoctorAgreement
import JitTarget.Code.Interleaving
import JitTarget.Proofs.Interleaving
import JitTarget.Proofs.TomlKeys
import JitTarget.Config.Strict
import JitTarget.Proofs.StrictConfig
import JitTarget.Proofs.Detection
import JitTarget.Proofs.Validation
import JitTarget.Proofs.LostMapping
import JitTarget.Proofs.Installation
import JitTarget.Files.Ancestry
import JitTarget.Proofs.Ancestors
import JitTarget.Proofs.FastcallSetting
import JitTarget.Proofs.NearestConfig
import JitTarget.Proofs.Consistency
import JitTarget.Proofs.ByteEncoding
import JitTarget.Proofs.Truncation
import JitTarget.Family.Spelling
import JitTarget.Proofs.FamilySpelling
import JitTarget.Json.Shape
import JitTarget.Proofs.JsonShapes
import JitTarget.Proofs.JsonKeys
import JitTarget.Proofs.ConfigData
import JitTarget.Json.Listing
import JitTarget.Proofs.Decimals
import JitTarget.Proofs.JsonListing
import JitTarget.Profile.Reading
import JitTarget.Proofs.ProfileText
import JitTarget.Code.Flushing
import JitTarget.Proofs.Flushing
import JitTarget.Json.Respelling
import JitTarget.Proofs.CanonicalJson
