import Sectum.Lib.Window
import Sectum.Lib.PyText
import Sectum.Lib.PyTime
import Sectum.Lib.PyNum
import Sectum.Lib.Sha1
import Sectum.Lib.Raise
import Sectum.Lib.Sweep
import Sectum.Lib.Framed
import Sectum.Lib.Dict
import Sectum.Lib.KeyedMerge
import Sectum.Lib.Tally
import Sectum.Spec.Enums
import Sectum.Spec.Models
import Sectum.Spec.Text
import Sectum.Spec.TextSound
import Sectum.Spec.Stats
import Sectum.Adapters.Base
import Sectum.Adapters.Session
import Sectum.Probes.Detection
import Sectum.Probes.DetectionSpec
import Sectum.Probes.DetectionSound
import Sectum.Probes.Redaction
import Sectum.Probes.Dedupe
import Sectum.Probes.Recall
import Sectum.Probes.Erasure
import Sectum.Probes.ErasureSpec
import Sectum.Probes.ErasureSound
import Sectum.Evidence.Labels
import Sectum.Evidence.Controls
import Sectum.Evidence.Oscal
import Sectum.Evidence.OscalSpec
import Sectum.Evidence.ErasureControls
import Sectum.Evidence.Rekor
import Sectum.Evidence.RekorSound
import Sectum.Core.Score
import Sectum.Core.ScoreSpec
import Sectum.Core.ScoreRules
import Sectum.Core.OscalAgreement
import Sectum.Core.Baseline
import Sectum.Core.BaselineSound
import Sectum.Probes.ErasureItemized
import Sectum.Lib.Sha256
import Sectum.Lib.Base64
import Sectum.Lib.Merkle
import Sectum.Lib.Json
import Sectum.Lib.JsonText
import Sectum.Lib.JsonBytes
import Sectum.Lib.JsonValue
import Sectum.Probes.SubjectErasure
import Sectum.Probes.SubjectErasureSpec
import Sectum.Probes.SubjectErasureSound
import Sectum.Core.ErasureCommand
import Sectum.Core.ErasureExit
import Sectum.Core.Runner
import Sectum.Core.RunnerContract
import Sectum.Evidence.RekorRefuses
import Sectum.Lib.JsonRoundTrip
import Sectum.Lib.JsonAscii
import Sectum.Spec.Dump
import Sectum.Evidence.Chain
import Sectum.Evidence.Tsa
import Sectum.Evidence.Verify
import Sectum.Evidence.ChainSound
import Sectum.Evidence.Intoto
import Sectum.Evidence.IntotoSound
import Sectum.Probes.ErasureInterrupted
import Sectum.Core.GateAgreement
import Sectum.Adapters.Keyword
import Sectum.Adapters.KeywordSound
import Sectum.Evidence.Bundle
import Sectum.Evidence.BundleSound
import Sectum.Evidence.BundleAgrees
import Sectum.Evidence.IntotoRaises
import Sectum.Evidence.BundleReturns
import Sectum.Lib.JsonTexts
import Sectum.Core.SiblingFiles
import Sectum.Core.VerifyCommand
import Sectum.Core.VerifySound
import Sectum.Adapters.Listing
import Sectum.Adapters.ListingSound
import Sectum.Core.Embeddings
import Sectum.Core.EmbeddingsSound
import Sectum.Lib.Draws
import Sectum.Lib.JsonFields
import Sectum.Lib.JsonRead
import Sectum.Lib.Readable
import Sectum.Lib.Runs
import Sectum.Lib.Utf8
import Sectum.Lib.Zip
import Sectum.Probes.Calibrate
import Sectum.Probes.CalibrateSweep
import Sectum.Probes.CalibrateGate
import Sectum.Probes.RecallSound
import Sectum.Spec.Hashing
import Sectum.Core.Markers
import Sectum.Core.Corpus
import Sectum.Core.Substrate
import Sectum.Spec.DumpSound
import Sectum.Core.SubstrateSound
import Sectum.Probes.FindingIds
import Sectum.Spec.Untrusted
import Sectum.Spec.RawJsonSound
import Sectum.Core.ProbeRecord
import Sectum.Core.ProbeRecordSound
import Sectum.Lib.JsonLineEnds
import Sectum.Lib.JsonFile
import Sectum.Core.SidecarAgrees
import Sectum.Adapters.Batch
import Sectum.Core.SequenceRate
import Sectum.Lib.GreedySplit
import Sectum.Lib.Groups
import Sectum.Lib.ScoreInterval
import Sectum.Spec.Wilson
import Sectum.Core.BaselineCauses
import Sectum.Core.BaselineCommand
import Sectum.Lib.PyFormat
import Sectum.Lib.Regex
import Sectum.Lib.Substitute
import Sectum.Core.ConfigRedaction
import Sectum.Core.ConfigRedactionText
import Sectum.Core.ConfigRedactionApart
import Sectum.Core.ConfigRedactionSound
import Sectum.Lib.Parties
import Sectum.Lib.DictItems
import Sectum.Adapters.Fakes
import Sectum.Adapters.FakesIsolation
import Sectum.Probes.Catalog
import Sectum.Probes.CatalogSound
import Sectum.Spec.TextAscii
import Sectum.Core.SubstrateSeeded
import Sectum.Core.FakeRunner
import Sectum.Probes.BoundaryExact
import Sectum.Probes.CacheExact
import Sectum.Core.Jobs
import Sectum.Core.JobsAgree
import Sectum.Lib.Tasks
import Sectum.Lib.Footprint
import Sectum.Lib.Samples
import Sectum.Lib.Lentz
import Sectum.Lib.RealMath
import Sectum.Probes.KvTiming
import Sectum.Probes.KvTail
import Sectum.Probes.KvTimingExact
import Sectum.Core.ProbeCommand
import Sectum.Probes.CatalogFindings
import Sectum.Core.ProbeRuns
import Sectum.Core.ProbeReach
import Sectum.Core.ProbeLines
