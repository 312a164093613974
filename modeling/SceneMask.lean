import SceneMask.Account
import SceneMask.Batch
import SceneMask.CommandLine.Grammar
import SceneMask.CommandLine.Request
import SceneMask.Context
import SceneMask.Fault
import SceneMask.Files
import SceneMask.Fill
import SceneMask.Histogram
import SceneMask.Json.Basic
import SceneMask.Json.Document
import SceneMask.Json.Number
import SceneMask.Json.Printer
import SceneMask.Json.Record
import SceneMask.KeyMap
import SceneMask.Main
import SceneMask.Mask
import SceneMask.MaskConfig
import SceneMask.Number.Arithmetic
import SceneMask.Number.Binary
import SceneMask.Number.Decimal
import SceneMask.Number.Rounding
import SceneMask.Number.Shortest
import SceneMask.Observation
import SceneMask.PerClass
import SceneMask.Proofs.AccountCounts
import SceneMask.Proofs.BandAccounts
import SceneMask.Proofs.BatchRows
import SceneMask.Proofs.ClassNumbers
import SceneMask.Proofs.ConfigRecovery
import SceneMask.Proofs.Conservation
import SceneMask.Proofs.Decoding
import SceneMask.Proofs.ExactNumbers
import SceneMask.Proofs.ExactSamples
import SceneMask.Proofs.Expression
import SceneMask.Proofs.Findings
import SceneMask.Proofs.HistogramCounts
import SceneMask.Proofs.JsonNumerals
import SceneMask.Proofs.JsonTexts
import SceneMask.Proofs.LowerEnds
import SceneMask.Proofs.MaskAgreement
import SceneMask.Proofs.MaskComposition
import SceneMask.Proofs.Masking
import SceneMask.Proofs.NearestRanks
import SceneMask.Proofs.Numerals
import SceneMask.Proofs.Overflow
import SceneMask.Proofs.Pieces
import SceneMask.Proofs.PixelPlaces
import SceneMask.Proofs.PolicyDuality
import SceneMask.Proofs.Promotion
import SceneMask.Proofs.ReportAgreement
import SceneMask.Proofs.Representability
import SceneMask.Proofs.Rescaling
import SceneMask.Proofs.ResponseGrammar
import SceneMask.Proofs.ResponseHistograms
import SceneMask.Proofs.Retries
import SceneMask.Proofs.RowRecovery
import SceneMask.Proofs.SafeDecoding
import SceneMask.Proofs.SummaryAgreement
import SceneMask.Proofs.SummaryPolicies
import SceneMask.Proofs.WholeNumbers
import SceneMask.Raster
import SceneMask.Report
import SceneMask.Rescale
import SceneMask.Retry
import SceneMask.SampleType
import SceneMask.Samples
import SceneMask.SceneClass
import SceneMask.Selection
import SceneMask.Statistics
import SceneMask.Summary
import SceneMask.Target
import SceneMask.Text.Blank
import SceneMask.Text.Hidden
import SceneMask.Text.Quoted
import SceneMask.Tiff
import SceneMask.Proofs.DecimalValues
import SceneMask.Proofs.FillTexts
import SceneMask.Proofs.WholeFills
import SceneMask.Proofs.Selections
import SceneMask.Proofs.CheckedParameters
import SceneMask.Proofs.ContextEntries
import SceneMask.Proofs.RasterViews
