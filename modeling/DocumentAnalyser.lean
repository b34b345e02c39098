import DocumentAnalyser.Value
import DocumentAnalyser.Decode
import DocumentAnalyser.Requirements
import DocumentAnalyser.Loaders
import DocumentAnalyser.Prompts
import DocumentAnalyser.Extractor
import DocumentAnalyser.EvidenceStore
import DocumentAnalyser.Pipeline
import DocumentAnalyser.StripNone
import DocumentAnalyser.RequirementAnalysis
import DocumentAnalyser.TokenCache
import DocumentAnalyser.Publish
import DocumentAnalyser.StoreErrors
import DocumentAnalyser.Run
import DocumentAnalyser.Cli
import DocumentAnalyser.Payload
import DocumentAnalyser.BuildPayloads
import DocumentAnalyser.CliRuns
