import CodeGrowth.CommandLine.Run
import CodeGrowth.Main
import CodeGrowth.Proofs.Findings
import CodeGrowth.Proofs.Printed
import CodeGrowth.Proofs.Traceability
import CodeGrowth.Proofs.Respacing
import CodeGrowth.Proofs.Layout
import CodeGrowth.Proofs.Comments
import CodeGrowth.Proofs.Indentation
import CodeGrowth.Proofs.Headers
import CodeGrowth.Proofs.StructuredPrograms
import CodeGrowth.Proofs.Nesting
import CodeGrowth.Proofs.BraceWalks
import CodeGrowth.Proofs.Outlines
import CodeGrowth.Proofs.Wrapping
import CodeGrowth.Proofs.StringData
import CodeGrowth.Proofs.Occurrences
import CodeGrowth.Proofs.LooplessText
import CodeGrowth.Proofs.SpreadTokens
import CodeGrowth.Proofs.EndlessLoops
import CodeGrowth.Proofs.LineEnds
import CodeGrowth.Proofs.LineComments
import CodeGrowth.Proofs.PrintedJson
import CodeGrowth.Proofs.Records
import CodeGrowth.Proofs.JsonReports
import CodeGrowth.Proofs.Sessions
import CodeGrowth.Proofs.AnalysisStates
import CodeGrowth.Proofs.FileTree
import CodeGrowth.Proofs.ConfigFiles
import CodeGrowth.Proofs.Arguments
import CodeGrowth.Proofs.Runs
import CodeGrowth.Proofs.FailedRuns
import CodeGrowth.Proofs.ConfigRuns
import CodeGrowth.Proofs.Colours
import CodeGrowth.Proofs.StrippedText
import CodeGrowth.Proofs.JsonLexemes
import CodeGrowth.Proofs.JsonTexts
import CodeGrowth.Proofs.ConfigMembers
import CodeGrowth.Proofs.CommentSpans
import CodeGrowth.Proofs.CallSites
import CodeGrowth.Proofs.LiteralSpans
import CodeGrowth.Proofs.StrayQuotes
import CodeGrowth.Proofs.Definitions
import CodeGrowth.Proofs.JoinedTexts
import CodeGrowth.Proofs.SplitHeaders
import CodeGrowth.Proofs.OpenLevels
import CodeGrowth.Proofs.DoWhileLoops
import CodeGrowth.Proofs.ConstantProse
import CodeGrowth.Proofs.IdiomScores
import CodeGrowth.Proofs.Gauges
import CodeGrowth.Proofs.Tables
