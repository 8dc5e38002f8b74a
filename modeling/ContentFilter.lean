import ContentFilter.Unicode.RangeTable
import ContentFilter.Unicode.RangeTable.Algebra
import ContentFilter.Unicode.RangeTable.Utf8
import ContentFilter.Unicode.WordCharacter
import ContentFilter.Unicode.CaseFolding
import ContentFilter.Unicode.GeneralCategory
import ContentFilter.Unicode.Script
import ContentFilter.Unicode.BinaryProperty
import ContentFilter.Unicode.TextBreak
import ContentFilter.Unicode.Age
import ContentFilter.Unicode.Property
import ContentFilter.Regex.CharSet
import ContentFilter.Regex.Expr
import ContentFilter.Regex.Token
import ContentFilter.Regex.Parser
import ContentFilter.Regex.Basic
import ContentFilter.Regex.Search
import ContentFilter.Regex.Search.Rounds
import ContentFilter.Regex.Search.Spans
import ContentFilter.Regex.Search.Lemmas
import ContentFilter.Regex.Plan
import ContentFilter.Regex.Plan.Size
import ContentFilter.Regex.Plan.Lemmas
import ContentFilter.Regex.Compile
import ContentFilter.Text
import ContentFilter.Text.Lemmas
import ContentFilter.Domain
import ContentFilter.Url.Address
import ContentFilter.Url
import ContentFilter.FilterPattern.Glob
import ContentFilter.FilterPattern
import ContentFilter.Category
import ContentFilter.ResourceType
import ContentFilter.ResourceType.Lemmas
import ContentFilter.IdSpace
import ContentFilter.IdSpace.Lemmas
import ContentFilter.Rule
import ContentFilter.Matcher
import ContentFilter.DeclarativeRule
import ContentFilter.Filter
import ContentFilter.Filter.Options
import ContentFilter.Filter.Network
import ContentFilter.Filter.Cosmetic
import ContentFilter.Filter.Hosts
import ContentFilter.Filter.Line
import ContentFilter.FilterList
import ContentFilter.Json.Number
import ContentFilter.Json.Value
import ContentFilter.Json.Reader
import ContentFilter.Json.Printer
import ContentFilter.Json.Decoder
import ContentFilter.Priority
import ContentFilter.Optimizer
import ContentFilter.Optimizer.Lemmas
import ContentFilter.CosmeticIndex
import ContentFilter.CosmeticIndex.Lemmas
import ContentFilter.Error
import ContentFilter.Config
import ContentFilter.Compilation
import ContentFilter.ResourceType.Mask
import ContentFilter.Rule.Record
import ContentFilter.DeclarativeRule.Record
import ContentFilter.Filter.Record
import ContentFilter.FilterList.Record
import ContentFilter.Config.Record
import ContentFilter.Compilation.Record
import ContentFilter.RuleTable
import ContentFilter.RuleTable.Lemmas
import ContentFilter.Backend
import ContentFilter.Backend.Metered
import ContentFilter.Sync
import ContentFilter.Sync.Lemmas
import ContentFilter.Sync.Record
import ContentFilter.Gate
import ContentFilter.Store
import ContentFilter.Manager
import ContentFilter.Manager.Lemmas
import ContentFilter.Manager.Status
import ContentFilter.Manager.Persistence
import ContentFilter.Session
import ContentFilter.CommandLine.Path
import ContentFilter.CommandLine.Host
import ContentFilter.CommandLine.Source
import ContentFilter.CommandLine.Arguments
import ContentFilter.CommandLine.Report
import ContentFilter.CommandLine.Run
import ContentFilter.CommandLine.Folder
import ContentFilter.Main
import ContentFilter.Proofs.Matching.Best
import ContentFilter.Proofs.Compilation.Emission
import ContentFilter.Proofs.Compilation.Tiers
import ContentFilter.Proofs.Compilation.Precedence
import ContentFilter.Proofs.RuleTable.Members
import ContentFilter.Proofs.Sync.Rediff
import ContentFilter.Proofs.Sync.Calls
import ContentFilter.Proofs.Sync.Exact
import ContentFilter.Proofs.Sync.Convergence
import ContentFilter.Proofs.Compilation.Numbering
import ContentFilter.Proofs.Manager.Operations
import ContentFilter.Proofs.Manager.LastGood
import ContentFilter.Proofs.Compilation.Ceiling
import ContentFilter.Proofs.Manager.Capacity
import ContentFilter.Proofs.Regex.Row
import ContentFilter.Proofs.Regex.Spelling
import ContentFilter.Proofs.FilterPattern.Translation
import ContentFilter.Unicode.CaseFolding.Lemmas
import ContentFilter.Proofs.FilterPattern.Meaning
import ContentFilter.Domain.Lemmas
import ContentFilter.Proofs.Url.Parts
import ContentFilter.Proofs.Url.Host
import ContentFilter.Proofs.FilterPattern.Size
import ContentFilter.Proofs.FilterPattern.HostAnchor
import ContentFilter.Proofs.Text.Bytes
import ContentFilter.Proofs.Domain.Lists
import ContentFilter.Proofs.Filter.Reading
import ContentFilter.Proofs.Filter.WellFormed
import ContentFilter.Proofs.Filter.Naming
import ContentFilter.Proofs.CosmeticIndex.Scan
import ContentFilter.Proofs.Compilation.Assignment
import ContentFilter.Proofs.Compilation.Cut
import ContentFilter.Proofs.Compilation.Exhaustion
import ContentFilter.Proofs.Json.Decoding
import ContentFilter.Proofs.Json.Reading
import ContentFilter.Proofs.ResourceType.Text
import ContentFilter.Proofs.FilterList.Records
import ContentFilter.Proofs.Manager.Storage
import ContentFilter.Proofs.Manager.Restoring
import ContentFilter.Proofs.Gate.Passage
import ContentFilter.Proofs.ResourceType.Names
import ContentFilter.Proofs.CommandLine.Files
import ContentFilter.Proofs.Config.Decoded
import ContentFilter.Proofs.DeclarativeRule.Records
import ContentFilter.Proofs.Compilation.Declarative
import ContentFilter.Proofs.Session.Planning
import ContentFilter.Proofs.Compilation.Requests
import ContentFilter.Proofs.Compilation.Accounting
import ContentFilter.Proofs.Manager.Subscriptions
import ContentFilter.Proofs.Compilation.Appending
import ContentFilter.Proofs.Url.Address
import ContentFilter.Proofs.FilterPattern.Coverage
import ContentFilter.Proofs.Filter.HostsEntries
import ContentFilter.Proofs.Filter.Standalone
import ContentFilter.Proofs.Compilation.ByCategory
import ContentFilter.Proofs.Manager.CustomRules
import ContentFilter.Proofs.Manager.CustomRuleIds
import ContentFilter.Proofs.Compilation.Blacklist
import ContentFilter.Proofs.Compilation.Copies
import ContentFilter.Proofs.Compilation.Origins
import ContentFilter.Proofs.Filter.NegatedTypes
import ContentFilter.Proofs.Filter.EscapedDollars
import ContentFilter.Proofs.Manager.Sources
import ContentFilter.Proofs.Filter.SourceLines
import ContentFilter.Proofs.Filter.OptionOrder
import ContentFilter.Proofs.Filter.WrittenForm
import ContentFilter.Proofs.Filter.SingleLabels
import ContentFilter.Proofs.Optimizer.FirstPlaces
import ContentFilter.Proofs.Matching.Verdict
import ContentFilter.Proofs.Regex.LetterCase
import ContentFilter.Proofs.Compilation.Loading
import ContentFilter.Proofs.Backend.Calls
import ContentFilter.Proofs.IdSpace.Tables
import ContentFilter.Proofs.IdSpace.Allocation
import ContentFilter.Proofs.Domain.Suffixes
import ContentFilter.Proofs.Url.Sites
