import JarAtlas.Text.Basic
import JarAtlas.Text.Blank
import JarAtlas.Text.Letter
import JarAtlas.Text.Digits
import JarAtlas.Text.Quoted
import JarAtlas.Text.Utf8
import JarAtlas.Binary64
import JarAtlas.Json.String
import JarAtlas.Json.Basic
import JarAtlas.Json.Writer
import JarAtlas.Json.Reader
import JarAtlas.Json.Key
import JarAtlas.Declaration.TypeReference
import JarAtlas.Declaration.Basic
import JarAtlas.Declaration.Parser
import JarAtlas.Summary
import JarAtlas.Member.Modifiers
import JarAtlas.Member.Parameters
import JarAtlas.Member.Signature
import JarAtlas.Listing.Line
import JarAtlas.Listing.OpenMethod
import JarAtlas.Listing.Reading
import JarAtlas.Error
import JarAtlas.Report
import JarAtlas.Path
import JarAtlas.ClassName
import JarAtlas.Coordinate
import JarAtlas.Config
import JarAtlas.FileTree
import JarAtlas.Session
import JarAtlas.Files
import JarAtlas.Tool
import JarAtlas.Archive
import JarAtlas.ClassIndex.Basic
import JarAtlas.ClassIndex.Dependencies
import JarAtlas.ClassIndex.Scan
import JarAtlas.ClassIndex.Lookup
import JarAtlas.Analysis
import JarAtlas.Decompilation
import JarAtlas.Request
import JarAtlas.Server.Tools
import JarAtlas.Server.Call
import JarAtlas.CommandLine.Words
import JarAtlas.CommandLine.Command
import JarAtlas.CommandLine.Run
import JarAtlas.Main
import JarAtlas.Proofs.Text.Trimming
import JarAtlas.Proofs.Text.Cuts
import JarAtlas.Proofs.Text.Decimal
import JarAtlas.Proofs.Text.Lines
import JarAtlas.Proofs.Text.Layout
import JarAtlas.Proofs.Declaration.Grammar
import JarAtlas.Proofs.Declaration.Terminals
import JarAtlas.Proofs.Declaration.Soundness
import JarAtlas.Proofs.Declaration.Completeness
import JarAtlas.Proofs.Declaration.Denotation
import JarAtlas.Proofs.Declaration.Exactness
import JarAtlas.Proofs.Declaration.Identifier
import JarAtlas.Proofs.Declaration.Printing
import JarAtlas.Proofs.Member.Modifiers
import JarAtlas.Proofs.Member.Parameters
import JarAtlas.Proofs.Member.Signature
import JarAtlas.Proofs.Member.Constructor
import JarAtlas.Proofs.Listing.Run
import JarAtlas.Proofs.Listing.Effects
import JarAtlas.Proofs.Listing.Invariant
import JarAtlas.Proofs.Listing.Finishing
import JarAtlas.Proofs.Listing.DeclarationLine
import JarAtlas.Proofs.Listing.Inert
import JarAtlas.Proofs.Listing.SwitchBlock
import JarAtlas.Proofs.Listing.Layout
import JarAtlas.Proofs.Listing.Slots
import JarAtlas.Proofs.Listing.VariableTable
import JarAtlas.Proofs.Listing.MemberLine
import JarAtlas.Proofs.Listing.PrintedMember
import JarAtlas.Proofs.Listing.MemberRun
import JarAtlas.Proofs.Listing.PrintedHeader
import JarAtlas.Proofs.Listing.RoundTrip
import JarAtlas.Proofs.Listing.Growth
import JarAtlas.Proofs.Listing.Prefixes
import JarAtlas.Proofs.Files.Paths
import JarAtlas.Proofs.Listing.SkippedMember
import JarAtlas.Proofs.Listing.LocalRow
import JarAtlas.Proofs.Session.Operations
import JarAtlas.Proofs.ClassIndex.IndexFile
import JarAtlas.Proofs.ClassIndex.Scanning
import JarAtlas.Proofs.ClassIndex.LookupCache
import JarAtlas.Proofs.Json.Strings
import JarAtlas.Proofs.Json.RoundTrip
import JarAtlas.Proofs.ClassIndex.WrittenIndex
import JarAtlas.Proofs.ClassIndex.Indexing
import JarAtlas.Proofs.ClassIndex.Faithfulness
import JarAtlas.Proofs.Files.Confinement
import JarAtlas.Proofs.Archive.Extraction
import JarAtlas.Proofs.Analysis.Agreement
import JarAtlas.Proofs.Listing.Superclass
import JarAtlas.Proofs.Analysis.Hierarchy
import JarAtlas.Proofs.Analysis.Workers
import JarAtlas.Proofs.Analysis.Pool
import JarAtlas.Proofs.Analysis.Subclasses
import JarAtlas.Proofs.Files.Directories
import JarAtlas.Proofs.Files.Targets
import JarAtlas.Proofs.Files.Ways
import JarAtlas.Proofs.Files.Temporary
import JarAtlas.Proofs.Files.Comparison
import JarAtlas.Proofs.Files.Obstacles
import JarAtlas.Proofs.Files.Standing
import JarAtlas.Proofs.Text.Order
import JarAtlas.Proofs.ClassIndex.FailedScans
import JarAtlas.Proofs.Decompilation.Extraction
import JarAtlas.Proofs.Decompilation.Afresh
import JarAtlas.Proofs.Decompilation.Discovery
import JarAtlas.Proofs.Decompilation.Names
import JarAtlas.Proofs.Decompilation.KeptSource
import JarAtlas.Proofs.Decompilation.KeptTrees
import JarAtlas.Proofs.Decompilation.Later
import JarAtlas.Proofs.Decompilation.Batch
import JarAtlas.Proofs.Server.Effects
import JarAtlas.Proofs.Server.FirstScan
import JarAtlas.Proofs.Server.StableIndex
import JarAtlas.Proofs.Listing.Heading
import JarAtlas.Proofs.Listing.DeclaredName
import JarAtlas.Proofs.Server.Replies
import JarAtlas.Proofs.CommandLine.Agreement
import JarAtlas.Proofs.CommandLine.Escapes
import JarAtlas.Proofs.Member.ReadBack
import JarAtlas.Proofs.Listing.Vocabulary
import JarAtlas.Proofs.Listing.Boundary
import JarAtlas.Proofs.Listing.Refusals
import JarAtlas.Proofs.Declaration.Surroundings
import JarAtlas.Proofs.Declaration.Rereading
import JarAtlas.Proofs.Declaration.Groups
import JarAtlas.Proofs.Declaration.Generics
import JarAtlas.Proofs.ClassIndex.Coordinates
import JarAtlas.Proofs.Files.DistinctPlaces
import JarAtlas.Proofs.ClassIndex.DependencyList
import JarAtlas.Proofs.ClassIndex.JarPaths
import JarAtlas.Proofs.Archive.DistinctFiles
import JarAtlas.Proofs.Decompilation.RepeatedRequests
import JarAtlas.Proofs.Archive.ListedClasses
import JarAtlas.Proofs.Text.Utf8
import JarAtlas.Proofs.Listing.SavedListing
import JarAtlas.Proofs.Member.DeclaredParameter
import JarAtlas.Proofs.Listing.NamedParameters
import JarAtlas.Proofs.Decompilation.SearchOrder
import JarAtlas.Proofs.Decompilation.RememberedDecompiler
import JarAtlas.Proofs.Files.SoundTrees
import JarAtlas.Proofs.Server.SoundTrees
import JarAtlas.Proofs.CommandLine.SoundTrees
