import AppMetadata.CommandLine.Session
import AppMetadata.Main
import AppMetadata.Proofs.CommandLine
import AppMetadata.Proofs.Dangling
import AppMetadata.Proofs.DepthLimit
import AppMetadata.Proofs.DocComment
import AppMetadata.Proofs.Expansion.Aliases
import AppMetadata.Proofs.Expansion.Arrays
import AppMetadata.Proofs.Expansion.Documentation
import AppMetadata.Proofs.Expansion.Embedding
import AppMetadata.Proofs.Expansion.Flattening
import AppMetadata.Proofs.Expansion.Heritage
import AppMetadata.Proofs.Expansion.Inlining
import AppMetadata.Proofs.Expansion.Optionality
import AppMetadata.Proofs.Expansion.Rooting
import AppMetadata.Proofs.Expansion.ShortNames
import AppMetadata.Proofs.Expansion.Spelling
import AppMetadata.Proofs.Expansion.Splicing
import AppMetadata.Proofs.Expansion.Titles
import AppMetadata.Proofs.Expansion.Transparency
import AppMetadata.Proofs.Expansion.Unions
import AppMetadata.Proofs.Expansion.WellFormed
import AppMetadata.Proofs.Group
import AppMetadata.Proofs.Group.Members
import AppMetadata.Proofs.Json
import AppMetadata.Proofs.LineIndex
import AppMetadata.Proofs.Links
import AppMetadata.Proofs.Merging
import AppMetadata.Proofs.Naming
import AppMetadata.Proofs.Overlay
import AppMetadata.Proofs.Path
import AppMetadata.Proofs.Program.Closure
import AppMetadata.Proofs.Program.Derivation
import AppMetadata.Proofs.Program.Loaded
import AppMetadata.Proofs.Program.Visibility
import AppMetadata.Proofs.RootExport
import AppMetadata.Proofs.RoundTrip
import AppMetadata.Proofs.Settings
import AppMetadata.Proofs.Shape.Addresses
import AppMetadata.Proofs.SourceFiles
import AppMetadata.Proofs.SynthesizedNames
import AppMetadata.Proofs.Tree.Likeness
