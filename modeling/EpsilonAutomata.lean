import EpsilonAutomata.Regex.Pattern
import EpsilonAutomata.Regex.Term
import EpsilonAutomata.Automaton.Construction
import EpsilonAutomata.Automaton.Simulation
import EpsilonAutomata.Automaton.Listing
import EpsilonAutomata.Automaton.Dump
import EpsilonAutomata.Yaml.Value.Document
import EpsilonAutomata.Schema.Load
import EpsilonAutomata.Session.Run
import EpsilonAutomata.FileTree
import EpsilonAutomata.CommandLine.Run
import EpsilonAutomata.Main
import EpsilonAutomata.Proofs.Language
import EpsilonAutomata.Proofs.Occurrence
import EpsilonAutomata.Proofs.Reconstruction
import EpsilonAutomata.Proofs.Yaml.DumpDocument
import EpsilonAutomata.Proofs.Viability
import EpsilonAutomata.Proofs.RecursiveConstruction
import EpsilonAutomata.Proofs.Schema.Denotation
import EpsilonAutomata.Proofs.Pattern.Reading
import EpsilonAutomata.Proofs.Discovery
import EpsilonAutomata.Proofs.ClosureSearch
import EpsilonAutomata.Proofs.Walk
import EpsilonAutomata.Proofs.Ownership
import EpsilonAutomata.Proofs.Trim
import EpsilonAutomata.Proofs.Degrees
import EpsilonAutomata.Proofs.SilentCycles
import EpsilonAutomata.Proofs.Letters
import EpsilonAutomata.Proofs.Text.Lines
import EpsilonAutomata.Proofs.Text.SelfDelimiting
import EpsilonAutomata.Proofs.TermText
import EpsilonAutomata.Proofs.Text.Quoted
import EpsilonAutomata.Proofs.Listing
import EpsilonAutomata.Proofs.GraphTexts
import EpsilonAutomata.Proofs.Counts
import EpsilonAutomata.Proofs.Schema.Grammar
import EpsilonAutomata.Proofs.Schema.Kinds
import EpsilonAutomata.Proofs.Schema.Grouping
import EpsilonAutomata.Proofs.CommandLine.Stream
import EpsilonAutomata.Proofs.CommandLine.Selection
