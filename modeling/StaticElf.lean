import StaticElf.CommandLine
import StaticElf.FileTree
import StaticElf.Machine.Loader
import StaticElf.Machine.Meaning
import StaticElf.Main
import StaticElf.Proofs.Admission
import StaticElf.Proofs.BuildId
import StaticElf.Proofs.BuildTraces
import StaticElf.Proofs.Building
import StaticElf.Proofs.Calls
import StaticElf.Proofs.CodePages
import StaticElf.Proofs.CodeStream
import StaticElf.Proofs.Compiling
import StaticElf.Proofs.Contents
import StaticElf.Proofs.Decoders
import StaticElf.Proofs.Demands
import StaticElf.Proofs.EditScripts
import StaticElf.Proofs.Emission
import StaticElf.Proofs.Execution
import StaticElf.Proofs.FileSystems
import StaticElf.Proofs.FileTrees
import StaticElf.Proofs.Files
import StaticElf.Proofs.Headers
import StaticElf.Proofs.InstructionFields
import StaticElf.Proofs.InstructionShapes
import StaticElf.Proofs.Interpretation
import StaticElf.Proofs.Layouts
import StaticElf.Proofs.Listings
import StaticElf.Proofs.Loading
import StaticElf.Proofs.LowerCase
import StaticElf.Proofs.NearestNames
import StaticElf.Proofs.Numerals
import StaticElf.Proofs.OutputPaths
import StaticElf.Proofs.Pages
import StaticElf.Proofs.Placing
import StaticElf.Proofs.PlatformNames
import StaticElf.Proofs.Precedence
import StaticElf.Proofs.Processors
import StaticElf.Proofs.ReadBack
import StaticElf.Proofs.References
import StaticElf.Proofs.Relocation
import StaticElf.Proofs.RepeatedBuilds
import StaticElf.Proofs.Starting
import StaticElf.Proofs.TargetHints
import StaticElf.Proofs.TraceText
import StaticElf.Proofs.Traces
import StaticElf.Proofs.Verbosity
import StaticElf.Proofs.WellFormed
import StaticElf.Proofs.WrittenFlags
import StaticElf.Theory.LittleEndian
import StaticElf.Theory.Words
