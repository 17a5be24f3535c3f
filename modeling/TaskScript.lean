import TaskScript.Command
import TaskScript.Edit
import TaskScript.Main
import TaskScript.Proofs.Executor.Progress
import TaskScript.Proofs.Heap.Layout
import TaskScript.Proofs.Lexer.Longest
import TaskScript.Proofs.Parsing.Append
import TaskScript.Proofs.Pipeline.Decoding
import TaskScript.Proofs.Pipeline.Jobs
import TaskScript.Proofs.Pipeline.Marking
import TaskScript.Proofs.Source.Carets
import TaskScript.Proofs.Lexer.Spaced
import TaskScript.Proofs.Parsing.Directives
import TaskScript.Proofs.Command.Files
import TaskScript.Proofs.Command.Output
import TaskScript.Proofs.Lexer.LineByLine
import TaskScript.Proofs.Lexer.Spans
import TaskScript.Proofs.Pipeline.Blanking
import TaskScript.Proofs.Pipeline.Annotation
import TaskScript.Proofs.Registry.Refinement
import TaskScript.Proofs.Executor.Visits
import TaskScript.Proofs.Heap.Spelling
import TaskScript.Proofs.Source.Excerpts
import TaskScript.Proofs.Lexer.Calls
