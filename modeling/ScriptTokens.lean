import ScriptTokens.Config.Layer
import ScriptTokens.Cursor.Walk
import ScriptTokens.Main
import ScriptTokens.Prompt.Completion
import ScriptTokens.Proofs.Prompt.Continuation
import ScriptTokens.Proofs.Prompt.Highlight
import ScriptTokens.Proofs.TokenStream.Blanking
import ScriptTokens.Proofs.TokenStream.Lines
import ScriptTokens.Proofs.TokenStream.Longest
import ScriptTokens.Proofs.TokenStream.Lookahead
import ScriptTokens.Proofs.TokenStream.Partition
import ScriptTokens.Proofs.TokenStream.Resuming
import ScriptTokens.Proofs.TokenStream.Spacing
import ScriptTokens.TokenStream.Session
import ScriptTokens.Proofs.Text.Unescaping
import ScriptTokens.Proofs.Report.Listing
import ScriptTokens.Proofs.Json.Reading
import ScriptTokens.Proofs.Json.Pretty
import ScriptTokens.Proofs.Report.Document
import ScriptTokens.Proofs.Config.Assignment
import ScriptTokens.Proofs.Config.Entries
import ScriptTokens.Proofs.Config.Layers
import ScriptTokens.Proofs.Config.Shown
import ScriptTokens.Proofs.TokenStream.Closing
import ScriptTokens.Proofs.Prompt.Dialogue
import ScriptTokens.Proofs.Config.Loading
import ScriptTokens.Proofs.Report.Rendering
import ScriptTokens.Proofs.Program.Outcome
import ScriptTokens.Proofs.Program.Color
import ScriptTokens.Proofs.TokenStream.Slashes
import ScriptTokens.Proofs.DocSummary
import ScriptTokens.Proofs.Prompt.Brackets
import ScriptTokens.Proofs.Config.Environment
import ScriptTokens.Proofs.Cursor.Walk
import ScriptTokens.Proofs.Prompt.Completion
import ScriptTokens.Proofs.Prompt.Looking
import ScriptTokens.Proofs.Lexing.Reading
import ScriptTokens.Proofs.TokenStream.Session
