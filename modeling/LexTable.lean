import LexTable.Main
import LexTable.Proofs.Lexer.Tiling
import LexTable.Proofs.Table.Inlining
import LexTable.Proofs.Lexer.StateStack
import LexTable.Proofs.Render.Listing
import LexTable.Proofs.Render.Coloring
import LexTable.Proofs.Render.Inheritance
import LexTable.Proofs.Lexer.Shift
import LexTable.Proofs.NuShell.Matches
import LexTable.Proofs.NuShell.Restart
import LexTable.Proofs.Lexer.Agreement
import LexTable.Proofs.Table.Extension
import LexTable.Proofs.Table.Reordering
import LexTable.Proofs.Lexer.Reuse
import LexTable.Proofs.Lexer.Independence
import LexTable.Proofs.Cli.Outcome
import LexTable.Proofs.Table.FirstDefect
import LexTable.Proofs.Pattern.LongestWord
import LexTable.Proofs.Regex.Starts
import LexTable.Proofs.NuShell.Tokens
import LexTable.Proofs.NuShell.Strings
import LexTable.Proofs.NuShell.Fallback
import LexTable.Proofs.Regex.Endings
import LexTable.Proofs.NuShell.Endings
import LexTable.Proofs.NuShell.Functions
import LexTable.Proofs.Lexer.Division
import LexTable.Proofs.Pattern.Groups
import LexTable.Proofs.Lexer.Groups
import LexTable.Proofs.Glob.Classes
import LexTable.Proofs.Glob.Spelling
import LexTable.Proofs.Glob.Brackets
import LexTable.Proofs.Glob.Wildcards
import LexTable.Proofs.Preparation.NormalForm
import LexTable.Proofs.Preparation.Content
import LexTable.Proofs.Text.Positions
import LexTable.Proofs.Warning.Report
import LexTable.Proofs.Preparation.TabStops
import LexTable.Proofs.Cli.Checking
