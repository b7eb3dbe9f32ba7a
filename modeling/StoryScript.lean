import StoryScript.Main
import StoryScript.Cursor.Steady
import StoryScript.Proofs.Compilation.Whole
import StoryScript.Proofs.Code.Reading
import StoryScript.Proofs.Code.Calls
import StoryScript.Proofs.Code.LineEnds
import StoryScript.Proofs.Compilation.Lockstep
import StoryScript.Proofs.Compilation.Cut
import StoryScript.Proofs.Compilation.Feeding
import StoryScript.Proofs.Compilation.DeadText
import StoryScript.Proofs.Compilation.Accounts
import StoryScript.Proofs.Compilation.Spacing
import StoryScript.Proofs.Compilation.Unreadable
import StoryScript.Proofs.Text.LowerCase
import StoryScript.Proofs.Compilation.Entry
import StoryScript.Proofs.Code.Classes
import StoryScript.Proofs.Disk.Agreement
import StoryScript.Proofs.CommandLine
import StoryScript.Proofs.Compilation.Blame
import StoryScript.Proofs.Program.DryRun
import StoryScript.Proofs.Compilation.Repeats
import StoryScript.Proofs.Scene.Parts
import StoryScript.Proofs.Line.Grammar
import StoryScript.Proofs.Code.Utterance
import StoryScript.Proofs.Compilation.Retry
import StoryScript.Proofs.Scene.Place
import StoryScript.Proofs.Code.Identifiers
import StoryScript.Proofs.Line.Ending
import StoryScript.Proofs.Compilation.Headings
import StoryScript.Proofs.Disk.Frame
import StoryScript.Proofs.Config.Overriding
import StoryScript.Proofs.Code.Helper
import StoryScript.Proofs.Compilation.Trace
import StoryScript.Proofs.Memory
import StoryScript.Proofs.Code.Escaping
