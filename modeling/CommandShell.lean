import CommandShell.Main
import CommandShell.Proofs.Command.Repeated
import CommandShell.Proofs.Disk.Directories
import CommandShell.Proofs.Disk.Opening
import CommandShell.Proofs.File.Alike
import CommandShell.Proofs.File.Fresh
import CommandShell.Proofs.File.Lifetime
import CommandShell.Proofs.Line.Extension
import CommandShell.Proofs.Line.Parity
import CommandShell.Proofs.Line.Parsed
import CommandShell.Proofs.Line.Writing
import CommandShell.Proofs.Path
import CommandShell.Proofs.Program.Lookup
import CommandShell.Proofs.Program.Search
import CommandShell.Proofs.Session.Arguments
import CommandShell.Proofs.Session.Captured
import CommandShell.Proofs.Session.Colour
import CommandShell.Proofs.Session.Conversation
import CommandShell.Proofs.Session.Endings
import CommandShell.Proofs.Session.Exit
import CommandShell.Proofs.Session.Frame
import CommandShell.Proofs.Session.FrontEnds
import CommandShell.Proofs.Session.Meaning
import CommandShell.Proofs.Session.Moves
import CommandShell.Proofs.Session.Outcome
import CommandShell.Proofs.Session.Plays
import CommandShell.Proofs.Session.Refused
import CommandShell.Proofs.Session.Release
import CommandShell.Proofs.Session.Routed
import CommandShell.Proofs.Session.Scripted
import CommandShell.Proofs.Session.SharedFile
import CommandShell.Proofs.Session.Survival
import CommandShell.Proofs.Session.Unstarted
import CommandShell.Proofs.Session.Untouched
import CommandShell.Proofs.Text.Utf8
