import CommandShell.Line.Word
import CommandShell.Session

/-! # Interactive sessions -/

namespace CommandShell

inductive Reply
  | line (text : String)
  | interrupt
  | undecodable (reason : String)
  | endOfInput
  deriving DecidableEq, Repr

namespace Session

def prompt (sh : Session) (echoes : Bool) : Run Unit := modify fun m =>
  let m := { m with prompts := m.prompts.push sh.settings.prompt }
  if echoes then m.display .out sh.settings.prompt else m

def newline : Run Unit := modify (·.display .out "\n")

/-- Runs a line of the user. An interrupt ends the line and not the session. -/
def answer (sh : Session) (line : String) : Run Unit := do
  let line := strip line
  if line.isEmpty then return
  try discard <| sh.execute line
  catch
    | .interrupt _ => newline
    | escape => throw escape

def interact (sh : Session) (echoes : Bool) : List Reply → Run Int
  | [] => do
    sh.prompt echoes
    newline
    return 0
  | reply :: rest => do
    sh.prompt echoes
    match reply with
    | .endOfInput =>
      newline
      return 0
    | .interrupt =>
      newline
      interact sh echoes rest
    | .undecodable reason =>
      Run.complain s!"linesh: cannot decode input: {reason}\n"
      interact sh echoes rest
    | .line text =>
      sh.answer text
      interact sh echoes rest

end Session

end CommandShell
