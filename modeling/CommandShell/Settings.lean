import CommandShell.Text.Quoted

/-! # Settings

The prompt and the wish for debug records, from the environment and the command line. -/

namespace CommandShell

structure Environment where
  bindings : List (String × String) := []
  deriving DecidableEq, Repr

namespace Environment

def get? (e : Environment) (name : String) : Option String := e.bindings.lookup name

def getD (e : Environment) (name fallback : String) : String := (e.get? name).getD fallback

def unset (e : Environment) (name : String) : Environment :=
  ⟨e.bindings.filter (·.1 ≠ name)⟩

def set (e : Environment) (name value : String) : Environment :=
  ⟨(e.unset name).bindings ++ [(name, value)]⟩

end Environment

structure Settings where
  prompt : String := "$ "
  debug : Bool := false
  deriving DecidableEq, Repr

namespace Settings

def isOn (word : String) : Bool := ["1", "true", "yes", "on"].contains (word.map Char.toLower)

def ofEnvironment (e : Environment) : Settings where
  prompt := e.getD "LINESH_PROMPT" "$ "
  debug := isOn (e.getD "LINESH_DEBUG" "")

/-- A prompt that is given wins; the debug flag can only switch on. -/
def override (s : Settings) (prompt? : Option String) (debug : Bool) : Settings where
  prompt := prompt?.getD s.prompt
  debug := s.debug || debug

def describe (s : Settings) : String :=
  let debug := if s.debug then "True" else "False"
  s!"Config(prompt={Quoted.quote s.prompt}, debug={debug})"

end Settings

end CommandShell
