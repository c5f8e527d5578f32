/-! # Signals

Their numbers, names and descriptions. Number 0 stands for the end of a script. -/

namespace CommandShell.Sh

abbrev Signal := Nat

namespace Signal

def interrupt : Signal := 2
def quit : Signal := 3
def arithmetic : Signal := 8
def kill : Signal := 9
def segmentation : Signal := 11
def pipe : Signal := 13
def terminate : Signal := 15
def child : Signal := 17

def firstNames : List String :=
  ["EXIT", "HUP", "INT", "QUIT", "ILL", "TRAP", "ABRT", "BUS", "FPE", "KILL", "USR1", "SEGV",
   "USR2", "PIPE", "ALRM", "TERM", "16", "CHLD", "CONT", "STOP", "TSTP", "TTIN", "TTOU",
   "URG", "XCPU", "XFSZ", "VTALRM", "PROF", "WINCH", "IO", "PWR", "SYS", "32", "33"]

def names : List String :=
  firstNames ++ ["RTMIN"] ++ (List.range 15).map (fun n => "RTMIN+" ++ toString (n + 1)) ++
    (List.range 14).map (fun n => "RTMAX-" ++ toString (14 - n)) ++ ["RTMAX"]

def limit : Nat := 65

def name (s : Signal) : String := names.getD s ""

def ofText? (first : Signal) (text : String) : Option Signal :=
  let cs := text.toList
  if !cs.isEmpty && cs.all Char.isDigit then
    text.toNat?.filter (· < limit)
  else
    (names.findIdx? (· = text.toUpper)).filter (first ≤ ·)

/-- The signals that nobody dies from who does not care about them. -/
def isHarmless (s : Signal) : Bool := [0, 17, 18, 19, 20, 21, 22, 23, 28].contains s

def description (s : Signal) : String :=
  let first :=
    ["", "Hangup", "Interrupt", "Quit", "Illegal instruction", "Trace/breakpoint trap", "Aborted",
     "Bus error", "Floating point exception", "Killed", "User defined signal 1",
     "Segmentation fault", "User defined signal 2", "Broken pipe", "Alarm clock", "Terminated",
     "Stack fault", "Child exited", "Continued", "Stopped (signal)", "Stopped",
     "Stopped (tty input)", "Stopped (tty output)", "Urgent I/O condition",
     "CPU time limit exceeded", "File size limit exceeded", "Virtual timer expired",
     "Profiling timer expired", "Window changed", "I/O possible", "Power failure",
     "Bad system call"]
  if s < first.length then first.getD s ""
  else if s < 34 then "Unknown signal " ++ toString s
  else "Real-time signal " ++ toString (s - 34)

def isSilent (s : Signal) : Bool := s = interrupt || s = pipe

end Signal

end CommandShell.Sh
