import CommandShell.Session.Interactive
import CommandShell.Session.Script

/-! # The command line

What the shell is asked to do when it is started, and what it says about requests that it does not
understand. -/

/-! ## Similar texts

How much two texts have in common: their longest common stretch, and what the parts before it and
the parts after it have in common in turn. -/

namespace CommandShell.Similar

def commonStart : List Char → List Char → Nat
  | a :: as, b :: bs => if a = b then commonStart as bs + 1 else 0
  | _, _ => 0

structure Stretch where
  first : Nat := 0
  second : Nat := 0
  length : Nat := 0
  deriving DecidableEq, Repr

/-- The longest stretch that two texts share; of several, the first. -/
def longest (as bs : List Char) : Stretch :=
  (List.range as.length).foldl (fun best i =>
    (List.range bs.length).foldl (fun best j =>
      let n := commonStart (as.drop i) (bs.drop j)
      if n > best.length then ⟨i, j, n⟩ else best) best) {}

def common : Nat → List Char → List Char → Nat
  | 0, _, _ => 0
  | fuel + 1, as, bs =>
    let s := longest as bs
    if s.length = 0 then 0
    else s.length + common fuel (as.take s.first) (bs.take s.second) +
      common fuel (as.drop (s.first + s.length)) (bs.drop (s.second + s.length))

def likeness (word candidate : String) : Nat × Nat :=
  (2 * common (candidate.length + 1) candidate.toList word.toList, candidate.length + word.length)

/-- The candidates that are like a word for at least three fifths, the best three at most. -/
def near (word : String) (candidates : List String) : List String :=
  let scored := (candidates.map fun c => (likeness word c, c)).filter fun ((hits, size), _) =>
    5 * hits ≥ 3 * size
  let better : ((Nat × Nat) × String) → ((Nat × Nat) × String) → Bool :=
    fun ((h, s), c) ((h', s'), c') => h * s' > h' * s || (h * s' = h' * s && c > c')
  ((scored.mergeSort better).take 3).map (·.2)

end CommandShell.Similar

/-! ## Requests -/

namespace CommandShell.CommandLine

inductive Notice
  | version
  | help
  deriving DecidableEq, Repr

structure Request where
  line? : Option String := none
  prompt? : Option String := none
  debug : Bool := false
  /-- The first notice that is asked for. -/
  notice? : Option Notice := none
  operands : List String := []
  deriving DecidableEq, Repr

inductive Misuse
  | missingValue (option : String)
  | unwantedValue (option : String)
  | unknown (option : String) (near : List String)
  | directory (path : String)
  | extra (operands : List String)
  deriving DecidableEq, Repr

def Request.addNotice (r : Request) (n : Notice) : Request :=
  { r with notice? := r.notice? <|> some n }

def longOptions : List String := ["--version", "--prompt", "--debug", "--help"]

/-- Reads options of one letter that stand together. True when the last one still wants its
value. -/
def readLetters (r : Request) : List Char → Except Misuse (Request × Bool)
  | [] => .ok (r, false)
  | c :: rest =>
    if c = 'c' then
      if rest.isEmpty then .ok (r, true)
      else .ok ({ r with line? := some (String.ofList rest) }, false)
    else if c = 'h' then readLetters (r.addNotice .help) rest
    else .error (.unknown (String.ofList ['-', c]) [])

/-- An option that still wants its value. -/
inductive Wanted
  | prompt
  | line
  deriving DecidableEq, Repr

def Wanted.option : Wanted → String
  | prompt => "--prompt"
  | line => "-c"

def Request.give (r : Request) : Wanted → String → Request
  | .prompt, value => { r with prompt? := some value }
  | .line, value => { r with line? := some value }

def readOption (r : Request) (arg : String) : Except Misuse (Request × Option Wanted) :=
  let cs := arg.toList
  let name := String.ofList (cs.takeWhile (· ≠ '='))
  let value? := match cs.dropWhile (· ≠ '=') with
    | _ :: value => some (String.ofList value)
    | [] => none
  match name, value? with
  | "--prompt", some value => .ok (r.give .prompt value, none)
  | "--prompt", none => .ok (r, some .prompt)
  | "--version", none => .ok (r.addNotice .version, none)
  | "--help", none => .ok (r.addNotice .help, none)
  | "--debug", none => .ok ({ r with debug := true }, none)
  | _, _ =>
    if longOptions.contains name then .error (.unwantedValue name)
    else if cs.take 2 = ['-', '-'] then .error (.unknown name (Similar.near name longOptions))
    else match readLetters r cs.tail with
      | .error e => .error e
      | .ok (r, wantsLine) => .ok (r, if wantsLine then some .line else none)

def read (r : Request) : List String → Except Misuse Request
  | [] => .ok r
  | arg :: rest =>
    if arg = "--" then .ok { r with operands := r.operands ++ rest }
    else if arg.toList.head? ≠ some '-' || arg.length ≤ 1 then
      read { r with operands := r.operands ++ [arg] } rest
    else match readOption r arg with
      | .error e => .error e
      | .ok (r, none) => read r rest
      | .ok (r, some wanted) =>
        match rest with
        | value :: rest => read (r.give wanted value) rest
        | [] => .error (.missingValue wanted.option)

/-! ## What is said -/

def versionText : String := "linesh 0.1.0"

def usageText : String := "Usage: linesh [OPTIONS] [SCRIPT]\n"

def helpText : String := usageText ++ "
  linesh - a small line-oriented command interpreter

  Examples:
    linesh                      start an interactive session
    linesh -c 'echo hi > out'   run one command line
    linesh setup.sh             run a file line by line

Options:
  --version      Show the version and exit.
  -c TEXT        Execute a single command line and exit
  --prompt TEXT  Prompt shown in interactive mode (can also set via
                 LINESH_PROMPT)
  --debug        Log parsing and dispatch details to stderr
  -h, --help     Show this message and exit.
"

def Notice.text : Notice → String
  | .version => s!"linesh, version {versionText}\n"
  | .help => helpText

def Misuse.message : Misuse → String
  | missingValue option => s!"Option {Quoted.quote option} requires an argument."
  | unwantedValue option => s!"Option {Quoted.quote option} does not take a value."
  | unknown option [] => s!"No such option: {option}"
  | unknown option [near] => s!"No such option: {option} Did you mean {near}?"
  | unknown option near =>
    let listed := String.intercalate ", " (near.mergeSort (· ≤ ·))
    s!"No such option: {option} (Possible options: {listed})"
  | directory path => s!"Invalid value for '[SCRIPT]': File {Quoted.quote path} is a directory."
  | extra [operand] => s!"Got unexpected extra argument ({operand})"
  | extra operands =>
    let listed := String.intercalate " " operands
    s!"Got unexpected extra arguments ({listed})"

/-- A misuse of the value of an option is told without the usage. -/
def Misuse.showsUsage : Misuse → Bool
  | missingValue _ | unwantedValue _ => false
  | _ => true

def withoutCodes : Nat → List Char → List Char
  | 0, cs => cs
  | _ + 1, [] => []
  | fuel + 1, c :: cs =>
    let isParameter (c : Char) : Bool := c.isDigit || c = ';' || c = '?'
    match c, cs with
    | '\x1b', '[' :: code =>
      match code.dropWhile isParameter with
      | final :: rest =>
        if final.isAlpha then withoutCodes fuel rest else c :: withoutCodes fuel cs
      | [] => c :: withoutCodes fuel cs
    | _, _ => c :: withoutCodes fuel cs

def Misuse.report (e : Misuse) : String :=
  let usage := if e.showsUsage then usageText ++ "Try 'linesh -h' for help.\n\n" else ""
  let text := (usage ++ "Error: " ++ e.message ++ "\n").toList
  String.ofList (withoutCodes text.length text)

/-! ## What is done -/

def refuse (e : Misuse) : Run Int := do
  modify (·.display .err e.report)
  return 2

/-- The lines of an input, each ended by a line feed, the last one perhaps not. -/
def repliesOf (input : String) : List Reply :=
  (Newline.lines input.toList).map fun cs => .line (String.ofList cs)

def serve (r : Request) (input : String) : Run Int := do
  let settings := (Settings.ofEnvironment (← get).environment).override r.prompt? r.debug
  let sh : Session := { settings }
  match r.line?, r.operands.head? with
  | some line, _ => sh.execute line
  | none, some script =>
    if script.isEmpty then sh.interact true (repliesOf input)
    else
      let (status, report?) ← sh.runScript script
      if let some report := report? then modify (·.display .err report.message)
      return status
  | none, none => sh.interact true (repliesOf input)

def handle (r : Request) (input : String) : Run Int := do
  match r.notice? with
  | some notice =>
    modify (·.display .out notice.text)
    return 0
  | none =>
    let m ← get
    match r.operands with
    | [] => serve r input
    | script :: extra =>
      if !Disk.isPathText script then Run.fail .nullByte
      else if m.disk.hasDirectory m.cwd script then refuse (.directory script)
      else if !extra.isEmpty then refuse (.extra extra)
      else serve r input

def readsInput (args : List String) : Bool :=
  match read {} args with
  | .error _ => false
  | .ok r => r.notice?.isNone && r.line?.isNone && (r.operands.headD "").isEmpty

def run (args : List String) (input : String) : Run Int :=
  match read {} args with
  | .error e => refuse e
  | .ok r => handle r input

end CommandShell.CommandLine
