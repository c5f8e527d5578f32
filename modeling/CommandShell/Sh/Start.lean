import CommandShell.Sh.Process
import CommandShell.Sh.Search
import CommandShell.Sh.Utility.Variables

/-! # Starting the shell

The shell as a program: it runs the text after `-c`, or the script that it is given, or what its
input holds. -/

namespace CommandShell.Sh

def image : Bytes := Utf8.encode "\x7fELF sh"

/-! ## Arguments -/

structure Switches where
  settings : List Setting := []
  /-- The script is the text of the next argument. -/
  isText : Bool := false

def readLetters (on : Bool) (s : Switches) (rest : List String) :
    List Char → Except String (Switches × List String)
  | [] => .ok (s, rest)
  | c :: cs =>
    let switched (setting : Setting) : Switches :=
      { s with settings := (if on then [setting] else []) ++ s.settings.filter (· ≠ setting) }
    match c with
    | 'c' => readLetters on { s with isText := true } rest cs
    | 'l' => readLetters on s rest cs
    | 'o' =>
      match rest with
      | [] => readLetters on s [] cs
      | name :: rest =>
        match Setting.ofName? name with
        | some setting => readLetters on (switched setting) rest cs
        | none => .error s!"Illegal option -o {name}"
    | c =>
      match Setting.ofLetter? c with
      | some setting => readLetters on (switched setting) rest cs
      | none => .error s!"Illegal option -{c}"

def readSwitches : Nat → Switches → List String → Except String (Switches × List String)
  | 0, s, args => .ok (s, args)
  | _ + 1, s, [] => .ok (s, [])
  | fuel + 1, s, arg :: rest =>
    match arg.toList with
    | ['-'] | ['-', '-'] => .ok (s, rest)
    | sign :: letters =>
      if sign = '-' || sign = '+' then
        match readLetters (sign = '-') s rest letters with
        | .error message => .error message
        | .ok (s, rest) => readSwitches fuel s rest
      else .ok (s, arg :: rest)
    | [] => .ok (s, arg :: rest)

/-! ## Variables -/

def firstVariables (parent : Nat) : List (String × String) :=
  [("IFS", defaultSeparators), ("OPTIND", "1"), ("PATH", defaultPath), ("PPID", toString parent),
   ("PS1", "# "), ("PS2", "> "), ("PS4", "+ ")]

def ownVariables : List String := ["IFS", "OPTIND", "PPID"]

def startVariables (environment : List (String × String)) (parent : Nat) :
    List (String × Variable) :=
  let own := (firstVariables parent).map fun (name, value) =>
    (name, ({ value? := some value } : Variable))
  environment.foldl (fun values (name, value) =>
    if !isName name then values
    else
      let value? := if ownVariables.contains name then (values.lookup name).bind (·.value?)
        else some value
      (name, { value?, exported := true }) :: values.filter (·.1 ≠ name)) own.reverse

/-! ## The program -/

namespace Eval

def findHere : Eval Unit := do
  let s ← get
  let d := s.world.disk
  let told? := ((s.shell.value? "PWD").filter Path.isAbsolute).filter fun path =>
    match d.locate s.shell.cwd (pathText path) with
    | .ok i => i = s.shell.cwd
    | .error _ => false
  let here ← match told? with
    | some path => pure path
    | none =>
      match d.pathOf? s.shell.cwd with
      | some path => pure (encoded path)
      | none =>
        let reason := Errno.noEntry.text
        tell s!"sh: 0: getcwd() failed: {reason}\n"
        pure ""
  setShell fun sh => { sh with here }
  assignWith true false "PWD" here

/-- The first descriptor that no script can name. -/
def firstHidden : Nat := 10

def openScript (path : String) : Eval Nat := do
  let channel ← openFile .read path
  let used := (← shell).descriptors.map (·.1)
  let free? := ((List.range (used.length + 1)).map (· + firstHidden)).find? (!used.contains ·)
  let d := free?.getD firstHidden
  point d channel
  return d

def runArguments (run : Runner) (args : List String) : Eval Unit := do
  match readSwitches (args.length + 1) {} args with
  | .error message => fail message
  | .ok (switches, rest) =>
    let fromInput := rest.isEmpty || switches.settings.contains .fromInput
    if switches.isText && rest.isEmpty then fail "-c requires an argument"
    setShell fun sh =>
      { sh with
        settings := (if rest.isEmpty then [.fromInput] else []) ++
          switches.settings.filter (!rest.isEmpty || · ≠ .fromInput) }
    let runInput (d : Nat) : Eval Unit := do
      let _ ← runFile run d
    if switches.isText then
      setShell fun sh => { sh with name := rest[1]?.getD sh.name, arguments := rest.drop 2 }
      Utility.refuseJobControl
      let _ ← runText run { last := !fromInput } (rest.headD "")
      if fromInput && (← shell).skip?.isNone then runInput 0
    else if fromInput then
      setShell fun sh => { sh with arguments := rest }
      Utility.refuseJobControl
      runInput 0
    else
      let file := rest.headD ""
      let d ← openScript file
      setShell fun sh => { sh with name := file, arguments := rest.drop 1 }
      Utility.refuseJobControl
      runInput d

def startShell (run : Runner) (environment : List (String × String)) (argv : List String) :
    Eval Int := do
  let sh ← shell
  setShell fun _ =>
    { name := argv.headD "sh"
      process := sh.process
      root := sh.process
      parent := sh.parent
      arguments := []
      values := startVariables environment sh.parent
      ignored := (sh.traps.filter (·.2.isEmpty)).map (·.1) ++ sh.ignored
      descriptors := sh.descriptors.filter (·.1 < firstHidden)
      cwd := sh.cwd
      mask := sh.mask }
  let result : Except Stop Unit ← observing (do
    findHere
    runArguments run (argv.drop 1))
  finish run result

/-- Becomes the program at the first of several paths that can be run. A file that is no image and
names no interpreter is a script of the shell, if it looks like a text. -/
def become {α : Type} (run : Runner) (argv : List String) (paths : List String) : Eval α := do
  let s ← get
  let environment := s.shell.environment
  let path (text : String) : Except Errno (List String) :=
    match s.world.disk.imageUnless (argumentError? (argv.map pathText)) (· = image) s.shell.cwd
      (pathText text) with
    | .ok (_, []) => .ok argv
    | .ok (_, before) => .ok (before.map encoded ++ argv.drop 1)
    | .error e =>
      if e = .notExecutable && s.world.disk.isText s.shell.cwd (pathText text) then
        .ok ("/bin/sh" :: text :: argv.drop 1)
      else .error e
  let rec go (e : Errno) : List String → Eval α
    | [] => do
      let status := if [Errno.noEntry, .notDirectory, .tooManyLinks, .nameTooLong].contains e then 127
        else 126
      let name := argv.headD ""
      let reason := commandError e
      stopWith .ended status s!"{name}: {reason}"
    | text :: rest => do
      match path text with
      | .ok argv =>
        let ended ← startShell run environment argv
        throw (.replaced ended)
      | .error reason => go (if reason = .noEntry || reason = .notDirectory then e else reason) rest
  go .noEntry paths

end Eval

end CommandShell.Sh
