import CommandShell.Disk.Walk
import CommandShell.Sh.Number
import CommandShell.Sh.Utility.Options
import CommandShell.Sh.Variable

/-! # The working directory and the mask -/

namespace CommandShell.Sh.Utility

open Eval

/-! ## The working directory -/

/-- Paths are taken as they are on the disk, not as they were reached. -/
def isPhysical (options : List (Char × String)) : Bool := options.getLast?.any (·.1 = 'P')

def physicalPath : Eval String := do
  let s ← get
  match s.world.disk.pathOf? s.shell.cwd with
  | some path => return encoded path
  | none =>
    let reason := Errno.noEntry.text
    warn s!"getcwd() failed: {reason}"
    return ""

def goTo (physical : Bool) (path : String) : Eval Bool := do
  let s ← get
  let here := s.shell.here
  let path? := if physical || (here.isEmpty && !Path.isAbsolute path) then none
    else some (Path.simplify (Path.join here path))
  match s.world.disk.locate s.shell.cwd (pathText (path?.getD path)) with
  | .error _ => return false
  | .ok i =>
    if !s.world.disk.isDirectory i then return false
    setShell fun sh =>
      { sh with cwd := i, found := sh.found.filter fun (_, path) => Path.isAbsolute path }
    assignWith true false "OLDPWD" here
    let path ← match path? with
      | some path => pure path
      | none => physicalPath
    setShell fun sh => { sh with here := path }
    assignWith true false "PWD" path
    return true

def isFixedPath (path : String) : Bool :=
  Path.isAbsolute path ||
    match (separate '/' path).head? with
    | some name => name = "." || name = ".."
    | none => false

/-- Goes to a directory. One that is not found where it is may be in one of the directories that
`CDPATH` holds. -/
def cd (args : List String) : Eval Nat := do
  let (options, args) ← takeOptions "LP" args
  let physical := isPhysical options
  let sh ← shell
  let target := match args with
    | [] => (sh.value? "HOME").getD ""
    | "-" :: _ => (sh.value? "OLDPWD").getD ""
    | path :: _ => path
  let fixed := isFixedPath target && !target.isEmpty
  let target := if target.isEmpty then "." else target
  let directories := match sh.value? "CDPATH" with
    | some path => if fixed then [] else separate ':' path
    | none => []
  let isThere (directory : String) : Eval Bool := do
    let s ← get
    let path := if directory.isEmpty then target else directory ++ "/" ++ target
    return s.world.disk.hasDirectory s.shell.cwd (pathText path)
  let directory? ← directories.findM? isThere
  let directory := directory?.getD ""
  let path := if directory.isEmpty then target else directory ++ "/" ++ target
  if !(← goTo physical path) then fail s!"can't cd to {target}"
  if args.head? = some "-" || !directory.isEmpty then print ((← shell).here ++ "\n")
  return 0

def pwd (args : List String) : Eval Nat := do
  let (options, _) ← takeOptions "LP" args
  if isPhysical options then
    let path ← physicalPath
    assignWith true false "PWD" (← shell).here
    print (path ++ "\n")
  else print ((← shell).here ++ "\n")
  return 0

/-! ## The mask -/

def shownMask (mask : Nat) : String :=
  let rights (shift : Nat) : String :=
    String.join ([(4, "r"), (2, "w"), (1, "x")].map fun (bit, letter) =>
      if (mask >>> shift) &&& bit = 0 then letter else "")
  String.join ["u=", rights 6, ",g=", rights 3, ",o=", rights 0]

def octalMask (mask : Nat) : String :=
  let digits := Nat.toDigits 8 mask
  String.ofList (List.replicate (4 - digits.length) '0' ++ digits)

structure RightsChange where
  /-- The users, each by the lowest of their bits. -/
  users : Nat
  op : Char
  rights : Nat

def rightsOf (all : Nat) (letters : List Char) : Nat :=
  letters.foldl (fun rights c => rights ||| match c with
    | 'r' => 4
    | 'w' => 2
    | 'x' => 1
    | 'u' => all >>> 6
    | 'g' => all >>> 3
    | 'o' => all
    | 'X' => if all &&& 0o111 = 0 then 0 else 1
    | _ => 0) 0 &&& 7

def RightsChange.apply (c : RightsChange) (all : Nat) : Nat :=
  let changed := c.rights * c.users
  let kept (mask : Nat) : Nat := all - (all &&& mask)
  match c.op with
  | '-' => kept changed
  | '=' => kept (c.users * 7) ||| changed
  | _ => all ||| changed

/-- Reads changes of rights and does them one after the other. The users at hand stay the same until
a comma. -/
def changeRights (before : Nat) : Nat → Nat → Nat → List Char → Option Nat
  | 0, _, _, _ => none
  | _ + 1, _, all, [] => some all
  | fuel + 1, users, all, cs =>
    let named := cs.takeWhile "augo".toList.contains
    let users := named.foldl (fun users c => users ||| match c with
      | 'a' => 0o111
      | 'u' => 0o100
      | 'g' => 0o010
      | _ => 0o001) users
    let users := if users = 0 then 0o111 else users
    match cs.drop named.length with
    | [] => some all
    | op :: cs =>
      if !"=+-".toList.contains op then none
      else
        let letters := cs.takeWhile "rwxugoXs".toList.contains
        let all := (RightsChange.mk users op (rightsOf before letters)).apply all
        match cs.drop letters.length with
        | [] => some all
        | ',' :: cs => changeRights before fuel 0 all cs
        | c :: cs =>
          if "=+-".toList.contains c then changeRights before fuel users all (c :: cs) else none

def umask (args : List String) : Eval Nat := do
  let (options, args) ← takeOptions "S" args
  let mask := (← shell).mask
  match args with
  | [] => print ((if options.isEmpty then octalMask mask else shownMask mask) ++ "\n")
  | text :: _ =>
    let all := 0o777
    if text.toList.head?.any Char.isDigit then
      if text.toList.all fun c => '0' ≤ c && c ≤ '7' then
        setShell fun sh => { sh with mask := ofDigits 8 text.toList &&& all }
      else fail s!"Illegal number: {text}"
    else match changeRights (all - mask) (text.length + 1) 0 (all - mask) text.toList with
      | some rights => setShell fun sh => { sh with mask := all - rights }
      | none => fail s!"Illegal mode: {text}"
  return 0

end CommandShell.Sh.Utility
