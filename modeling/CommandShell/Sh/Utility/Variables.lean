import CommandShell.Sh.Field
import CommandShell.Sh.Source
import CommandShell.Sh.Utility.Options
import CommandShell.Sh.Variable

/-! # Variables, parameters and options -/

namespace CommandShell.Sh.Utility

open Eval

def nameOf (text : String) : String := String.ofList (text.toList.takeWhile (· ≠ '='))

def valueOf? (text : String) : Option String :=
  match text.toList.dropWhile (· ≠ '=') with
  | _ :: value => some (String.ofList value)
  | [] => none

/-! ## Marks of variables -/

def mark (lead : String) (exported readOnly : Bool) (args : List String) : Eval Nat := do
  let (options, names) ← takeOptions "p" args
  if names.isEmpty || !options.isEmpty then
    showVariables (lead ++ " ") fun v => (exported && v.exported) || (readOnly && v.readOnly)
  else
    for text in names do
      let name := nameOf text
      match valueOf? text with
      | some value =>
        checkName name
        assignWith exported readOnly name value
      | none =>
        let sh ← shell
        if (sh.find? name).isNone then checkName name
        let v := (sh.find? name).getD {}
        let v : Variable :=
          { v with exported := v.exported || exported, readOnly := v.readOnly || readOnly }
        setShell (·.setVariable name v)
  return 0

def localVariables (args : List String) : Eval Nat := do
  if (← shell).locals.isEmpty then fail "not in a function"
  args.forM (makeLocal false)
  return 0

def unsetNames (args : List String) : Eval Nat := do
  let (options, names) ← takeOptions "vf" args
  let areFunctions := options.getLast?.any (·.1 = 'f')
  for name in names do
    if areFunctions then
      setShell fun sh => { sh with functions := sh.functions.filter (·.1 ≠ name) }
    else unset (nameOf name)
  return 0

/-! ## Options of the shell -/

def switch (s : Setting) (on : Bool) : Eval Unit := setShell fun sh =>
  let others := sh.settings.filter fun t =>
    t ≠ s && !(on && ((s = .viEditing && t = .emacsEditing) ||
      (s = .emacsEditing && t = .viEditing)))
  { sh with settings := if on then s :: others else others }

def showSettings (on : Bool) : Eval Unit := do
  let sh ← shell
  if on then print "Current option settings\n"
  for (s, name, _) in Setting.table do
    let isOn := sh.isOn s
    if on then
      let padded := name ++ String.ofList (List.replicate (16 - name.length) ' ')
      print (padded ++ (if isOn then "on" else "off") ++ "\n")
    else print ("set " ++ (if isOn then "-o " else "+o ") ++ name ++ "\n")

/-- Switches the options of the letters of an argument. One letter stands for the name in the next
argument, which may be missing. The arguments behind are left. -/
def switchLetters (on : Bool) : List Char → List String → Eval (List String)
  | [], rest => return rest
  | 'o' :: cs, rest => do
    match rest with
    | [] => showSettings on
    | name :: _ =>
      match Setting.ofName? name with
      | some s => setShell fun sh =>
          { sh with settings := (if on then [s] else []) ++ sh.settings.filter (· ≠ s) }
      | none => fail s!"Illegal option -o {name}"
    switchLetters on cs (rest.drop 1)
  | c :: cs, rest => do
    match Setting.ofLetter? c with
    | some s => switch s on
    | none => fail s!"Illegal option -{c}"
    switchLetters on cs rest

def switchAll : Nat → List String → Eval (Option (List String))
  | 0, _ => return none
  | _ + 1, [] => return none
  | fuel + 1, arg :: rest => do
    match arg.toList with
    | ['-'] =>
      switch .trace false
      switch .showInput false
      return if rest.isEmpty then none else some rest
    | ['-', '-'] => return some rest
    | '-' :: cs => switchAll fuel (← switchLetters true cs rest)
    | '+' :: cs => switchAll fuel (← switchLetters false cs rest)
    | _ => return some (arg :: rest)

def refuseJobControl : Eval Unit := do
  if (← shell).isOn .jobControl then
    warn "can't access tty; job control turned off"
    switch .jobControl false

def set (args : List String) : Eval Nat := do
  if args.isEmpty then showVariables "" (·.value?.isSome)
  else
    let parameters? ← switchAll (args.length + 1) args
    refuseJobControl
    if let some arguments := parameters? then
      setShell fun sh => { sh with arguments, optionPlace := {} }
  return 0

/-! ## Parameters -/

def shift (args : List String) : Eval Nat := do
  let count ← match args with
    | [] => pure 1
    | text :: _ => number text
  if (← shell).arguments.length < count then fail "can't shift that many"
  setShell fun sh => { sh with arguments := sh.arguments.drop count, optionPlace := {} }
  return 0

structure ParameterOption where
  /-- The letter, or a sign for what is wrong. -/
  letter : Char
  /-- The value that the variable for arguments gets, if its value changes. -/
  argument? : Option (Option String) := none
  message? : Option String := none
  place : OptionPlace
  atEnd : Bool := false

/-- The next option among words. The options that are known may start with a colon, so that nothing
is said of those that are not. -/
def nextOption (known : List Char) (words : Array String) (place : OptionPlace) :
    ParameterOption :=
  let isQuiet := known.head? = some ':'
  let wordAt (i : Nat) : List Char := ((words[i]?).getD "").toList
  /- The rest of the word that was begun, and the place of the next word. -/
  let begun : List Char := match place.offset? with
    | some offset => if place.index ≤ 1 then [] else (wordAt (place.index - 2)).drop offset
    | none => []
  let next := place.index - 1
  let letters := if begun.isEmpty then (wordAt next).drop 1 else begun
  let isOption := !begun.isEmpty || (wordAt next).head? = some '-'
  let next := if begun.isEmpty then next + 1 else next
  let refuse (c : Char) (sign : Char) (message : String) (next : Nat) (left : List Char) :
      ParameterOption :=
    { letter := if isQuiet then sign else '?'
      argument? := some (if isQuiet then some c.toString else none)
      message? := if isQuiet then none else some message
      place := { index := next + 1, offset? := offset next left } }
  match letters, isOption with
  | c :: rest, true =>
    if c = '-' && rest.isEmpty && begun.isEmpty then
      { letter := '?', place := { index := next + 1 }, atEnd := true }
    else match takesArgument? c known with
      | none => refuse c '?' s!"Illegal option -{c}\n" next rest
      | some false =>
        { letter := c, argument? := some (some "")
          place := { index := next + 1, offset? := offset next rest } }
      | some true =>
        if !rest.isEmpty then
          { letter := c, argument? := some (some (String.ofList rest))
            place := { index := next + 1 } }
        else match words[next]? with
          | none => refuse c ':' s!"No arg for -{c} option\n" next rest
          | some value =>
            { letter := c, argument? := some (some value), place := { index := next + 2 } }
  | _, _ => { letter := '?', place := { index := place.index }, atEnd := true }
where
  /-- The place in the word before the next one at which letters are left. -/
  offset (next : Nat) (left : List Char) : Option Nat :=
    some (((words[next - 1]?).getD "").length - left.length)

def getopts (args : List String) : Eval Nat := do
  match ← operands args with
  | known :: name :: words =>
    let sh ← shell
    let words := if words.isEmpty then sh.arguments else words
    let place := if words.length + 1 < sh.optionPlace.index then {} else sh.optionPlace
    let found := nextOption known.toList words.toArray place
    if let some argument? := found.argument? then
      match argument? with
      | some value => assign "OPTARG" value
      | none =>
        tell (found.message?.getD "")
        unset "OPTARG"
    assign "OPTIND" (toString found.place.index)
    assignChecked name found.letter.toString
    setShell fun sh => { sh with optionPlace := found.place }
    return if found.atEnd then 1 else 0
  | _ => fail "Usage: getopts optstring var [arg...]"

/-! ## Reading -/

/-- A line as stretches, and whether another line is joined to it. Characters behind a backslash are
no separators, unless backslashes have no meaning. -/
def readStretches (raw : Bool) (run : String) (found : Array Stretch) :
    List Char → Array Stretch × Bool
  | [] | '\n' :: _ => (found.push ⟨run, false, .separators⟩, false)
  | '\\' :: cs =>
    if raw then readStretches raw (run.push '\\') found cs
    else
      let found := found.push ⟨run, false, .separators⟩
      match cs with
      | [] => (found, false)
      | '\n' :: _ => (found, true)
      | c :: cs => readStretches raw "" (found.push ⟨c.toString, false, .nowhere⟩) cs
  | c :: cs => readStretches raw (if c = '\x00' then run else run.push c) found cs

def readJoined (raw : Bool) : Eval (Array Stretch × Bool) :=
  iterate .exhausted (fun found => do
    let line ← match ← readLine 0 with
      | .ok cs => pure cs
      | .error _ => pure []
    let (found, joined) := readStretches raw "" found line
    if joined then return .inl found
    else return .inr (found, line.getLast? = some '\n')) turns #[]

def read (args : List String) : Eval Nat := do
  let (options, names) ← takeOptions "p:r" args
  if names.isEmpty then fail "arg count"
  let (stretches, hasEnd) ← readJoined (options.any (·.1 = 'r'))
  let fields := divide (← shell).separators (some names.length) stretches
  for (name, i) in names.zipIdx do
    assignChecked name (Stretch.join ((fields[i]?).getD #[]))
  return if hasEnd then 0 else 1

end CommandShell.Sh.Utility
