import CommandShell.Sh.Search
import CommandShell.Sh.Token
import CommandShell.Sh.Utility.Options

/-! # Names of commands

Aliases, what names of commands stand for, and where programs were found. -/

namespace CommandShell.Sh.Utility

open Eval

def tablePlace (size : Nat) (name : String) : Nat :=
  let codes := name.toList.map Char.toNat
  ((codes.headD 0) * 16 + codes.foldl (· + ·) 0) % size

/-- Entries in the order in which a table of some size shows them. -/
def inTableOrder {α : Type} (size : Nat) (entries : List (String × α)) : List (String × α) :=
  (List.range size).flatMap fun place => entries.filter fun (name, _) => tablePlace size name = place

/-! ## Aliases -/

def aliasTableSize : Nat := 39

def showAlias (name value : String) : Eval Unit := print (name ++ "=" ++ quoteSingle value ++ "\n")

def setAliases (args : List String) : Eval Nat := do
  if args.isEmpty then
    for (name, value) in inTableOrder aliasTableSize (← shell).aliases do showAlias name value
  let mut status := 0
  for text in args do
    let first := text.toList.take 1
    let name := first ++ (text.toList.drop 1).takeWhile (· ≠ '=')
    match text.toList.drop name.length with
    | _ :: value =>
      let name := String.ofList name
      let value := String.ofList value
      setShell fun sh =>
        let aliases := if (sh.aliases.lookup name).isSome then
            sh.aliases.map fun (n, v) => (n, if n = name then value else v)
          else sh.aliases ++ [(name, value)]
        { sh with aliases }
    | [] =>
      match (← shell).aliases.lookup text with
      | some value => showAlias text value
      | none =>
        tell s!"alias: {text} not found\n"
        status := 1
  return status

def unalias (args : List String) : Eval Nat := do
  let (options, names) ← takeOptions "a" args
  if !options.isEmpty then
    setShell fun sh => { sh with aliases := [] }
    return 0
  let mut status := 0
  for name in names do
    if ((← shell).aliases.lookup name).isSome then
      setShell fun sh => { sh with aliases := sh.aliases.filter (·.1 ≠ name) }
    else
      tell s!"unalias: {name} not found\n"
      status := 1
  return status

/-! ## Meanings -/

def describe (sentence : Bool) (otherPath? : Option String) (name : String) : Eval Nat := do
  let sh ← shell
  let answer (long short : String) : Eval Nat := do
    print ((if sentence then name ++ long else short) ++ "\n")
    return 0
  if (Token.reserved.lookup name).isSome then answer " is a shell keyword" name
  else match sh.aliases.lookup name with
    | some value =>
      answer (" is an alias for " ++ value) ("alias " ++ name ++ "=" ++ quoteSingle value)
    | none =>
      let wasFound := otherPath?.isNone && (sh.found.lookup name).isSome
      match ← lookUp true otherPath? name with
      | .function _ => answer " is a shell function" name
      | .utility =>
        let kind := if specialUtilities.contains name then "special " else ""
        answer (" is a " ++ kind ++ "shell builtin") name
      | .program (path :: _) =>
        let isThere := ((← get).world.disk.locate sh.cwd (pathText path)).isOk
        if !name.toList.contains '/' || isThere then
          answer ((if wasFound then " is a tracked alias for " else " is ") ++ path) path
        else missing
      | _ => missing
where
  missing : Eval Nat := do
    if sentence then print (name ++ ": not found\n")
    return 127

def type (args : List String) : Eval Nat := do
  let mut status := 0
  for name in args do
    let s ← describe true none name
    status := if s = 0 then status else s
  return status

def command (args : List String) : Eval Nat := do
  let (options, names) ← takeOptions "pvV" args
  let letters := options.map (·.1)
  let path? := if letters.contains 'p' then some defaultPath else none
  match names with
  | name :: _ =>
    if letters.contains 'V' then describe true path? name
    else if letters.contains 'v' then describe false path? name
    else return 0
  | [] => return 0

/-! ## Places of programs -/

def programTableSize : Nat := 31

def hash (args : List String) : Eval Nat := do
  let (options, names) ← takeOptions "r" args
  if !options.isEmpty then
    setShell fun sh => { sh with found := [] }
    return 0
  if names.isEmpty then
    for (_, path) in inTableOrder programTableSize (← shell).found do print (path ++ "\n")
  let mut status := 0
  for name in names do
    forget name
    if let .nothing e ← lookUp true none name then
      let reason := commandError e
      warn s!"{name}: {reason}"
      status := 1
  return status

end CommandShell.Sh.Utility
