import CommandShell.Sh.Descriptor

/-! # Options of utilities

Letters behind a minus sign, in front of the other arguments. -/

namespace CommandShell.Sh

namespace Utility

def takesArgument? (c : Char) : List Char → Option Bool
  | [] => none
  | k :: ':' :: known => if k = c then some true else takesArgument? c known
  | k :: known => if k = c then some false else takesArgument? c known

/-- The options of one argument. The last letter may take the next argument. -/
def letterOptions (known : String) :
    List Char → Eval (List (Char × String) × Option Char)
  | [] => return ([], none)
  | c :: cs => do
    match takesArgument? c known.toList with
    | none => Eval.fail s!"Illegal option -{c}"
    | some true =>
      if cs.isEmpty then return ([], some c) else return ([(c, String.ofList cs)], none)
    | some false =>
      let (options, open?) ← letterOptions known cs
      return ((c, "") :: options, open?)

def takeOptions (known : String) : List String → Eval (List (Char × String) × List String)
  | [] => return ([], [])
  | arg :: rest => do
    match arg.toList with
    | ['-', '-'] => return ([], rest)
    | '-' :: c :: cs =>
      let (options, open?) ← letterOptions known (c :: cs)
      match open?, rest with
      | none, rest =>
        let (more, rest) ← takeOptions known rest
        return (options ++ more, rest)
      | some c, value :: rest =>
        let (more, rest) ← takeOptions known rest
        return (options ++ (c, value) :: more, rest)
      | some c, [] => Eval.fail s!"No arg for -{c} option"
    | _ => return ([], arg :: rest)

def operands (args : List String) : Eval (List String) := do return (← takeOptions "" args).2

end Utility

end CommandShell.Sh
