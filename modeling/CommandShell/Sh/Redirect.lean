import CommandShell.Sh.Expansion

/-! # Redirecting

Descriptors are pointed to other places for as long as a command runs. -/

namespace CommandShell.Sh

inductive Target
  | file (opening : Opening) (path : String)
  | copy (source : Nat)
  | closed
  | document (index : Nat) (expands : Bool)
  deriving DecidableEq, Repr

namespace Eval

def namedTarget (text : String) : Eval Target :=
  match text.toList with
  | ['-'] => return .closed
  | [c] => if c.isDigit then return .copy (c.toNat - '0'.toNat) else refuseText "Bad fd number"
  | _ => refuseText "Bad fd number"

def target (capture : Option Node → Eval String) : Redirection → Eval (Nat × Target)
  | .file d opening name => return (d, .file opening (← expandText capture {} name))
  | .copy d source => return (d, .copy source)
  | .close d => return (d, .closed)
  | .computed d source => do
    let text ← expandText capture {} source
    return (d, ← namedTarget text)
  | .document d index expands => return (d, .document index expands)

def pointTo (capture : Option Node → Eval String) (d : Nat) : Target → Eval Unit
  | .file opening path => do
    let channel ← openFile opening path
    point d channel
  | .copy source => do
    if source ≠ d then
      match (← shell).descriptors.lookup source with
      | some channel => point d channel
      | none =>
        let reason := badDescriptor.text
        fail s!"{source}: {reason}"
  | .closed => close d
  | .document index expands => do
    let w := (← shell).documents.getD index []
    let text ← if expands then expandText capture { quoted := true } w else pure w.unquoted
    let (input, _) ← addPipe text
    point d input

/-- Points descriptors to their targets, one after the other. An error leaves a status behind. -/
def redirect (capture : Option Node → Eval String) (targets : List (Nat × Target)) :
    Eval Nat := do
  let result : Except Stop Unit ← observing (targets.forM fun (d, t) => pointTo capture d t)
  match result with
  | .ok () => return 0
  | .error .error => return 2
  | .error how => throw how

def pointBack (before : List (Nat × Nat)) (targets : List (Nat × Target)) : Eval Unit :=
  setShell fun sh =>
    let isTouched (d : Nat × Nat) : Bool := targets.any (·.1 = d.1)
    { sh with
      descriptors := before.filter isTouched ++ sh.descriptors.filter (!isTouched ·) }

def pointingBack {α : Type} (targets : List (Nat × Target)) (body : Eval α) : Eval α := do
  let before := (← shell).descriptors
  let result : Except Stop α ← observing body
  pointBack before targets
  MonadExcept.ofExcept result

end Eval

end CommandShell.Sh
