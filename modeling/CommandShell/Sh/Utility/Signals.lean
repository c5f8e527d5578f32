import CommandShell.Sh.Process
import CommandShell.Sh.Utility.Options
import CommandShell.Sh.Variable

/-! # Signals and jobs -/

namespace CommandShell.Sh.Utility

open Eval

/-! ## Signals -/

def trap (args : List String) : Eval Nat := do
  match ← operands args with
  | [] =>
    let sh ← shell
    for s in List.range Signal.limit do
      if let some action := sh.traps.lookup s then
        let action := quoteSingle action
        let name := Signal.name s
        print s!"trap -- {action} {name}\n"
    return 0
  | first :: rest =>
    let isNumber := !first.isEmpty && first.toList.all Char.isDigit && (Signal.ofText? 0 first).isSome
    let hasAction := !rest.isEmpty && !isNumber
    let action? := if hasAction && first ≠ "-" then some first else none
    let rec go : List String → Eval Nat
      | [] => return 0
      | text :: rest => do
        match Signal.ofText? 0 text with
        | none =>
          tell s!"trap: {text}: bad trap\n"
          return 1
        | some s =>
          setShell fun sh =>
            { sh with
              traps := (action?.map (s, ·)).toList ++ sh.traps.filter (·.1 ≠ s) }
          go rest
    go (if hasAction then rest else first :: rest)

def killUsage : String :=
  "Usage: kill [-s sigspec | -signum | -sigspec] [pid | job]... or\nkill -l [exitstatus]"

def jobOf (text? : Option String) : Eval Job := do
  let jobs := (← shell).jobs.reverse
  let refuse (message : String) : Eval Job := fail message
  let missing (message : String) : Option Job → Eval Job
    | some job => return job
    | none => fail message
  match text? with
  | none => missing "No current job" jobs.head?
  | some text =>
    match text.toList with
    | ['%'] | ['%', '+'] | ['%', '%'] => missing "No current job" jobs.head?
    | ['%', '-'] => missing "No previous job" jobs[1]?
    | '%' :: cs =>
      let number? := if !cs.isEmpty && cs.all Char.isDigit then some (ofDigits 10 cs) else none
      match jobs.find? (some ·.number = number?), jobs with
      | some job, _ => return job
      | none, [] => refuse s!"No such job: {text}"
      | none, jobs =>
        if number?.any fun n => jobs.any (n ≤ ·.number) then refuse s!"No such job: {text}"
        else if cs.isEmpty || cs = ['?'] then
          match jobs with
          | [job] => return job
          | _ => refuse s!"{text}: ambiguous"
        else refuse s!"No such job: {text}"
    | _ => refuse s!"No such job: {text}"

def send (s : Signal) (process : Nat) : Eval Bool := do
  let sh ← shell
  let w ← world
  if process = sh.process || process = 0 then
    receive s
    return true
  else if process = sh.root || process = sh.parent || w.deferred.any (·.process = process) then
    setWorld fun w => { w with sent := (process, s) :: w.sent }
    return true
  else return false

def kill (args : List String) : Eval Nat := do
  if args.isEmpty then fail killUsage
  let spec := (args.headD "").toList
  let given? := if spec.head? = some '-' then Signal.ofText? 1 (String.ofList (spec.drop 1)) else none
  let (options, rest) ← match given?, spec with
    | some _, _ => pure ([], args.drop 1)
    | none, '-' :: _ => takeOptions "ls:" args
    | _, _ => pure ([], args)
  let lists := options.any (·.1 = 'l')
  let named? ← options.foldlM (fun named? (c, value) => do
    if c ≠ 's' then return named?
    match Signal.ofText? 1 value with
    | some s => return some s
    | none => fail s!"invalid signal number or name: {value}") given?
  let signal? := if lists then named? else some (named?.getD Signal.terminate)
  if (signal?.isNone || rest.isEmpty) ≠ lists then fail killUsage
  if lists then
    match rest with
    | [] => print (String.join ("0\n" :: (Signal.names.drop 1).map (· ++ "\n")))
    | text :: _ =>
      let n ← number text
      let s := if 128 < n then n - 128 else n
      if 0 < s && s < Signal.limit then print (Signal.name s ++ "\n")
      else fail s!"invalid signal number or exit status: {text}"
    return 0
  let mut status := 0
  for text in rest do
    let reached ← match text.toList with
      | '%' :: _ => do
        let _ ← jobOf (some text)
        pure false
      | '-' :: group => do
        let _ ← number (String.ofList group)
        pure false
      | _ => do send (signal?.getD Signal.terminate) (← number text)
    if !reached then
      warn "No such process\n"
      status := 1
  return status

/-! ## Jobs -/

/-- Waits for a job, and yields the status that stands for its end. How it died is told when it was
waited for. -/
def waitFor (run : Runner) (process : Nat) : Eval Nat := do
  let before := (← world).ended.lookup process
  runDeferred run
  let ended := ((← world).ended.lookup process).getD 0
  if before.isNone then tellDeath ended
  setShell fun sh =>
    { sh with jobs := sh.jobs.map fun j => if j.process = process then { j with waited := true } else j }
  return statusOf ended

def interrupted? : Eval (Option Nat) := do
  receiveSent
  return (← shell).pending.head?.map (128 + ·)

def wait (run : Runner) (args : List String) : Eval Nat := do
  match ← operands args with
  | [] =>
    runDeferred run
    setShell fun sh => { sh with jobs := sh.jobs.map ({ · with waited := true }) }
    return (← interrupted?).getD 0
  | args =>
    let rec go (status : Nat) : List String → Eval Nat
      | [] => return status
      | text :: rest => do
        let job? ← if text.startsWith "%" then some <$> jobOf (some text)
          else do
            let process ← number text
            pure ((← shell).jobs.find? (·.process = process))
        match job? with
        | none => go status rest
        | some job =>
          let status ← waitFor run job.process
          match ← interrupted? with
          | some status => return status
          | none => go status rest
    go 127 args

def jobLine (ended? : Option Int) (mark : Char) (job : Job) : String :=
  let state := match ended? with
    | none => "Running"
    | some ended =>
      if ended < 0 then Signal.description (-ended).toNat
      else if ended = 0 then "Done"
      else s!"Done({ended})"
  let text := s!"[{job.number}] {mark} {state} "
  text ++ String.ofList (List.replicate (33 - text.length) ' ') ++ "\n"

/-- Shows jobs. Those that have ended are shown once. -/
def jobs (args : List String) : Eval Nat := do
  let (options, names) ← takeOptions "lp" args
  let all := (← shell).jobs.reverse
  let chosen ← if names.isEmpty then pure all else names.mapM fun name => jobOf (some name)
  for job in chosen do
    let ended? := (← world).ended.lookup job.process
    if options.getLast?.any (·.1 = 'p') then print s!"{job.process}\n"
    else
      let mark := if all.head?.any (·.process = job.process) then '+'
        else if all[1]?.any (·.process = job.process) then '-' else ' '
      print (jobLine ended? mark job)
      if ended?.isSome then
        setShell fun sh => { sh with jobs := sh.jobs.filter (·.process ≠ job.process) }
  return 0

/-- Refuses to bring a job to another ground, for which there would have to be a terminal. -/
def refuseMove (args : List String) : Eval Nat := do
  let args ← operands args
  let _ ← jobOf args.head?
  let name := args.head?.getD "(null)"
  fail s!"job {name} not created under job control"

end CommandShell.Sh.Utility
