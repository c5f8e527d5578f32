import CommandShell.Sh.Run

/-! # The machine at the start

A disk with the shell that scripts name, which is the one program that the machine runs by itself. -/

namespace CommandShell

/-! ## The shell of scripts -/

namespace Sh

def depthLimit : Nat := 200000

def firstProcess : Nat := 4242

def program : Program := fun i d =>
  let environment := i.environment.bindings.map fun (name, value) => (encoded name, encoded value)
  let shell : Shell :=
    { name := "sh", process := firstProcess, root := firstProcess, parent := firstProcess - 1
      arguments := [], cwd := i.cwd }
  let world : World := { disk := d, nextProcess := firstProcess + 1 }
  let run := Eval.runTo depthLimit
  let whole : Eval Int := do
    let ended ← Eval.startShell run environment (i.argv.map encoded)
    Eval.runDeferred run
    return ended
  let result := whole ⟨world, shell⟩
  let finished (status : Int) (w : World) : Finished :=
    { status
      out := toBytes (String.join w.out.reverse)
      err := toBytes (String.join w.err.reverse)
      disk := w.disk }
  match result with
  | (.ok status, s) => finished status s.world
  | (.error _, s) => finished (-Signal.kill) s.world

end Sh

/-! ## The standard machine -/

def Disk.standard : Disk := ⟨#[
  .directory root [("bin", 1), ("dev", 3)],
  .directory root [("sh", 2)],
  .regular Sh.image 0o755,
  .directory root [("null", 4), ("full", 5)],
  .device .null,
  .device (.failing .noSpace)]⟩

def standardPrograms (image : Bytes) : Option Program :=
  if image = Sh.image then some Sh.program else none

def Machine.standard : Machine := { disk := Disk.standard, programs := standardPrograms }

end CommandShell
