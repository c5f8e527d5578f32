import CommandShell.Proofs.Command.Twin
import CommandShell.Proofs.Program.Search
import CommandShell.Proofs.Session.Frame

/-!
# A session on two machines

Commands and lines come to one result on two machines that are related, and leave them related, if
the programs that they start do.
-/

open CommandShell.Effect CommandShell.Scene

namespace CommandShell

/-- Started on either machine, a program comes to the same end, and leaves related disks. -/
def Machine.StartsBeside (D : Disk → Disk → Prop) (m m' : Machine) (file : String)
    (argv : List String) : Prop :=
  Same (fun s s' : String × Finished => ∃ disk, D s.2.disk disk ∧ s' = (s.1, { s.2 with disk }))
    (m.start file argv) (m'.start file argv)

namespace Session

def CommandStarts (D : Disk → Disk → Prop) (c : Command) (m m' : Machine) : Prop :=
  Builtin.handlers.lookup c.name = none → ∀ file, m.findProgram? c.name none = some file →
    m.StartsBeside D m' file (c.name :: c.args)

def LineStarts (D : Disk → Disk → Prop) (line : String) (m m' : Machine) : Prop :=
  ∀ c, (Line.parse line).command? = .ok (some c) → CommandStarts D c m m'

theorem afterReading_core (line : String) (m : Machine) : (afterReading line m).core = m.core := by
  unfold afterReading
  cases (Line.parse line).waiting <;> rfl

end Session

theorem Machine.start_core {m n : Machine} (h : n.core = m.core) (file : String)
    (argv : List String) : n.start file argv = m.start file argv :=
  start_congr (fun path => (congrArg (execute · path argv) h :))
    (congrArg (startPaths · file) h :)

theorem Session.commandStarts_core {D : Disk → Disk → Prop} {c : Command} {m m' n n' : Machine}
    (h : CommandStarts D c m m') (hn : n.core = m.core) (hn' : n'.core = m'.core) :
    CommandStarts D c n n' := by
  intro hlookup file hfile
  have hfind : n.findProgram? c.name none = m.findProgram? c.name none :=
    (congrArg (Machine.findProgram? · c.name none) hn :)
  have hstarts := h hlookup file (hfind.symm.trans hfile)
  rwa [Machine.StartsBeside, ← Machine.start_core hn, ← Machine.start_core hn'] at hstarts

theorem Session.lineStarts_core {m m' : Machine} (h : m'.core = m.core) (line : String) :
    LineStarts Eq line m m' := by
  intro c _ _ file _
  rw [Machine.StartsBeside, Machine.start_core h]
  cases m.start file (c.name :: c.args) with
  | error f => exact .error f
  | ok started => exact .ok ⟨_, rfl, rfl⟩

variable {R : Machine → Machine → Prop} {D : Disk → Disk → Prop} {H : Handle → Handle → Prop}
  (hR : Machine.Parallel R D H)

include hR

/-! ## Builtins -/

namespace Call

variable {c : Call} {handler : Handler} (hh : ∀ e, Twin (Scene.Beside R H) (handler e))

theorem twin_report (c : Call) (e : Escape) : Twin (Scene.Beside R H) (c.report e) := by
  cases e with
  | fault f =>
    rw [report_eq]
    exact twin_bind (Act.twin_write hR .err _) fun _ => twin_pure 1
  | _ => exact twin_throw _

include hh

theorem twin_settle : Twin (Scene.Beside R H) (c.settle handler) := by
  intro s s' hs
  obtain ⟨r, t, t', ht, ht', hb⟩ := hh c.toErrand s s' hs
  cases r with
  | ok status => exact ⟨.ok status, t, t', settle_ok ht, settle_ok ht', hb⟩
  | error e =>
    rw [TwinAt, settle_error ht, settle_error ht']
    exact twin_report hR c e t t' hb

theorem twin_run (hc : c.handler? = some handler) {s s' : Scene} (hs : s.Beside R H s') :
    ∃ r c' t t', c.run s = (r, c', t) ∧ c.run s' = (r, c', t') ∧ Scene.Beside R H t t' := by
  obtain ⟨r, t, t', ht, ht', hb⟩ := twin_settle hR (c := c) hh s s' hs
  obtain ⟨q, u, u', hu, hu', hub⟩ := Act.twin_flushBoth hR t t' hb
  cases q with
  | ok _ => exact ⟨_, _, u, u', run_flushed hc ht hu, run_flushed hc ht' hu', hub⟩
  | error e => exact ⟨_, _, u, u', run_unflushed hc ht hu, run_unflushed hc ht' hu', hub⟩

end Call

namespace Session

section Visit

variable {m m' : Machine} (hm : R m m')

include hm

theorem twin_turnAway {opened opened' : List Sink}
    (ho : List.Forall₂ (Sink.Beside H) opened opened') (f : Fault) :
    ∃ r sinks sinks' n n', turnAway opened m f = ⟨r, sinks, n⟩ ∧
      turnAway opened' m' f = ⟨r, sinks', n'⟩ ∧ List.Forall₂ (Sink.Beside H) sinks sinks' ∧
      R n n' := by
  unfold turnAway turnAway.reported
  cases f with
  | redirection path reason =>
    have htext := Builtin.append_ne_empty (Fault.redirection path reason).message
      (show "\n" ≠ "" by decide)
    cases ho with
    | nil => exact ⟨_, _, _, _, _, rfl, rfl, .nil, hR.print hm .err _ htext⟩
    | @cons out out' rest rest' hout hrest =>
      obtain ⟨r, t, t', n, n', hc, hc', ht, hn⟩ := Sink.twin_close hR out out' m m' hout hm
      simp only [hc, hc']
      cases r with
      | error f => exact ⟨_, _, _, n, n', rfl, rfl, .cons ht hrest, hn⟩
      | ok _ => exact ⟨_, _, _, _, _, rfl, rfl, .cons ht hrest, hR.print hn .err _ htext⟩
  | _ => exact ⟨_, _, _, m, m', rfl, rfl, ho, hm⟩

variable {handler : Handler} (hh : ∀ e, Twin (Scene.Beside R H) (handler e))

include hh

theorem twin_visit (c : Command) :
    ∃ r sinks sinks' n n', visit c handler m = ⟨r, sinks, n⟩ ∧
      visit c handler m' = ⟨r, sinks', n'⟩ ∧ List.Forall₂ (Sink.Beside H) sinks sinks' ∧
      R n n' := by
  have hout := Sink.twin_ofTarget hR hm .out c.out
  generalize ho : Sink.ofTarget .out c.out m = x, ho' : Sink.ofTarget .out c.out m' = x' at hout
  cases hout with
  | error f =>
    rw [visit_unopened ho, visit_unopened ho']
    exact twin_turnAway hR hm .nil f
  | @ok opened opened' hopened =>
    obtain ⟨hout, hn⟩ := hopened
    have herr := Sink.twin_ofTarget hR hn .err c.err
    generalize he : Sink.ofTarget .err c.err opened.2 = y,
      he' : Sink.ofTarget .err c.err opened'.2 = y' at herr
    cases herr with
    | error f =>
      rw [visit_half ho he, visit_half ho' he']
      exact twin_turnAway hR hn (.cons hout .nil) f
    | @ok last last' hlast =>
      have hscene : Scene.Beside R H ⟨last.2, opened.1, last.1⟩ ⟨last'.2, opened'.1, last'.1⟩ :=
        ⟨hlast.2, hout, hlast.1⟩
      obtain ⟨r, call, t, t', ht, ht', htt⟩ := Call.twin_run hR
        (c := c.call handler) hh rfl hscene
      obtain ⟨q, u, u', hu, hu', hm', hout, herr⟩ := Act.twin_closeBoth hR t t' htt
      rw [visit_opened ho he, visit_opened ho' he', between_eq ht hu, between_eq ht' hu']
      exact ⟨_, _, _, _, _, rfl, rfl, .cons hout (.cons herr .nil), hm'⟩

theorem twin_runBuiltin (c : Command) : TwinAt R (runBuiltin c handler) m m' := by
  obtain ⟨r, sinks, sinks', n, n', hv, hv', hs, hn⟩ := twin_visit hR hm hh c
  unfold TwinAt runBuiltin
  rw [hv, hv']
  exact ⟨r, _, _, rfl, rfl, Sink.twin_abandonAll hR hn hs⟩

end Visit

/-! ## Programs -/

section Program

theorem twin_said {m m' : Machine} (hm : R m m') (stream : Stream) (text : String) :
    R (if text.isEmpty then m else m.print stream text)
      (if text.isEmpty then m' else m'.print stream text) := by
  split
  · exact hm
  · next ht => exact hR.print hm stream text (by simpa using ht)

theorem twin_complain (text : String) : Twin R (Run.complain text) :=
  twin_modify fun _ _ hm => twin_said hR hm .err text

theorem twin_writeFile {m m' : Machine} (hm : R m m') (path text : String) (mode : OpenMode) :
    ∃ r n n', m.writeFile path text mode = (r, n) ∧ m'.writeFile path text mode = (r, n') ∧
      R n n' := by
  have hopen := Machine.twin_openAt hR hm path mode
  unfold Machine.writeFile
  split
  · exact ⟨_, m, m', rfl, rfl, hm⟩
  · generalize Handle.openAt m.disk m.cwd path mode = x,
      Handle.openAt m'.disk m'.cwd path mode = x' at hopen
    cases hopen with
    | error e => exact ⟨_, m, m', rfl, rfl, hm⟩
    | @ok opened opened' hopened =>
      obtain ⟨w, t, t', ht, ht', htt⟩ :=
        Handle.twin_write hR.files (Utf8.encode text) opened opened' hopened
      obtain ⟨q, u, u', hu, hu', huu⟩ := Handle.twin_flush hR.files t t' htt
      simp only [ht, ht', hu, hu']
      exact ⟨_, _, _, rfl, rfl, hR.disk hm huu.2⟩

theorem twin_route (stream : Stream) (t : Target) (text : String) :
    Twin R (Run.route stream t text) := by
  intro m m' hm
  unfold TwinAt
  cases hp : t.path? with
  | none =>
    rw [Run.route_console hp, Run.route_console hp]
    exact ⟨_, _, _, rfl, rfl, twin_said hR hm stream text⟩
  | some path =>
    by_cases hn : t.HasNullByte
    · rw [Run.route_null hn, Run.route_null hn]
      exact ⟨_, m, m', rfl, rfl, hm⟩
    · have hpath : Disk.isPathText path = true := by
        rw [← Bool.not_eq_false]
        exact fun h => hn ⟨path, hp, h⟩
      obtain ⟨r, n, n', hw, hw', hnn⟩ := twin_writeFile hR hm path text t.mode
      obtain ⟨r₁, m₁, hw₁, hr⟩ := writeFile_ends t.mode text m hpath
      cases hw.symm.trans hw₁
      rcases hr with rfl | ⟨e, path?, rfl⟩
      · rw [Run.route_written hp hw, Run.route_written hp hw']
        exact ⟨_, n, n', rfl, rfl, hnn⟩
      · rw [Run.route_reported hp hw, Run.route_reported hp hw']
        exact twin_complain hR _ n n' hnn

theorem twin_run (settings : Settings) {c : Command} {m m' : Machine} (hm : R m m')
    (hn : c.name ∉ Builtin.names)
    (hs : ∀ file, m.findProgram? c.name none = some file →
      m.StartsBeside D m' file (c.name :: c.args)) :
    TwinAt R (({ settings } : Session).dispatch c) m m' := by
  have hsame := Machine.twin_findProgram? hR hm c.name none
  have hm₁ := hR.note hm (.external c.name c.args)
  unfold TwinAt
  cases hf : m.findProgram? c.name none with
  | none =>
    rw [hf] at hsame
    rw [Meaning.dispatch_means settings (.unknown hn hf),
      Meaning.dispatch_means settings (.unknown hn hsame)]
    exact ⟨_, _, _, rfl, rfl, hR.print hm₁ .err _ (Builtin.append_ne_empty _ (by decide))⟩
  | some file =>
    rw [hf] at hsame
    have hm₂ := hR.note hm₁ (.resolved c.name file)
    have hstart := hs file hf
    rw [Machine.StartsBeside] at hstart
    rw [Meaning.dispatch_means settings (.program hn hf),
      Meaning.dispatch_means settings (.program hn hsame)]
    simp only [Meaning.run, Machine.start_note]
    generalize m.start file (c.name :: c.args) = x, m'.start file (c.name :: c.args) = x' at hstart
    cases hstart with
    | error f =>
      exact ⟨_, _, _, rfl, rfl, hR.print hm₂ .err _ (Builtin.append_ne_empty _ (by decide))⟩
    | @ok started started' h =>
      obtain ⟨disk, hd, rfl⟩ := h
      exact twin_bind (twin_route hR .out c.out _) (fun _ =>
        twin_bind (twin_route hR .err c.err _) fun _ => twin_pure started.2.status) _ _
          (hR.note (hR.disk hm₂ hd) _)

end Program

/-! ## Commands and lines -/

theorem twin_dispatch (settings : Settings) {c : Command} {m m' : Machine} (hm : R m m')
    (hs : CommandStarts D c m m') : TwinAt R (({ settings } : Session).dispatch c) m m' := by
  cases hh : Builtin.handlers.lookup c.name with
  | none => exact twin_run hR settings hm (Builtin.lookup_eq_none.mp hh) (hs hh)
  | some handler =>
    unfold TwinAt
    rw [dispatch_builtin { settings } m hh, dispatch_builtin { settings } m' hh]
    exact twin_runBuiltin hR (hR.note hm _) (builtin_twin hR hh) c

theorem twin_afterReading (line : String) {m m' : Machine} (hm : R m m') :
    R (afterReading line m) (afterReading line m') := by
  unfold afterReading
  cases (Line.parse line).waiting with
  | none => exact hR.note hm _
  | some op => exact hR.print (hR.note (hR.note hm _) _) .err _ (missingPath_ne op)

theorem twin_execute (settings : Settings) {line : String} {m m' : Machine} (hm : R m m')
    (hs : LineStarts D line m m') : TwinAt R (({ settings } : Session).execute line) m m' := by
  obtain ⟨c?, hparse⟩ := command?_ok line
  have hread := twin_afterReading hR line hm
  unfold TwinAt
  cases c? with
  | none =>
    rw [execute_none (read_eq hparse m), execute_none (read_eq hparse m')]
    exact ⟨_, _, _, rfl, rfl, hread⟩
  | some c =>
    rw [execute_some (read_eq hparse m), execute_some (read_eq hparse m')]
    exact twin_dispatch hR settings hread (commandStarts_core (hs c hparse)
      (afterReading_core line m) (afterReading_core line m'))

end Session

end CommandShell
