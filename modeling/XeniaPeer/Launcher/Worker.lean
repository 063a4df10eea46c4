import Mathlib.Data.List.Basic
import XeniaPeer.Foundation.Runs

/-!
# The worker of the launcher

The worker (`xenia-launcher-shell`, `worker.rs`) holds at most one daemon process, spawned by it or
found running when it starts. It lets go of the process when a check of it or stopping it fails, and
a process whose identity can not be written down (`process.rs`) is dropped without being killed; one
that was found running is also let go where its identity can not be confirmed. In all these cases the
worker goes on as if nothing were running (`one_daemon_iff`).
-/

namespace XeniaPeer.Launcher

open Foundation

inductive DaemonStatus where
  | stopped
  | starting
  | running (pid : Nat)
  | stopping
  | exitedUnexpectedly
  | error
deriving DecidableEq

/-- How an attempt to start ends: without the binary, without a process, with one that has already
exited, with one whose identity could not be persisted, or well. -/
inductive SpawnEnd where
  | undiscovered
  | notSpawned
  | exited
  | unpersisted
  | spawned

/-- What a look at the process comes to: the state of the process, an error, or an identity that is not
the recorded one, as the executable behind `/proc` can not be read or is another. -/
inductive LivenessCheck where
  | seen
  | fails
  | unrecognized
deriving DecidableEq

structure DaemonProcess where
  pid : Nat
  reattached : Bool

/-- `is_alive`. A child is asked for its exit status, which can fail; of a reattached process the
identity is compared, which can not, and a live process that is not recognized counts as gone. -/
def DaemonProcess.isAlive (process : DaemonProcess) (alive : List Nat) (check : LivenessCheck) :
    Option Bool :=
  if process.reattached then some (process.pid ∈ alive ∧ check ≠ .unrecognized)
  else if check = .fails then none else some (process.pid ∈ alive)

/-- The worker with the processes that are alive, and its reports with those alive at the time. -/
structure Worker where
  daemon : Option DaemonProcess
  lastStatus : DaemonStatus
  alive : List Nat
  reports : List (DaemonStatus × List Nat)

/-- A process exits, or the worker acts: `survives` says that the process is alive when `stop`
returns, which it is only with an error or where it is not recognized. -/
inductive WorkerStep where
  | exit (pid : Nat)
  | start (pid : Nat) (spawn : SpawnEnd)
  | stop (survives : Bool)
  | refresh (check : LivenessCheck)

namespace Worker

def report (w : Worker) (status : DaemonStatus) : Worker :=
  { w with reports := w.reports ++ [(status, w.alive)] }

def handleStart (w : Worker) (pid : Nat) (spawn : SpawnEnd) : Worker :=
  if w.daemon.isSome then w else
  let w := w.report .starting
  match spawn with
  | .spawned => { w with daemon := some ⟨pid, false⟩, alive := pid :: w.alive }
  | .unpersisted => { w with alive := pid :: w.alive }.report .stopped
  | .undiscovered | .notSpawned | .exited => w.report .stopped

def handleStop (w : Worker) (survives : Bool) : Worker :=
  match w.daemon with
  | none => w
  | some process =>
    let w := { w with daemon := none }.report .stopping
    { w with alive := if survives then w.alive else w.alive.filter (· != process.pid) }.report
      .stopped

def changed (w : Worker) (status : DaemonStatus) : Worker :=
  if status = w.lastStatus then w else { w with lastStatus := status }.report status

def refreshStatus (w : Worker) (check : LivenessCheck) : Worker :=
  match w.daemon with
  | none => w.changed .stopped
  | some process =>
    match process.isAlive w.alive check with
    | none => { w with daemon := none }.changed .error
    | some true => w.changed (.running process.pid)
    | some false => { w with daemon := none }.changed .exitedUnexpectedly

def step (w : Worker) : WorkerStep → Worker
  | .exit pid => { w with alive := w.alive.filter (· != pid) }
  | .start pid spawn => w.handleStart pid spawn
  | .stop survives => w.handleStop survives
  | .refresh check => w.refreshStatus check

def start (reattached : Option Nat) : Worker :=
  ⟨reattached.map (⟨·, true⟩), .stopped, reattached.toList, []⟩

/-- At most one process is alive, and none was when the worker reported that it stopped. -/
structure Sound (w : Worker) : Prop where
  one : w.alive.length ≤ 1
  stopped : ∀ r ∈ w.reports, r.1 = .stopped → r.2 = []

/-- No live process is dropped by a spawn or a stop, and none that was let go is alive when the
worker starts another or looks after it. -/
def Attends (w : Worker) : WorkerStep → Prop
  | .exit _ => True
  | .start _ spawn => w.daemon = none → w.alive = [] ∧ spawn ≠ .unpersisted
  | .stop survives => ∀ process ∈ w.daemon, process.pid ∈ w.alive → survives = false
  | .refresh _ => w.daemon = none → w.alive = []

/-- Each live process is held, or the last look at it made the worker let it go. -/
structure Kept (w : Worker) : Prop extends Sound w where
  held : ∀ pid ∈ w.alive, (∃ process, w.daemon = some process ∧ process.pid = pid) ∨
    w.daemon = none ∧ w.lastStatus ≠ .stopped

variable {w : Worker} {status : DaemonStatus}

lemma Sound.report (h : w.Sound) (hstopped : status = .stopped → w.alive = []) :
    (w.report status).Sound := by
  refine ⟨h.one, fun r hr => ?_⟩
  rcases List.mem_append.mp hr with hr | hr
  · exact h.stopped r hr
  · rw [List.mem_singleton.mp hr]
    exact hstopped

lemma Sound.of_report (h : (w.report status).Sound) (hstopped : status = .stopped) :
    w.alive = [] := h.stopped _ (List.mem_append_right _ (List.mem_singleton_self _)) hstopped

lemma Sound.changed (h : w.Sound) (hstopped : status = .stopped → w.alive = []) :
    (w.changed status).Sound := by
  unfold Worker.changed
  split
  · exact h
  · exact Sound.report (w := { w with lastStatus := status }) ⟨h.one, h.stopped⟩ hstopped

lemma changed_eq (w : Worker) (status : DaemonStatus) :
    (w.changed status).alive = w.alive ∧ (w.changed status).daemon = w.daemon ∧
      (w.changed status).lastStatus = status := by
  unfold Worker.changed
  split
  · rename_i hsame
    exact ⟨rfl, rfl, hsame.symm⟩
  · exact ⟨rfl, rfl, rfl⟩

variable {process : DaemonProcess}

lemma Kept.eq_pid (h : w.Kept) (hprocess : w.daemon = some process) :
    ∀ pid ∈ w.alive, pid = process.pid := by
  intro pid hpid
  rcases h.held pid hpid with ⟨held, hheld, rfl⟩ | ⟨hnone, -⟩
  · rw [hprocess, Option.some.injEq] at hheld
    rw [hheld]
  · cases hprocess.symm.trans hnone

lemma Kept.alive_eq (h : w.Kept) (hprocess : w.daemon = some process)
    (hdead : process.pid ∉ w.alive) : w.alive = [] :=
  List.eq_nil_iff_forall_not_mem.mpr fun pid hpid => hdead (h.eq_pid hprocess pid hpid ▸ hpid)

lemma Kept.attends (h : w.Kept) (s : WorkerStep) (hs : (w.step s).Sound) : w.Attends s := by
  cases s with
  | exit pid => trivial
  | start pid spawn =>
    intro hnone
    simp only [step, handleStart, hnone, Option.isSome_none, Bool.false_eq_true, if_false] at hs
    cases spawn with
    | spawned => exact ⟨List.eq_nil_of_length_eq_zero (by simpa [report] using hs.one), nofun⟩
    | unpersisted => cases hs.of_report rfl
    | undiscovered | notSpawned | exited => exact ⟨hs.of_report rfl, nofun⟩
  | stop survives =>
    intro process hprocess hmem
    cases survives with
    | false => rfl
    | true =>
      simp only [step, handleStop, Option.mem_def.mp hprocess] at hs
      have halive : w.alive = [] := hs.of_report rfl
      rw [halive] at hmem
      cases hmem
  | refresh check =>
    intro hnone
    by_contra hne
    obtain ⟨pid, hpid⟩ := List.exists_mem_of_ne_nil _ hne
    have hlast : w.lastStatus ≠ .stopped := by
      rcases h.held pid hpid with ⟨process, hheld, -⟩ | hheld
      · cases hnone.symm.trans hheld
      · exact hheld.2
    simp only [step, refreshStatus, hnone, changed, hlast.symm, if_false] at hs
    exact hne (hs.of_report rfl)

lemma Kept.step (h : w.Kept) (s : WorkerStep) (hs : w.Attends s) : (w.step s).Kept := by
  cases s with
  | exit pid =>
    exact ⟨⟨Nat.le_trans (List.length_filter_le _ _) h.one, h.stopped⟩,
      fun p hp => h.held p (List.mem_of_mem_filter hp)⟩
  | start pid spawn =>
    simp only [Worker.step, handleStart]
    split
    · exact h
    rename_i hnone
    obtain ⟨halive, hspawn⟩ := hs (Option.not_isSome_iff_eq_none.mp hnone)
    have hstarting : (w.report .starting).Sound := h.toSound.report nofun
    have hstopped : ((w.report .starting).report .stopped).Sound := hstarting.report fun _ => halive
    cases spawn with
    | spawned => exact ⟨⟨by simp [report, halive], hstarting.stopped⟩, by simp [report, halive]⟩
    | unpersisted => exact absurd rfl hspawn
    | undiscovered | notSpawned | exited => exact ⟨hstopped, h.held⟩
  | stop survives =>
    simp only [Worker.step, handleStop]
    cases hprocess : w.daemon with
    | none => exact h
    | some process =>
      have halive :
          (if survives then w.alive else w.alive.filter (· != process.pid)) = [] := by
        by_cases hmem : process.pid ∈ w.alive
        · rw [hs process hprocess hmem]
          exact List.filter_eq_nil_iff.mpr fun p hp => by simp [h.eq_pid hprocess p hp]
        · have hnil := h.alive_eq hprocess hmem
          simp [hnil]
      have hstopping : (report { w with daemon := none } .stopping).Sound :=
        Sound.report ⟨h.one, h.stopped⟩ nofun
      refine ⟨Sound.report ⟨?_, hstopping.stopped⟩ fun _ => halive, ?_⟩
      · simp [report, halive]
      · simp [report, halive]
  | refresh check =>
    simp only [Worker.step, refreshStatus]
    cases hprocess : w.daemon with
    | none =>
      have halive := hs hprocess
      refine ⟨h.toSound.changed fun _ => halive, fun p hp => ?_⟩
      rw [(changed_eq w _).1, halive] at hp
      cases hp
    | some process =>
      -- whatever it was let go for, `stopped` is not the last status
      have hgone : ∀ status ≠ .stopped, ({ w with daemon := none }.changed status).Kept := by
        intro status hstatus
        obtain ⟨-, hdaemon, hlast⟩ := changed_eq { w with daemon := none } status
        exact ⟨Sound.changed ⟨h.one, h.stopped⟩ fun heq => absurd heq hstatus,
          fun p hp => .inr ⟨hdaemon, fun heq => hstatus (hlast.symm.trans heq)⟩⟩
      simp only
      split
      · exact hgone _ nofun
      · obtain ⟨halive, hdaemon, -⟩ := changed_eq w (.running process.pid)
        refine ⟨h.toSound.changed nofun, fun p hp => .inl ⟨process, hdaemon.trans hprocess, ?_⟩⟩
        exact (h.eq_pid hprocess p (halive ▸ hp)).symm
      · exact hgone _ nofun

lemma kept_start (reattached : Option Nat) : (start reattached).Kept := by
  cases reattached <;> exact ⟨⟨by simp [start], nofun⟩, by simp [start]⟩

/-- **When the worker knows its daemon.** At every moment at most one process is alive, and none
when the worker reports that it stopped, exactly if no live process is let go and still alive when
that matters. -/
theorem one_daemon_iff (reattached : Option Nat) (steps : List WorkerStep) :
    (∀ es, es <+: steps → (es.foldl step (start reattached)).Sound) ↔
      StepsMeet step Attends (start reattached) steps :=
  prefixes_iff_stepsMeet (fun _ h => h.toSound) (fun _ s h => h.attends s) (fun _ s h => h.step s)
    (kept_start reattached)

/-- The identity of a new process can not be persisted: it is reported as stopped, runs on, and a
second one is started next to it. -/
theorem unpersisted_daemon_runs_on :
    let w := [.start 7 .unpersisted, .start 8 .spawned].foldl step (start none)
    w.alive = [8, 7] ∧ (.stopped, [7]) ∈ w.reports := by
  decide

end Worker

end XeniaPeer.Launcher
