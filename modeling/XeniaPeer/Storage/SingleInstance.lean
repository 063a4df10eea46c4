import XeniaPeer.Storage.SecureFile

/-!
# The single-instance lock of the launcher

`acquire` of `xenia-launcher-core` reads the lock file and refuses if the process it names is alive.
Otherwise it overwrites the file with its own process id (`secure_overwrite`: a temporary file that
is renamed over the old one), and whoever has written it holds the lock. Two launchers that look at
the file at the same time can both get it, unless a third one holds the lock meanwhile
(`single_instance_when_alone`).
-/

namespace XeniaPeer.Storage.SingleInstance

open Foundation

structure LockRecord where
  pid : UInt32

inductive Phase where
  | idle
  /-- The open of `read_existing`. -/
  | opening (random : UInt64)
  | reading (random : UInt64) (inode : Nat) (got : Bytes)
  /-- The test whether the owner is alive. -/
  | checking (random : UInt64) (pid : UInt32)
  /-- The open at the head of `overwrite`. -/
  | inspecting (random : UInt64)
  | creating (random : UInt64)
  | writing (tmp : OsName) (inode written : Nat)
  | publishing (tmp : OsName) (inode : Nat)
deriving DecidableEq

structure Launcher where
  phase : Phase
  /-- It has the guard. -/
  holds : Bool

def Launcher.fresh : Launcher := ⟨.idle, false⟩

structure State where
  dir : InodeDir OsName
  alive : UInt32 → Bool
  procs : UInt32 → Launcher

inductive Event where
  /-- A process starts, or one that is not a launcher gets the id. -/
  | spawn (pid : UInt32)
  /-- A process ends without dropping its guard. -/
  | exit (pid : UInt32)
  | acquire (pid : UInt32) (random : UInt64)
  | perform (pid : UInt32) (fails : Bool) (count : Nat)
  | drop (pid : UInt32) (fails : Bool)

def State.pidIsAlive (s : State) (pid : UInt32) : Bool := pid ≠ 0 && s.alive pid

section

variable (json : ValueFormat LockRecord) (lockPath : OsName)

def perform (s : State) (pid : UInt32) (fails : Bool) (count : Nat) :
    Phase → InodeDir OsName × Phase × Bool
  | .idle => (s.dir, .idle, false)
  | .opening random =>
    if fails then (s.dir, .idle, false)
    else
      match s.dir.entries lockPath with
      | some inode => (s.dir, .reading random inode [], false)
      | none => (s.dir, .inspecting random, false)
  | .reading random inode got =>
    if fails then (s.dir, .idle, false)
    else if (s.dir.bytes inode).length ≤ got.length then
      match json.fromSlice got with
      | some existing => (s.dir, .checking random existing.pid, false)
      | none => (s.dir, .idle, false)
    else
      (s.dir, .reading random inode (got ++ ((s.dir.bytes inode).drop got.length).take (count + 1)),
        false)
  | .checking random existing =>
    -- `AlreadyRunning`
    if s.pidIsAlive existing then (s.dir, .idle, false) else (s.dir, .inspecting random, false)
  | .inspecting random => (s.dir, if fails then .idle else .creating random, false)
  | .creating random =>
    let tmp := tmpName lockPath "secure-overwrite" random
    if fails ∨ s.dir.entries tmp ≠ none then (s.dir, .idle, false)
    else (s.dir.create tmp, .writing tmp s.dir.next 0, false)
  | .writing tmp inode written =>
    let record := json.toVec ⟨pid⟩
    if fails then (s.dir, .idle, false)
    else if written < record.length then
      let part := (record.drop written).take (count + 1)
      (s.dir.append inode part, .writing tmp inode (written + part.length), false)
    else (s.dir, .publishing tmp inode, false)
  | .publishing tmp _ =>
    if fails ∨ s.dir.entries tmp = none then (s.dir, .idle, false)
    else (s.dir.rename tmp lockPath, .idle, true)

def step (s : State) : Event → State
  | .spawn pid => if pid = 0 then s else { s with alive := Function.update s.alive pid true }
  | .exit pid =>
    { s with
      alive := Function.update s.alive pid false
      procs := Function.update s.procs pid .fresh }
  | .acquire pid random =>
    if s.alive pid ∧ (s.procs pid).phase = .idle then
      { s with procs := Function.update s.procs pid { s.procs pid with phase := .opening random } }
    else s
  | .perform pid fails count =>
    let (dir, phase, acquired) := perform json lockPath s pid fails count (s.procs pid).phase
    { s with
      dir
      procs := Function.update s.procs pid ⟨phase, (s.procs pid).holds || acquired⟩ }
  | .drop pid fails =>
    if (s.procs pid).holds ∧ (s.procs pid).phase = .idle then
      { s with
        dir := if fails then s.dir else s.dir.unlink lockPath
        procs := Function.update s.procs pid .fresh }
    else s

def start (dir : InodeDir OsName) (alive : UInt32 → Bool) : State :=
  ⟨dir, fun pid => pid ≠ 0 && alive pid, fun _ => .fresh⟩

def run (dir : InodeDir OsName) (alive : UInt32 → Bool) (events : List Event) : State :=
  events.foldl (step json lockPath) (start dir alive)

end

/-- A living process with the guard. -/
def State.Holds (s : State) (pid : UInt32) : Prop := s.alive pid = true ∧ (s.procs pid).holds = true

/-- At most one acquisition is under way besides what `pid` does. -/
def State.Lone (s : State) (pid : UInt32) : Prop :=
  ∀ p q, p ≠ pid → q ≠ pid → (s.procs p).phase ≠ .idle → (s.procs q).phase ≠ .idle → p = q

/-- Acquisitions overlap only while somebody holds the lock. -/
def Alone (s : State) : Event → Prop
  | .acquire pid _ => (∃ holder, s.Holds holder) ∨
    ∀ other, other ≠ pid → s.alive other = true → (s.procs other).phase = .idle
  | .exit pid => s.Holds pid → s.Lone pid
  | .drop pid _ => s.Holds pid → s.Lone pid
  | _ => True

/-! ## One acquisition at a time -/

section

variable {json : ValueFormat LockRecord} {lockPath : OsName}

def Phase.Stands (json : ValueFormat LockRecord) (lockPath : OsName) (dir : InodeDir OsName)
    (holder : UInt32 → Prop) (pid : UInt32) : Phase → Prop
  | .idle => True
  | .opening _ => True
  | .reading _ inode got =>
    got <+: dir.bytes inode ∧ ∀ p, holder p → dir.entries lockPath = some inode
  | .checking _ existing => ∀ p, holder p → p = existing
  | .inspecting _ => ∀ p, ¬ holder p
  | .creating _ => ∀ p, ¬ holder p
  | .writing tmp inode written =>
    (∀ p, ¬ holder p) ∧ tmp ≠ lockPath ∧ dir.entries tmp = some inode ∧
      dir.bytes inode = (json.toVec ⟨pid⟩).take written
  | .publishing tmp inode =>
    (∀ p, ¬ holder p) ∧ tmp ≠ lockPath ∧ dir.entries tmp = some inode ∧
      dir.bytes inode = json.toVec ⟨pid⟩

/-- The lock file names the holder, the processes that are acquiring know what they have found, and
there is one of them at most unless the lock is held. -/
structure Exclusive (json : ValueFormat LockRecord) (lockPath : OsName) (s : State) : Prop where
  ended : ∀ pid, s.alive pid = false → s.procs pid = .fresh
  zero : s.alive 0 = false
  single : (∀ p, ¬ s.Holds p) →
    ∀ p q, (s.procs p).phase ≠ .idle → (s.procs q).phase ≠ .idle → p = q
  record : ∀ pid, s.Holds pid → s.dir.holds lockPath = some (json.toVec ⟨pid⟩)
  stands : ∀ pid, (s.procs pid).phase.Stands json lockPath s.dir s.Holds pid

variable {s : State} {pid : UInt32}

lemma Exclusive.holder_unique (h : Exclusive json lockPath s) {p q : UInt32} (hp : s.Holds p)
    (hq : s.Holds q) : p = q := by
  have hsame := (h.record p hp).symm.trans (h.record q hq)
  exact congrArg LockRecord.pid (json.toVec_injective (Option.some.inj hsame))

structure Sound (json : ValueFormat LockRecord) (lockPath : OsName) (s : State) (pid : UInt32)
    (out : InodeDir OsName × Phase × Bool) : Prop where
  /-- While the lock is held, nobody gets as far as a change of the directory. -/
  kept : ∀ p, s.Holds p → out.1 = s.dir
  stands : out.2.1.Stands json lockPath out.1 s.Holds pid
  acquired : out.2.2 = true → (∀ p, ¬ s.Holds p) ∧ out.2.1 = .idle ∧
    out.1.holds lockPath = some (json.toVec ⟨pid⟩)

variable {phase : Phase}

lemma Sound.quiet (h : phase.Stands json lockPath s.dir s.Holds pid) :
    Sound json lockPath s pid (s.dir, phase, false) := ⟨fun _ _ => rfl, h, nofun⟩

lemma Sound.refused : Sound json lockPath s pid (s.dir, .idle, false) := .quiet trivial

variable {dir : InodeDir OsName}

lemma Sound.free (hfree : ∀ p, ¬ s.Holds p) (h : phase.Stands json lockPath dir s.Holds pid) :
    Sound json lockPath s pid (dir, phase, false) := ⟨fun p hp => (hfree p hp).elim, h, nofun⟩

variable {random : UInt64} {fails : Bool} {count : Nat}

lemma sound_opening (h : Exclusive json lockPath s) :
    Sound json lockPath s pid (perform json lockPath s pid fails count (.opening random)) := by
  simp only [perform]
  split
  · exact .refused
  · split
    · rename_i inode hent
      exact .quiet ⟨List.nil_prefix, fun _ _ => hent⟩
    · rename_i hnone
      refine .quiet fun p hp => ?_
      have hrecord := h.record p hp
      rw [InodeDir.holds, hnone] at hrecord
      cases hrecord

variable {inode : Nat}

lemma sound_reading {got : Bytes} (h : Exclusive json lockPath s)
    (hstands : (Phase.reading random inode got).Stands json lockPath s.dir s.Holds pid) :
    Sound json lockPath s pid
      (perform json lockPath s pid fails count (.reading random inode got)) := by
  obtain ⟨hgot, hfile⟩ := hstands
  simp only [perform]
  split
  · exact .refused
  · split
    · rename_i hend
      split
      · rename_i existing hexisting
        -- the record of a hold is what was read
        refine .quiet fun p hp => ?_
        have hrecord := h.record p hp
        rw [InodeDir.holds, hfile p hp, Option.map_some, Option.some.injEq,
          ← hgot.eq_of_length_le hend] at hrecord
        rw [hrecord, json.fromSlice_toVec, Option.some.injEq] at hexisting
        exact congrArg LockRecord.pid hexisting
      · exact .refused
    · exact .quiet ⟨InodeDir.prefix_append_take hgot, hfile⟩

lemma sound_checking {existing : UInt32} (h : Exclusive json lockPath s)
    (hstands : (Phase.checking random existing).Stands json lockPath s.dir s.Holds pid) :
    Sound json lockPath s pid
      (perform json lockPath s pid fails count (.checking random existing)) := by
  simp only [perform]
  split
  · exact .refused
  · rename_i hdead
    refine .quiet fun p hp => hdead ?_
    rw [← hstands p hp]
    have hzero : p ≠ 0 := by
      rintro rfl
      cases h.zero.symm.trans hp.1
    simpa [State.pidIsAlive, hzero] using hp.1

variable {tmp : OsName}

lemma sound_writing {written : Nat}
    (hstands : (Phase.writing tmp inode written).Stands json lockPath s.dir s.Holds pid) :
    Sound json lockPath s pid
      (perform json lockPath s pid fails count (.writing tmp inode written)) := by
  obtain ⟨hfree, hne, htmp, hbytes⟩ := hstands
  simp only [perform]
  split
  · exact .refused
  · split
    · exact .free hfree ⟨hfree, hne, htmp, InodeDir.append_bytes_take hbytes⟩
    · refine .quiet ⟨hfree, hne, htmp, ?_⟩
      exact hbytes.trans (List.take_of_length_le (by omega))

lemma sound_publishing
    (hstands : (Phase.publishing tmp inode).Stands json lockPath s.dir s.Holds pid) :
    Sound json lockPath s pid
      (perform json lockPath s pid fails count (.publishing tmp inode)) := by
  obtain ⟨hfree, hne, htmp, hbytes⟩ := hstands
  simp only [perform]
  split
  · exact .refused
  · refine ⟨fun p hp => (hfree p hp).elim, trivial, fun _ => ⟨hfree, rfl, ?_⟩⟩
    refine InodeDir.holds_eq_some.mpr ⟨inode, ?_, hbytes⟩
    simpa [InodeDir.rename, hne.symm] using htmp

lemma sound_creating (hfree : ∀ p, ¬ s.Holds p) : Sound json lockPath s pid
      (perform json lockPath s pid fails count (.creating random)) := by
  simp only [perform]
  split
  · exact .refused
  · exact .free hfree ⟨hfree, tmpName_ne lockPath "secure-overwrite" random, by simp, by simp⟩

lemma perform_sound (h : Exclusive json lockPath s) : Sound json lockPath s pid
      (perform json lockPath s pid fails count (s.procs pid).phase) := by
  have hstands := h.stands pid
  cases hphase : (s.procs pid).phase with
  | idle => exact .refused
  | opening random => exact sound_opening h
  | reading random inode got => exact sound_reading h (hphase ▸ hstands)
  | checking random existing => exact sound_checking h (hphase ▸ hstands)
  | inspecting random =>
    rw [hphase] at hstands
    refine .quiet ?_
    cases fails with
    | true => trivial
    | false => exact hstands
  | creating random =>
    rw [hphase] at hstands
    exact sound_creating hstands
  | writing tmp inode written => exact sound_writing (hphase ▸ hstands)
  | publishing tmp inode => exact sound_publishing (hphase ▸ hstands)

lemma Phase.Stands.mono {hold hold' : UInt32 → Prop} (hfew : ∀ p, hold' p → hold p)
    (h : phase.Stands json lockPath dir hold pid) : phase.Stands json lockPath dir hold' pid := by
  cases phase with
  | idle => trivial
  | opening random => trivial
  | reading random inode got => exact ⟨h.1, fun p hp => h.2 p (hfew p hp)⟩
  | checking random existing => exact fun p hp => h p (hfew p hp)
  | inspecting random => exact fun p hp => h p (hfew p hp)
  | creating random => exact fun p hp => h p (hfew p hp)
  | writing tmp inode written => exact ⟨fun p hp => h.1 p (hfew p hp), h.2⟩
  | publishing tmp inode => exact ⟨fun p hp => h.1 p (hfew p hp), h.2⟩

lemma step_perform_idle (hidle : (s.procs pid).phase = .idle) :
    step json lockPath s (.perform pid fails count) = s := by
  simp only [step, hidle, perform, Bool.or_false]
  rw [← hidle, Function.update_eq_self]

section

variable (h : Exclusive json lockPath s)

include h

/-- What is left to see when nothing changes at the other processes. -/
lemma Exclusive.of_others {s' : State}
    (hother : ∀ p, p ≠ pid → s'.alive p = s.alive p ∧ s'.procs p = s.procs p)
    (hzero : s'.alive 0 = false) (hend : s'.alive pid = false → s'.procs pid = .fresh)
    (hone : (∀ p, ¬ s'.Holds p) → s.Lone pid ∧
      ((s'.procs pid).phase ≠ .idle → ∀ p, p ≠ pid → (s.procs p).phase = .idle))
    (hrecord : ∀ p, s'.Holds p → s'.dir.holds lockPath = some (json.toVec ⟨p⟩))
    (hself : (s'.procs pid).phase.Stands json lockPath s'.dir s'.Holds pid)
    (hstands : ∀ p, p ≠ pid → (s.procs p).phase.Stands json lockPath s'.dir s'.Holds p) :
    Exclusive json lockPath s' := by
  refine ⟨fun p hp => ?_, hzero, fun hfree p q hp hq => ?_, hrecord, fun p => ?_⟩
  · rcases eq_or_ne p pid with rfl | hne
    · exact hend hp
    · rw [(hother p hne).2]
      exact h.ended p ((hother p hne).1 ▸ hp)
  · obtain ⟨hlone, honly⟩ := hone hfree
    by_contra hpq
    rcases eq_or_ne p pid with rfl | hpp
    · rw [(hother q (Ne.symm hpq)).2] at hq
      exact hq (honly hp q (Ne.symm hpq))
    · rw [(hother p hpp).2] at hp
      rcases eq_or_ne q pid with rfl | hqp
      · exact hp (honly hq p hpp)
      · exact hpq (hlone p q hpp hqp hp ((hother q hqp).2 ▸ hq))
  · rcases eq_or_ne p pid with rfl | hne
    · exact hself
    · rw [(hother p hne).2]
      exact hstands p hne

lemma step_perform_exclusive :
    Exclusive json lockPath (step json lockPath s (.perform pid fails count)) := by
  by_cases hidle : (s.procs pid).phase = .idle
  · rwa [step_perform_idle hidle]
  · have hsou : Sound json lockPath s pid
        (perform json lockPath s pid fails count (s.procs pid).phase) := perform_sound h
    have hots : (∀ p, ¬ s.Holds p) → ∀ p, p ≠ pid → (s.procs p).phase = .idle := fun hfree p hp =>
      by_contra fun hne => hp (h.single hfree p pid hne hidle)
    simp only [step]
    generalize perform json lockPath s pid fails count (s.procs pid).phase = out at hsou
    obtain ⟨dir, phase, acquired⟩ := out
    set s' : State := { s with
      dir
      procs := Function.update s.procs pid ⟨phase, (s.procs pid).holds || acquired⟩ } with hs'
    have hself : s'.procs pid = ⟨phase, (s.procs pid).holds || acquired⟩ := Function.update_self ..
    have hother : ∀ p, p ≠ pid → s'.procs p = s.procs p := fun p hp => Function.update_of_ne hp ..
    have hmore : ∀ q, s.Holds q → s'.Holds q := by
      intro q hq
      rcases eq_or_ne q pid with rfl | hne
      · exact ⟨hq.1, by simp [hself, hq.2]⟩
      · exact ⟨hq.1, by simpa [hother q hne] using hq.2⟩
    have hfew : acquired = false → ∀ q, s'.Holds q → s.Holds q := by
      intro hacq q hq
      rcases eq_or_ne q pid with rfl | hne
      · exact ⟨hq.1, by simpa [hself, hacq] using hq.2⟩
      · exact ⟨hq.1, by simpa [hother q hne] using hq.2⟩
    refine h.of_others (fun p hp => ⟨rfl, hother p hp⟩) h.zero (fun hp => ?_) (fun hfree => ?_)
      (fun p hp => ?_) ?_ (fun p hne => ?_)
    · exact absurd (congrArg Launcher.phase (h.ended pid hp)) hidle
    · have hfree : ∀ p, ¬ s.Holds p := fun p hp => hfree p (hmore p hp)
      exact ⟨fun p q _ _ => h.single hfree p q, fun _ => hots hfree⟩
    · -- the holder from before, or the process if it has just acquired
      have hold : ∀ p, s.Holds p → dir.holds lockPath = some (json.toVec ⟨p⟩) := fun p hp =>
        (congrArg (InodeDir.holds · lockPath) (hsou.kept p hp)).trans (h.record p hp)
      cases hacq : acquired with
      | false => exact hold p (hfew hacq p hp)
      | true =>
        obtain ⟨hfree, -, hfile⟩ := hsou.acquired hacq
        rcases eq_or_ne p pid with rfl | hne
        · exact hfile
        · exact (hfree p ⟨hp.1, by simpa [hother p hne] using hp.2⟩).elim
    · rw [hself]
      cases hacq : acquired with
      | true =>
        obtain ⟨-, hphase, -⟩ := hsou.acquired hacq
        simp only at hphase
        rw [hphase]
        trivial
      | false => exact hsou.stands.mono (hfew hacq)
    · by_cases hheld : ∃ q, s.Holds q
      · obtain ⟨q, hq⟩ := hheld
        have hacq : acquired = false := by
          by_contra htrue
          exact (hsou.acquired (by simpa using htrue)).1 q hq
        have hdir : dir = s.dir := hsou.kept q hq
        rw [hs', hdir]
        exact (h.stands p).mono (hdir ▸ hfew hacq)
      · rw [hots (not_exists.mp hheld) p hne]
        trivial

lemma step_exit_exclusive (halone : Alone s (.exit pid)) :
    Exclusive json lockPath (step json lockPath s (.exit pid)) := by
  set s' := step json lockPath s (.exit pid)
  have hself : s'.alive pid = false ∧ s'.procs pid = .fresh :=
    ⟨Function.update_self .., Function.update_self ..⟩
  have hother : ∀ p, p ≠ pid → s'.alive p = s.alive p ∧ s'.procs p = s.procs p := fun p hp =>
    ⟨Function.update_of_ne hp .., Function.update_of_ne hp ..⟩
  have hfew : ∀ p, s'.Holds p → s.Holds p := by
    intro p hp
    rcases eq_or_ne p pid with rfl | hne
    · cases hself.1.symm.trans hp.1
    · rwa [State.Holds, (hother p hne).1, (hother p hne).2] at hp
  refine h.of_others hother ?_ (fun _ => hself.2) (fun hfree => ⟨?_, fun hp => ?_⟩)
    (fun p hp => h.record p (hfew p hp)) (hself.2 ▸ trivial) (fun p _ => (h.stands p).mono hfew)
  · rcases eq_or_ne 0 pid with hzero | hne
    · exact hzero ▸ hself.1
    · exact (hother 0 hne).1.trans h.zero
  · by_cases hheld : s.Holds pid
    · exact halone hheld
    · refine fun p q _ _ => h.single (fun r hr => ?_) p q
      rcases eq_or_ne r pid with rfl | hne
      · exact hheld hr
      · exact hfree r (by rwa [State.Holds, (hother r hne).1, (hother r hne).2])
  · rw [hself.2] at hp
    exact (hp rfl).elim

lemma step_spawn_exclusive : Exclusive json lockPath (step json lockPath s (.spawn pid)) := by
  simp only [step]
  split
  · exact h
  · rename_i hzero
    have hhol : ∀ p, (State.mk s.dir (Function.update s.alive pid true) s.procs).Holds p →
        s.Holds p := by
      intro p hp
      rcases eq_or_ne p pid with rfl | hne
      · cases hali : s.alive p with
        | true => exact ⟨hali, hp.2⟩
        | false =>
          have hhol : (s.procs p).holds = true := hp.2
          rw [h.ended p hali] at hhol
          cases hhol
      · exact ⟨by simpa [hne] using hp.1, hp.2⟩
    refine ⟨fun p hp => ?_, ?_, fun hfree => h.single fun p hp => hfree p ⟨?_, hp.2⟩,
      fun p hp => h.record p (hhol p hp), fun p => (h.stands p).mono hhol⟩
    · rcases eq_or_ne p pid with rfl | hne
      · simp at hp
      · exact h.ended p (by simpa [hne] using hp)
    · simpa [Ne.symm hzero] using h.zero
    · by_cases hne : p = pid <;> simp [hne, hp.1]

lemma step_acquire_exclusive (halone : Alone s (.acquire pid random)) :
    Exclusive json lockPath (step json lockPath s (.acquire pid random)) := by
  simp only [step]
  split
  · rename_i hrea
    set s' : State := { s with
      procs := Function.update s.procs pid { s.procs pid with phase := .opening random } }
    have hself : s'.procs pid = { s.procs pid with phase := .opening random } :=
      Function.update_self ..
    have hother : ∀ p, p ≠ pid → s'.procs p = s.procs p := fun p hp => Function.update_of_ne hp ..
    have hhol : ∀ p, s'.Holds p ↔ s.Holds p := by
      intro p
      rcases eq_or_ne p pid with rfl | hne
      · rw [State.Holds, hself]; rfl
      · rw [State.Holds, hother p hne]; rfl
    refine h.of_others (fun p hp => ⟨rfl, hother p hp⟩) h.zero
      (fun hp => nomatch hrea.1.symm.trans hp) (fun hfree => ?_)
      (fun p hp => h.record p ((hhol p).mp hp)) (hself ▸ trivial)
      (fun p _ => (h.stands p).mono fun p => (hhol p).mp)
    have hfree : ∀ p, ¬ s.Holds p := fun p hp => hfree p ((hhol p).mpr hp)
    refine ⟨fun p q _ _ => h.single hfree p q, fun _ p hp => ?_⟩
    cases hali : s.alive p with
    | true => exact halone.resolve_left (not_exists.mpr hfree) p hp hali
    | false => rw [h.ended p hali]; rfl
  · exact h

lemma step_drop_exclusive (halone : Alone s (.drop pid fails)) :
    Exclusive json lockPath (step json lockPath s (.drop pid fails)) := by
  simp only [step]
  split
  · rename_i hrea
    set s' : State := { s with
      dir := if fails then s.dir else s.dir.unlink lockPath
      procs := Function.update s.procs pid .fresh }
    have hself : s'.procs pid = .fresh := Function.update_self ..
    have hother : ∀ p, p ≠ pid → s'.procs p = s.procs p := fun p hp => Function.update_of_ne hp ..
    have hbytes : s'.dir.bytes = s.dir.bytes := by
      simp only [s']
      split <;> rfl
    have hali : s.alive pid = true := by
      by_contra hdead
      rw [h.ended pid (by simpa using hdead)] at hrea
      cases hrea.1
    have hfree : ∀ p, ¬ s'.Holds p := by
      intro p hp
      rcases eq_or_ne p pid with rfl | hne
      · have := hp.2
        rw [hself] at this
        cases this
      · exact hne (h.holder_unique ⟨hp.1, by simpa [hother p hne] using hp.2⟩ ⟨hali, hrea.1⟩)
    refine h.of_others (fun p hp => ⟨rfl, hother p hp⟩) h.zero (fun _ => hself)
      (fun _ => ⟨halone ⟨hali, hrea.1⟩, fun hp => ?_⟩) (fun p hp => (hfree p hp).elim)
      (hself ▸ trivial) (fun p _ => ?_)
    · rw [hself] at hp
      exact (hp rfl).elim
    · have hstands := h.stands p
      cases hp : (s.procs p).phase with
      | idle => trivial
      | opening random => trivial
      | reading random inode got =>
        rw [hp] at hstands
        exact ⟨by rw [hbytes]; exact hstands.1, fun q hq => (hfree q hq).elim⟩
      | checking random existing => exact fun q hq => (hfree q hq).elim
      | _ =>
        -- behind its check a process knows that nobody holds the lock
        rw [hp] at hstands
        first
          | exact (hstands pid ⟨hali, hrea.1⟩).elim
          | exact (hstands.1 pid ⟨hali, hrea.1⟩).elim
  · exact h

lemma step_exclusive {e : Event} (halone : Alone s e) :
    Exclusive json lockPath (step json lockPath s e) := by
  cases e with
  | spawn pid => exact step_spawn_exclusive h
  | exit pid => exact step_exit_exclusive h halone
  | acquire pid random => exact step_acquire_exclusive h halone
  | perform pid fails count => exact step_perform_exclusive h
  | drop pid fails => exact step_drop_exclusive h halone

end

lemma start_exclusive (dir : InodeDir OsName) (alive : UInt32 → Bool) :
    Exclusive json lockPath (start dir alive) := by
  refine ⟨fun _ _ => rfl, rfl, fun _ p _ hp => (hp rfl).elim, ?_, fun _ => trivial⟩
  rintro pid ⟨-, h⟩
  cases h

end

/-- **One holder, if no two acquisitions overlap while the lock is free.** From any lock file and any
living processes: in a run in which an acquisition starts beside another one only while somebody
holds the lock, and the holder goes only when at most one acquisition is under way, at most one
living process holds the lock at the end (so at any time), and the file a holder removes by dropping
its guard is not that of another living process. -/
theorem single_instance_when_alone (json : ValueFormat LockRecord) (lockPath : OsName)
    (dir : InodeDir OsName) (alive : UInt32 → Bool) (events : List Event)
    (halone : StepsMeet (step json lockPath) Alone (start dir alive) events) :
    (∀ p q, (run json lockPath dir alive events).Holds p →
      (run json lockPath dir alive events).Holds q → p = q) ∧
      ∀ p q, (run json lockPath dir alive events).Holds p → q ≠ p →
        (run json lockPath dir alive events).alive q = true →
        (run json lockPath dir alive events).dir.holds lockPath ≠ some (json.toVec ⟨q⟩) := by
  have h : Exclusive json lockPath (run json lockPath dir alive events) :=
    halone.invariant (fun _ _ h => step_exclusive h) (start_exclusive dir alive)
  refine ⟨fun p q => h.holder_unique, fun p q hp hne _ hq => hne ?_⟩
  have hsame := hq.symm.trans (h.record p hp)
  exact congrArg LockRecord.pid (json.toVec_injective (Option.some.inj hsame))

def fourBytes : ValueFormat LockRecord where
  toVec r := u32Le r.pid
  fromSlice b := some ⟨UInt32.ofNat (natOfLe b)⟩
  fromSlice_toVec r := by
    have hlt : r.pid.toNat < 256 ^ 4 := r.pid.toNat_lt
    rw [u32Le, natOfLe_leBytes, Nat.mod_eq_of_lt hlt, UInt32.ofNat_toNat]

def lockFile : OsName := .text "launcher.lock"

def calls (pid : UInt32) (n : Nat) : List Event := List.replicate n (.perform pid false 3)

/-- Two launchers look at the lock file at the same time while the first one holds the lock. -/
def othersRefused : List Event :=
  .acquire 1 10 :: calls 1 6 ++ .acquire 2 20 :: .acquire 3 30 :: (calls 2 4 ++ calls 3 4)

theorem single_instance_when_alone_sample :
    (run fourBytes lockFile .empty (fun _ => true) othersRefused).Holds 1 ∧
      ¬ (run fourBytes lockFile .empty (fun _ => true) othersRefused).Holds 2 ∧
      (run fourBytes lockFile .empty (fun _ => true) othersRefused).dir.holds lockFile ≠
        some (fourBytes.toVec ⟨3⟩) := by
  have hheld : (run fourBytes lockFile .empty (fun _ => true) (.acquire 1 10 :: calls 1 6)).Holds 1 ∧
      (step fourBytes lockFile (run fourBytes lockFile .empty (fun _ => true)
        (.acquire 1 10 :: calls 1 6)) (.acquire 2 20)).Holds 1 := by
    unfold State.Holds
    decide +kernel
  have halone : StepsMeet (step fourBytes lockFile) Alone (start .empty (fun _ => true))
      othersRefused := by
    refine stepsMeet_append.mpr ⟨⟨.inr fun _ _ _ => rfl, by simp [calls, StepsMeet, Alone]⟩,
      .inl ⟨1, hheld.1⟩, .inl ⟨1, hheld.2⟩, by simp [calls, StepsMeet, Alone]⟩
  have h := single_instance_when_alone fourBytes lockFile .empty (fun _ => true) othersRefused halone
  have hone : (run fourBytes lockFile .empty (fun _ => true) othersRefused).Holds 1 := by
    unfold State.Holds
    decide +kernel
  exact ⟨hone, fun htwo => absurd (h.1 1 2 hone htwo) (by decide),
    h.2 1 3 hone (by decide) (by decide +kernel)⟩

def overlapping : List Event :=
  .acquire 1 10 :: .acquire 2 20 :: calls 1 1 ++ calls 2 1 ++ calls 1 5 ++ calls 2 5

/-- **Two holders.** Of two processes that look for the lock file at the same time both acquire
the lock, and when the first drops its guard it removes the file of the second. -/
theorem overlapping_acquires_both_hold :
    (run fourBytes lockFile .empty (fun _ => true) overlapping).Holds 1 ∧
      (run fourBytes lockFile .empty (fun _ => true) overlapping).Holds 2 ∧
      (run fourBytes lockFile .empty (fun _ => true) overlapping).dir.holds lockFile =
        some (fourBytes.toVec ⟨2⟩) ∧
      (run fourBytes lockFile .empty (fun _ => true)
        (overlapping ++ [.drop 1 false])).dir.holds lockFile = none := by
  unfold State.Holds
  decide +kernel

end XeniaPeer.Storage.SingleInstance
