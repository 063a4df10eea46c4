import Mathlib.Data.List.Infix
import XeniaPeer.Foundation.Inodes
import XeniaPeer.Foundation.Runs

/-!
# Generate-or-load of a secret file

`load_or_create` of `xenia-secure-file`: an existing file is read; otherwise the caller generates
the contents, writes them to a temporary file beside it, and publishes that file under the final
name by a hard link, which fails if somebody else was faster. A loser reads the winner's file.

Main result: `loadOrCreate_agrees`.
-/

namespace XeniaPeer.Storage

open Foundation InodeDir
open Function (forall_update_iff)

inductive OsName where
  | text (s : String)
  | other (raw : Bytes)
deriving DecidableEq

def OsName.toStr : OsName → Option String
  | .text s => some s
  | .other _ => none

def tmpName (fileName : OsName) (unnamed : String) (random : UInt64) : OsName :=
  .text ("." ++ fileName.toStr.getD unnamed ++ ".tmp-" ++ toString random.toNat)

lemma tmpName_ne (fileName : OsName) (unnamed : String) (random : UInt64) :
    tmpName fileName unnamed random ≠ fileName := by
  intro h
  cases fileName with
  | other raw => cases h
  | text s =>
    have hlen := congrArg String.length (OsName.text.inj h)
    simp only [OsName.toStr, Option.getD_some, String.length_append] at hlen
    have : (".".length : Nat) = 1 := rfl
    omega

namespace SecureFile

inductive Call where
  | idle
  /-- The open of the existing file. -/
  | opening (generated : Bytes) (random : UInt64)
  | creating (contents : Bytes) (random : UInt64)
  /-- `write_all` of the temporary file, and `sync_all` when all is written. -/
  | writing (contents : Bytes) (tmp : OsName) (inode written : Nat)
  /-- The link of `publish_if_absent`. -/
  | linking (contents : Bytes) (tmp : OsName) (inode : Nat)
  /-- The unlink of `publish_if_absent`. -/
  | unlinking (contents : Bytes) (tmp : OsName) (inode : Nat) (published : Bool)
  /-- The unlink after a publish that failed. -/
  | cleaning (tmp : OsName) (inode : Nat)
  | syncingDir (contents : Bytes)
  /-- The open of the winner's file. -/
  | reopening
  | reading (inode : Nat) (got : Bytes)

def Call.temp : Call → Option (OsName × Nat)
  | .writing _ tmp inode _ => some (tmp, inode)
  | .linking _ tmp inode => some (tmp, inode)
  | .unlinking _ tmp inode _ => some (tmp, inode)
  | .cleaning tmp inode => some (tmp, inode)
  | _ => none

def Call.publishes : Call → Option Bytes
  | .opening generated _ => some generated
  | .creating contents _ => some contents
  | .writing contents _ _ _ => some contents
  | .linking contents _ _ => some contents
  | _ => none

/-- What a system call of `load_or_create` leaves: the directory, and the next call or the result,
where an error is `none`. -/
structure Effect where
  dir : InodeDir OsName
  next : Except (Option Bytes) Call

def perform (file : OsName) (dir : InodeDir OsName) (fails : Bool) (count : Nat) : Call → Effect
  | .idle => ⟨dir, .ok .idle⟩
  | .opening generated random =>
    if fails then ⟨dir, .error none⟩
    else
      match dir.entries file with
      | some inode => ⟨dir, .ok (.reading inode [])⟩
      | none => ⟨dir, .ok (.creating generated random)⟩
  | .creating contents random =>
    let tmp := tmpName file "secure-create" random
    -- `O_EXCL`
    if fails ∨ dir.entries tmp ≠ none then ⟨dir, .error none⟩
    else ⟨dir.create tmp, .ok (.writing contents tmp dir.next 0)⟩
  | .writing contents tmp inode written =>
    if fails then ⟨dir, .error none⟩
    else if written < contents.length then
      let part := (contents.drop written).take (count + 1)
      ⟨dir.append inode part, .ok (.writing contents tmp inode (written + part.length))⟩
    else ⟨dir, .ok (.linking contents tmp inode)⟩
  | .linking contents tmp inode =>
    if fails ∨ dir.entries tmp = none then ⟨dir, .ok (.cleaning tmp inode)⟩
    else if dir.entries file = none then
      ⟨dir.link tmp file, .ok (.unlinking contents tmp inode true)⟩
    -- `EEXIST`
    else ⟨dir, .ok (.unlinking contents tmp inode false)⟩
  | .unlinking contents tmp inode published =>
    if fails ∨ dir.entries tmp = none then ⟨dir, .ok (.cleaning tmp inode)⟩
    else ⟨dir.unlink tmp, .ok (if published then .syncingDir contents else .reopening)⟩
  | .cleaning tmp _ => ⟨if fails then dir else dir.unlink tmp, .error none⟩
  | .syncingDir contents => ⟨dir, .error (if fails then none else some contents)⟩
  | .reopening =>
    if fails then ⟨dir, .error none⟩
    else
      match dir.entries file with
      | some inode => ⟨dir, .ok (.reading inode [])⟩
      | none => ⟨dir, .error none⟩
  | .reading inode got =>
    if fails then ⟨dir, .error none⟩
    else if (dir.bytes inode).length ≤ got.length then ⟨dir, .error (some got)⟩
    else
      ⟨dir, .ok (.reading inode (got ++ ((dir.bytes inode).drop got.length).take (count + 1)))⟩

/-- The inode whose bytes the system call syncs. -/
def Call.flushes (fails : Bool) : Call → Option Nat
  | .writing contents _ inode written =>
    if fails ∨ written < contents.length then none else some inode
  | _ => none

/-- Whether the system call syncs the directory. -/
def Call.syncsDir (fails : Bool) : Call → Bool
  | .syncingDir _ => !fails
  | _ => false

/-- The directory as the callers see it, the entries and the inodes that are synced, where each
caller is, and what was returned. -/
structure State where
  dir : InodeDir OsName
  durable : OsName → Option Nat
  flushed : Nat → Bool
  calls : Nat → Call
  results : List (Option Bytes)

inductive Event where
  /-- A caller that is not in a call makes one; `generated` is what `generate` would return. -/
  | call (caller : Nat) (generated : Bytes) (random : UInt64)
  | perform (caller : Nat) (fails : Bool) (count : Nat)
  | crash (caller : Nat)
  /-- The machine stops. Of what is not synced, it keeps some entries and the first bytes of
  files. -/
  | powerLoss (kept : OsName → Bool) (left : Nat → Nat)

def Call.started : Call → Bytes → UInt64 → Call
  | .idle, generated, random => .opening generated random
  | call, _, _ => call

/-- Nobody is in a call, and all that is there is on the disk. -/
def State.booted (dir : InodeDir OsName) (results : List (Option Bytes)) : State :=
  ⟨dir, dir.entries, fun i => decide (i < dir.next), fun _ => .idle, results⟩

/-- What the machine finds after it stopped. -/
def State.survivor (s : State) (kept : OsName → Bool) (left : Nat → Nat) : InodeDir OsName :=
  s.dir.restored (fun name => if kept name then s.dir.entries name else s.durable name)
    (fun i => if s.flushed i then s.dir.bytes i else (s.dir.bytes i).take (left i))

def step (file : OsName) (s : State) : Event → State
  | .call caller generated random =>
    { s with calls := Function.update s.calls caller ((s.calls caller).started generated random) }
  | .perform caller fails count =>
    let call := s.calls caller
    let effect := perform file s.dir fails count call
    let s' : State := { s with
      dir := effect.dir
      durable := if call.syncsDir fails then s.dir.entries else s.durable
      flushed := fun i => s.flushed i || decide (call.flushes fails = some i) }
    match effect.next with
    | .ok next => { s' with calls := Function.update s.calls caller next }
    | .error result =>
      { s' with calls := Function.update s.calls caller .idle, results := result :: s.results }
  | .crash caller => { s with calls := Function.update s.calls caller .idle }
  | .powerLoss kept left => .booted (s.survivor kept left) s.results

def run (file : OsName) (dir : InodeDir OsName) (events : List Event) : State :=
  events.foldl (step file) (.booted dir [])

/-! ## One system call -/

def Call.Fits (file : OsName) (dir : InodeDir OsName) : Call → Prop
  | .writing contents _ inode written =>
    dir.entries file ≠ some inode ∧ dir.bytes inode = contents.take written
  | .linking contents _ inode => dir.bytes inode = contents
  | .unlinking contents _ _ published => published → dir.holds file = some contents
  | .syncingDir contents => dir.holds file = some contents
  | .reading inode got => dir.entries file = some inode ∧ got <+: dir.bytes inode
  | _ => True

def Call.Owns (file : OsName) (dir : InodeDir OsName) (call : Call) : Prop :=
  ∀ tmp inode, call.temp = some (tmp, inode) → dir.entries tmp = some inode ∧ tmp ≠ file

/-- A change of the directory that leaves the file under the final name and all inodes but one as
they are. -/
structure Spares (file : OsName) (own : Option Nat) (dir dir' : InodeDir OsName) : Prop where
  shown : ∀ i, dir.entries file = some i → dir'.entries file = some i ∧ dir'.bytes i = dir.bytes i
  entry : ∀ tmp i, tmp ≠ file → some i ≠ own → dir.entries tmp = some i → dir'.entries tmp = some i
  bytes : ∀ i < dir.next, some i ≠ own → dir'.bytes i = dir.bytes i
  unshown : ∀ i < dir.next, some i ≠ own → dir.entries file ≠ some i → dir'.entries file ≠ some i

variable {file tmp : OsName} {dir dir' : InodeDir OsName} {own : Option Nat} {inode : Nat}

lemma Spares.refl : Spares file own dir dir :=
  ⟨fun _ h => ⟨h, rfl⟩, fun _ _ _ _ h => h, fun _ _ _ => rfl, fun _ _ _ h => h⟩

variable {b : Bytes}

lemma Spares.holds (h : Spares file own dir dir') (hb : dir.holds file = some b) :
    dir'.holds file = some b := by
  obtain ⟨i, hent, hbytes⟩ := holds_eq_some.mp hb
  obtain ⟨hent', hbytes'⟩ := h.shown i hent
  exact holds_eq_some.mpr ⟨i, hent', hbytes'.trans hbytes⟩

lemma spares_create (hfree : dir.entries tmp = none) (hne : tmp ≠ file) :
    Spares file own dir (dir.create tmp) where
  shown i hi := ⟨by simpa [hne.symm] using hi, create_bytes_ne (dir.bounded file i hi).ne⟩
  entry tmp' i _ _ hi := by
    have hother : tmp' ≠ tmp := by
      rintro rfl
      cases hfree.symm.trans hi
    simpa [hother] using hi
  bytes i hlt _ := create_bytes_ne hlt.ne
  unshown i _ _ hi := by simpa [hne.symm] using hi

lemma spares_append {part : Bytes} (h : dir.entries file ≠ some inode) :
    Spares file (some inode) dir (dir.append inode part) where
  shown i hi := ⟨hi, append_bytes_ne (by rintro rfl; exact h hi)⟩
  entry _ _ _ _ hi := hi
  bytes i _ hi := append_bytes_ne (by rintro rfl; exact hi rfl)
  unshown _ _ _ hi := hi

lemma spares_link (htmp : dir.entries tmp = some inode) (hfree : dir.entries file = none) :
    Spares file (some inode) dir (dir.link tmp file) where
  shown i hi := by cases hfree.symm.trans hi
  entry tmp' i hne _ hi := by simpa [hne] using hi
  bytes _ _ _ := rfl
  unshown i _ hi _ := by
    rw [link_entries_self, htmp]
    exact hi.symm

lemma spares_unlink (htmp : dir.entries tmp = some inode) (hne : tmp ≠ file) :
    Spares file (some inode) dir (dir.unlink tmp) where
  shown i hi := ⟨by simpa [hne.symm] using hi, rfl⟩
  entry tmp' i _ hother hi := by
    have htmp' : tmp' ≠ tmp := by
      rintro rfl
      exact hother (hi.symm.trans htmp)
    simpa [htmp'] using hi
  bytes _ _ _ := rfl
  unshown i _ _ hi := by simpa [hne.symm] using hi

structure Proper (file : OsName) (dir : InodeDir OsName) (call : Call) (effect : Effect) :
    Prop where
  spares : Spares file (call.temp.map Prod.snd) dir effect.dir
  fits : ∀ call', effect.next = .ok call' → call'.Fits file effect.dir
  owns : ∀ call', effect.next = .ok call' → call'.Owns file effect.dir
  -- a temporary file is the one from before or new
  temp : ∀ call' tmp inode, effect.next = .ok call' → call'.temp = some (tmp, inode) →
    call.temp = some (tmp, inode) ∨ inode = dir.next
  publishes : ∀ call', effect.next = .ok call' → ∀ b ∈ call'.publishes, b ∈ call.publishes
  returns : ∀ r, effect.next = .error (some r) → effect.dir.holds file = some r
  -- the file is the one from before or has the contents of the call
  origin : ∀ b, effect.dir.holds file = some b → dir.holds file = some b ∨ b ∈ call.publishes

variable {call next : Call}

lemma Proper.goes (hfits : next.Fits file dir) (htemp : next.temp = none)
    (hpublish : ∀ b ∈ next.publishes, b ∈ call.publishes) : Proper file dir call ⟨dir, .ok next⟩ where
  spares := .refl
  fits _ h := Except.ok.inj h ▸ hfits
  owns := by
    rintro _ ⟨⟩ _ _ ht
    cases htemp.symm.trans ht
  temp := by
    rintro _ _ _ ⟨⟩ ht
    cases htemp.symm.trans ht
  publishes _ h := Except.ok.inj h ▸ hpublish
  returns _ h := by cases h
  origin _ h := .inl h

lemma Proper.keeps {dir' : InodeDir OsName}
    (hspare : Spares file (call.temp.map Prod.snd) dir dir') (hfits : next.Fits file dir')
    (htemp : next.temp = call.temp) (howns : next.Owns file dir')
    (hpublish : ∀ b ∈ next.publishes, b ∈ call.publishes)
    (horigin : ∀ b, dir'.holds file = some b → dir.holds file = some b ∨ b ∈ call.publishes) :
    Proper file dir call ⟨dir', .ok next⟩ where
  spares := hspare
  fits _ h := Except.ok.inj h ▸ hfits
  owns _ h := Except.ok.inj h ▸ howns
  temp _ tmp inode h ht := .inl (by rwa [← Except.ok.inj h, htemp] at ht)
  publishes _ h := Except.ok.inj h ▸ hpublish
  returns _ h := by cases h
  origin := horigin

lemma Proper.ends {result : Option Bytes}
    (hresult : ∀ r, result = some r → dir.holds file = some r) :
    Proper file dir call ⟨dir, .error result⟩ where
  spares := .refl
  fits _ h := by cases h
  owns _ h := by cases h
  temp _ _ _ h := by cases h
  publishes _ h := by cases h
  returns r h := hresult r (Except.error.inj h)
  origin _ h := .inl h

lemma Proper.fails : Proper file dir call ⟨dir, .error none⟩ := .ends nofun

variable {fails : Bool}

lemma proper_open {absent : Effect}
    (h : dir.entries file = none → Proper file dir call absent) : Proper file dir call
      (if fails then ⟨dir, .error none⟩
       else match dir.entries file with
         | some inode => ⟨dir, .ok (.reading inode [])⟩
         | none => absent) := by
  split
  · exact .fails
  · split
    · rename_i inode hino
      exact .goes ⟨hino, List.nil_prefix⟩ rfl nofun
    · rename_i hnone
      exact h hnone

variable {contents : Bytes} {count : Nat}

lemma proper_creating {random : UInt64} : Proper file dir (.creating contents random)
      (perform file dir fails count (.creating contents random)) := by
  simp only [perform]
  split
  · exact .fails
  · rename_i hfree
    have hne : tmpName file "secure-create" random ≠ file := tmpName_ne file "secure-create" random
    have habs : dir.entries (tmpName file "secure-create" random) = none := by
      simpa using fun h => hfree (.inr h)
    refine ⟨spares_create habs hne, ?_, ?_, ?_, ?_, nofun, ?_⟩
    · rintro _ ⟨⟩
      refine ⟨?_, by simp⟩
      rw [create_entries_ne hne.symm]
      exact fun h => (dir.bounded file _ h).ne rfl
    · rintro _ ⟨⟩ tmp inode ⟨⟩
      exact ⟨by simp, hne⟩
    · rintro _ tmp inode ⟨⟩ ⟨⟩
      exact .inr rfl
    · rintro _ ⟨⟩ b hb
      exact hb
    · intro b hb
      left
      obtain ⟨i, hi, hbytes⟩ := holds_eq_some.mp hb
      rw [create_entries_ne hne.symm] at hi
      rw [create_bytes_ne (dir.bounded file i hi).ne] at hbytes
      exact holds_eq_some.mpr ⟨i, hi, hbytes⟩

lemma proper_writing {written : Nat}
    (howns : (Call.writing contents tmp inode written).Owns file dir)
    (hfits : (Call.writing contents tmp inode written).Fits file dir) :
    Proper file dir (.writing contents tmp inode written)
      (perform file dir fails count (.writing contents tmp inode written)) := by
  obtain ⟨hunshown, hbytes⟩ := hfits
  obtain ⟨htmp, hne⟩ := howns tmp inode rfl
  simp only [perform]
  split
  · exact .fails
  · split
    · refine .keeps (spares_append hunshown) ⟨hunshown, append_bytes_take hbytes⟩ rfl howns
        (fun b hb => hb) ?_
      intro b hb
      left
      obtain ⟨i, hi, hb'⟩ := holds_eq_some.mp hb
      rw [append_bytes_ne (by rintro rfl; exact hunshown hi)] at hb'
      exact holds_eq_some.mpr ⟨i, hi, hb'⟩
    · rename_i hdone
      refine .keeps .refl ?_ rfl howns (fun b hb => hb) (fun b hb => .inl hb)
      exact hbytes.trans (List.take_of_length_le (by omega))

lemma proper_linking (howns : (Call.linking contents tmp inode).Owns file dir)
    (hfits : (Call.linking contents tmp inode).Fits file dir) :
    Proper file dir (.linking contents tmp inode)
      (perform file dir fails count (.linking contents tmp inode)) := by
  obtain ⟨htmp, hne⟩ := howns tmp inode rfl
  have h : (dir.link tmp file).holds file = some contents :=
    holds_eq_some.mpr ⟨inode, by simpa using htmp, hfits⟩
  simp only [perform]
  split
  · exact .keeps .refl trivial rfl howns nofun (fun b hb => .inl hb)
  · split
    · rename_i hfree
      refine .keeps (spares_link htmp hfree) (fun _ => h) rfl ?_ nofun ?_
      · rintro _ _ ⟨⟩
        exact ⟨by simpa [hne] using htmp, hne⟩
      · intro b hb
        exact .inr (h.symm.trans hb)
    · refine .keeps .refl ?_ rfl howns nofun (fun b hb => .inl hb)
      exact nofun

lemma holds_unlink (hne : tmp ≠ file) : (dir.unlink tmp).holds file = dir.holds file := by
  simp [holds, hne.symm]

lemma proper_unlinking {published : Bool}
    (howns : (Call.unlinking contents tmp inode published).Owns file dir)
    (hfits : (Call.unlinking contents tmp inode published).Fits file dir) :
    Proper file dir (.unlinking contents tmp inode published)
      (perform file dir fails count (.unlinking contents tmp inode published)) := by
  obtain ⟨htmp, hne⟩ := howns tmp inode rfl
  simp only [perform]
  split
  · exact .keeps .refl trivial rfl howns nofun (fun b hb => .inl hb)
  · refine ⟨spares_unlink htmp hne, ?_, ?_, ?_, ?_, nofun, ?_⟩
    · rintro _ ⟨⟩
      cases published with
      | true => exact (holds_unlink hne).trans (hfits rfl)
      | false => trivial
    · rintro _ ⟨⟩ _ _ h
      cases published <;> cases h
    · rintro _ _ _ ⟨⟩ h
      cases published <;> cases h
    · rintro _ ⟨⟩ b h
      cases published <;> cases h
    · intro b hb
      exact .inl ((holds_unlink hne).symm.trans hb)

lemma proper_cleaning (howns : (Call.cleaning tmp inode).Owns file dir) :
    Proper file dir (.cleaning tmp inode) (perform file dir fails count (.cleaning tmp inode)) := by
  obtain ⟨htmp, hne⟩ := howns tmp inode rfl
  cases fails with
  | true => exact .fails
  | false =>
    refine ⟨spares_unlink htmp hne, nofun, nofun, nofun, nofun, nofun, ?_⟩
    intro b hb
    exact .inl ((holds_unlink hne).symm.trans hb)

lemma proper_reading {got : Bytes} (hfits : (Call.reading inode got).Fits file dir) :
    Proper file dir (.reading inode got) (perform file dir fails count (.reading inode got)) := by
  obtain ⟨hfile, hgot⟩ := hfits
  simp only [perform]
  split
  · exact .fails
  · split
    · rename_i hend
      refine .ends ?_
      rintro _ ⟨⟩
      exact holds_eq_some.mpr ⟨inode, hfile, (hgot.eq_of_length_le hend).symm⟩
    · exact .goes ⟨hfile, prefix_append_take hgot⟩ rfl nofun

lemma perform_proper (howns : call.Owns file dir) (hfits : call.Fits file dir) :
    Proper file dir call (perform file dir fails count call) := by
  cases call with
  | idle => exact .goes trivial rfl nofun
  | opening generated random => exact proper_open fun _ => .goes trivial rfl (fun b hb => hb)
  | creating contents random => exact proper_creating
  | writing contents tmp inode written => exact proper_writing howns hfits
  | linking contents tmp inode => exact proper_linking howns hfits
  | unlinking contents tmp inode published => exact proper_unlinking howns hfits
  | cleaning tmp inode => exact proper_cleaning howns
  | syncingDir contents =>
    refine .ends ?_
    intro r hr
    cases fails with
    | true => cases hr
    | false =>
      cases hr
      exact hfits
  | reopening => exact proper_open fun _ => .fails
  | reading inode got => exact proper_reading hfits

lemma flushes_of_linking (h : (perform file dir fails count call).next =
    .ok (.linking contents tmp inode)) : call.flushes fails = some inode := by
  cases call with
  | writing _ _ _ written =>
    simp only [perform] at h
    split at h
    · cases h
    · split at h
      · cases h
      · rename_i hgoes hdone
        cases h
        simp [Call.flushes, hgoes, hdone]
  | _ =>
    simp only [perform] at h
    repeat' split at h
    all_goals cases h

lemma linked_of_perform (howns : call.Owns file dir)
    (h : (perform file dir fails count call).dir.entries file = some inode) :
    dir.entries file = some inode ∨ ∃ contents tmp, call = .linking contents tmp inode := by
  cases call with
  | creating contents random =>
    have hne := tmpName_ne file "secure-create" random
    simp only [perform] at h
    split at h
    · exact .inl h
    · exact .inl (by simpa [hne.symm] using h)
  | linking contents tmp own =>
    obtain ⟨htmp, -⟩ := howns tmp own rfl
    simp only [perform] at h
    split at h
    · exact .inl h
    · split at h
      · rw [link_entries_self, htmp] at h
        cases h
        exact .inr ⟨contents, tmp, rfl⟩
      · exact .inl h
  | unlinking contents tmp own published =>
    obtain ⟨-, hne⟩ := howns tmp own rfl
    simp only [perform] at h
    split at h
    · exact .inl h
    · exact .inl (by simpa [hne.symm] using h)
  | cleaning tmp own =>
    obtain ⟨-, hne⟩ := howns tmp own rfl
    simp only [perform] at h
    split at h
    · exact .inl h
    · exact .inl (by simpa [hne.symm] using h)
  | _ =>
    left
    simp only [perform] at h
    repeat' split at h
    all_goals exact h

/-! ## Runs -/

/-- Callers have different temporary files, each caller is where the directory says, and what has
been returned is what the file holds. `sources` is where the contents of the file come from. -/
structure Coherent (file : OsName) (sources : Set Bytes) (s : State) : Prop where
  owns : ∀ caller, (s.calls caller).Owns file s.dir
  fits : ∀ caller, (s.calls caller).Fits file s.dir
  apart : ∀ a b tmp tmp' inode, (s.calls a).temp = some (tmp, inode) →
    (s.calls b).temp = some (tmp', inode) → a = b
  publishes : ∀ caller, ∀ b ∈ (s.calls caller).publishes, b ∈ sources
  origin : ∀ b, s.dir.holds file = some b → b ∈ sources
  results : ∀ r, some r ∈ s.results → s.dir.holds file = some r
  -- the bytes are synced before the link
  ready : ∀ caller contents tmp inode, s.calls caller = .linking contents tmp inode →
    s.flushed inode = true
  flushed : ∀ inode, s.dir.entries file = some inode → s.flushed inode = true

lemma Call.Fits.of_spares (hfits : call.Fits file dir) (howns : call.Owns file dir)
    (hspare : Spares file own dir dir')
    (hother : ∀ tmp inode, call.temp = some (tmp, inode) → some inode ≠ own) :
    call.Fits file dir' ∧ call.Owns file dir' := by
  refine ⟨?_, ?_⟩
  · cases call with
    | writing contents tmp inode written =>
      have hlt := dir.bounded _ _ (howns tmp inode rfl).1
      exact ⟨hspare.unshown inode hlt (hother tmp inode rfl) hfits.1,
        (hspare.bytes inode hlt (hother tmp inode rfl)).trans hfits.2⟩
    | linking contents tmp inode =>
      have hlt := dir.bounded _ _ (howns tmp inode rfl).1
      exact (hspare.bytes inode hlt (hother tmp inode rfl)).trans hfits
    | unlinking contents tmp inode published => exact fun h => hspare.holds (hfits h)
    | syncingDir contents => exact hspare.holds hfits
    | reading inode got =>
      obtain ⟨hent, hbytes⟩ := hspare.shown inode hfits.1
      exact ⟨hent, hbytes ▸ hfits.2⟩
    | _ => trivial
  · intro tmp inode htemp
    obtain ⟨hent, hne⟩ := howns tmp inode htemp
    exact ⟨hspare.entry tmp inode hne (hother tmp inode htemp) hent, hne⟩

variable {sources : Set Bytes} {s : State} {caller : Nat}

lemma Coherent.setCall (h : Coherent file sources s) (hfits : call.Fits file s.dir)
    (htemp : call.temp = none) (hpublish : ∀ b ∈ call.publishes, b ∈ sources) :
    Coherent file sources { s with calls := Function.update s.calls caller call } := by
  have hnone : ∀ a t, (Function.update s.calls caller call a).temp = some t →
      (s.calls a).temp = some t := by
    refine (forall_update_iff s.calls fun a c => ∀ t, c.temp = some t → (s.calls a).temp = some t).mpr
      ⟨fun t ht => ?_, fun _ _ _ ht => ht⟩
    cases htemp.symm.trans ht
  refine ⟨fun a tmp inode ht => h.owns a tmp inode (hnone a _ ht),
    (forall_update_iff s.calls fun _ c => c.Fits file s.dir).mpr
      ⟨hfits, fun a _ => h.fits a⟩,
    fun a b tmp tmp' inode ha hb => h.apart a b tmp tmp' inode (hnone a _ ha) (hnone b _ hb),
    (forall_update_iff s.calls fun _ c => ∀ b ∈ c.publishes, b ∈ sources).mpr
      ⟨hpublish, fun a _ => h.publishes a⟩, h.origin, h.results,
    (forall_update_iff s.calls fun _ c => ∀ contents tmp inode,
      c = .linking contents tmp inode → s.flushed inode = true).mpr ⟨?_, fun a _ => h.ready a⟩,
    h.flushed⟩
  rintro contents tmp inode rfl
  cases htemp

variable {effect : Effect}

lemma Coherent.others (h : Coherent file sources s)
    (hproper : Proper file s.dir (s.calls caller) effect) {a : Nat} (ha : a ≠ caller) :
    (s.calls a).Fits file effect.dir ∧ (s.calls a).Owns file effect.dir := by
  refine (h.fits a).of_spares (h.owns a) hproper.spares ?_
  intro tmp inode htemp hown
  obtain ⟨⟨tmp', inode'⟩, hmine, rfl⟩ := Option.map_eq_some_iff.mp hown.symm
  exact ha (h.apart a caller tmp tmp' inode' htemp hmine)

lemma Coherent.origin_of_proper (h : Coherent file sources s)
    (hproper : Proper file s.dir (s.calls caller) effect) (hb : effect.dir.holds file = some b) :
    b ∈ sources := by
  rcases hproper.origin b hb with hbefore | hmine
  · exact h.origin b hbefore
  · exact h.publishes caller b hmine

lemma step_perform_coherent (h : Coherent file sources s) :
    Coherent file sources (step file s (.perform caller fails count)) := by
  have hpro : Proper file s.dir (s.calls caller) (perform file s.dir fails count (s.calls caller)) :=
    perform_proper (h.owns caller) (h.fits caller)
  have hflushed : ∀ inode, (perform file s.dir fails count (s.calls caller)).dir.entries file =
      some inode →
      (s.flushed inode || decide ((s.calls caller).flushes fails = some inode)) = true := by
    intro inode hentry
    rcases linked_of_perform (h.owns caller) hentry with hbefore | ⟨contents, tmp, hcall⟩
    · simp [h.flushed inode hbefore]
    · simp [h.ready caller contents tmp inode hcall]
  have hready : ∀ contents tmp inode, (perform file s.dir fails count (s.calls caller)).next =
      .ok (.linking contents tmp inode) →
      (s.flushed inode || decide ((s.calls caller).flushes fails = some inode)) = true := by
    intro contents tmp inode hnext
    simp [flushes_of_linking hnext]
  simp only [step]
  generalize perform file s.dir fails count (s.calls caller) = effect at hpro hflushed hready
  have hres : ∀ r, some r ∈ s.results → effect.dir.holds file = some r :=
    fun r hr => hpro.spares.holds (h.results r hr)
  split
  · rename_i call hnext
    -- a temporary file of the caller that is new has an inode that nobody else has
    have hapa : ∀ a tmp tmp' inode, a ≠ caller → call.temp = some (tmp, inode) →
        (s.calls a).temp = some (tmp', inode) → False := by
      intro a tmp tmp' inode hne hmine hother
      rcases hpro.temp call tmp inode hnext hmine with hprior | rfl
      · exact hne (h.apart a caller tmp' tmp inode hother hprior)
      · exact (s.dir.bounded _ _ (h.owns a tmp' _ hother).1).ne rfl
    refine ⟨(forall_update_iff s.calls fun _ c => c.Owns file effect.dir).mpr
        ⟨hpro.owns call hnext, fun a ha => (h.others hpro ha).2⟩,
      (forall_update_iff s.calls fun _ c => c.Fits file effect.dir).mpr
        ⟨hpro.fits call hnext, fun a ha => (h.others hpro ha).1⟩,
      fun a b tmp tmp' inode ha hb => ?_,
      (forall_update_iff s.calls fun _ c => ∀ b ∈ c.publishes, b ∈ sources).mpr
        ⟨fun b hb => h.publishes caller b (hpro.publishes call hnext b hb), fun a _ => h.publishes a⟩,
      fun b hb => h.origin_of_proper hpro hb, hres, fun a contents tmp inode ha => ?_, hflushed⟩
    · rcases eq_or_ne a caller with hac | hac <;> rcases eq_or_ne b caller with hbc | hbc
      · exact hac.trans hbc.symm
      · subst hac
        simp only [Function.update_self, Function.update_of_ne hbc] at ha hb
        exact (hapa b tmp tmp' inode hbc ha hb).elim
      · subst hbc
        simp only [Function.update_self, Function.update_of_ne hac] at ha hb
        exact (hapa a tmp' tmp inode hac hb ha).elim
      · simp only [Function.update_of_ne hac, Function.update_of_ne hbc] at ha hb
        exact h.apart a b tmp tmp' inode ha hb
    · rcases eq_or_ne a caller with rfl | hne
      · simp only [Function.update_self] at ha
        exact hready contents tmp inode (hnext.trans (congrArg _ ha))
      · simp only [Function.update_of_ne hne] at ha
        simp [h.ready a contents tmp inode ha]
  · rename_i result hnext
    have hend : Coherent file sources { s with calls := Function.update s.calls caller .idle } :=
      h.setCall trivial rfl nofun
    refine ⟨(forall_update_iff s.calls fun _ c => c.Owns file effect.dir).mpr
        ⟨nofun, fun a ha => (h.others hpro ha).2⟩,
      (forall_update_iff s.calls fun _ c => c.Fits file effect.dir).mpr
        ⟨trivial, fun a ha => (h.others hpro ha).1⟩, hend.apart, hend.publishes,
      fun b hb => h.origin_of_proper hpro hb, fun r hr => ?_, fun a contents tmp inode ha => ?_,
      hflushed⟩
    · rcases List.mem_cons.mp hr with rfl | hr
      · exact hpro.returns r hnext
      · exact hres r hr
    · have hsynced : s.flushed inode = true := hend.ready a contents tmp inode ha
      simp [hsynced]

/-- Nothing is lost of the file when the machine stops: its entry is synced, or it survives. -/
def LinkSurvives (file : OsName) (s : State) : Event → Prop
  | .powerLoss kept _ => kept file = true ∨ s.durable file = s.dir.entries file
  | _ => True

instance (file : OsName) (s : State) (e : Event) : Decidable (LinkSurvives file s e) :=
  match e with
  | .powerLoss kept _ =>
    inferInstanceAs (Decidable (kept file = true ∨ s.durable file = s.dir.entries file))
  | .call .. | .perform .. | .crash .. => isTrue trivial

lemma Coherent.holds_survivor (h : Coherent file sources s) {kept : OsName → Bool}
    {left : Nat → Nat} (hkept : LinkSurvives file s (.powerLoss kept left)) :
    (s.survivor kept left).holds file = s.dir.holds file := by
  have hentry : (if kept file then s.dir.entries file else s.durable file) = s.dir.entries file := by
    rcases hkept with hkept | hsynced
    · rw [if_pos hkept]
    · rw [hsynced, ite_self]
  unfold holds State.survivor InodeDir.restored
  dsimp only
  rw [hentry]
  cases hfile : s.dir.entries file with
  | none => rfl
  | some inode =>
    have hlt := s.dir.bounded file inode hfile
    simp [hlt, h.flushed inode hfile]

lemma booted_coherent {results : List (Option Bytes)}
    (horigin : ∀ b, dir.holds file = some b → b ∈ sources)
    (hresults : ∀ r, some r ∈ results → dir.holds file = some r) :
    Coherent file sources (.booted dir results) := by
  refine ⟨fun _ _ _ h => ?_, fun _ => trivial, fun _ _ _ _ _ h => ?_, fun _ _ h => ?_, horigin,
    hresults, fun _ _ _ _ h => ?_, fun inode h => decide_eq_true (dir.bounded file inode h)⟩ <;>
  cases h

def Event.generated : Event → Option Bytes
  | .call _ generated _ => some generated
  | _ => none

variable {e : Event}

lemma step_coherent (hsources : ∀ b ∈ e.generated, b ∈ sources) (h : Coherent file sources s)
    (hkept : LinkSurvives file s e) : Coherent file sources (step file s e) := by
  cases e with
  | call caller generated random =>
    cases hcall : s.calls caller with
    | idle =>
      simp only [step, hcall, Call.started]
      exact h.setCall trivial rfl hsources
    | _ =>
      simp only [step, hcall, Call.started]
      rw [← hcall, Function.update_eq_self]
      exact h
  | perform caller fails count => exact step_perform_coherent h
  | crash caller => exact h.setCall trivial rfl nofun
  | powerLoss kept left =>
    have hholds := h.holds_survivor hkept
    exact booted_coherent (fun b hb => h.origin b (hholds ▸ hb))
      (fun r hr => hholds.trans (h.results r hr))

lemma step_holds (h : Coherent file sources s) (hkept : LinkSurvives file s e)
    (hb : s.dir.holds file = some b) : (step file s e).dir.holds file = some b := by
  cases e with
  | call caller generated random => exact hb
  | crash caller => exact hb
  | perform caller fails count =>
    have hpro : Proper file s.dir (s.calls caller)
        (perform file s.dir fails count (s.calls caller)) :=
      perform_proper (h.owns caller) (h.fits caller)
    have hstays := hpro.spares.holds hb
    simp only [step]
    split <;> exact hstays
  | powerLoss kept left => exact (h.holds_survivor hkept).trans hb

/-- Where the contents of the file can come from in a run. -/
def Sources (file : OsName) (dir : InodeDir OsName) (events : List Event) : Set Bytes :=
  {b | dir.holds file = some b ∨ ∃ e ∈ events, b ∈ e.generated}

lemma foldl_coherent {events : List Event} (hsources : ∀ e ∈ events, ∀ b ∈ e.generated, b ∈ sources)
    (hkept : StepsMeet (step file) (LinkSurvives file) s events) (h : Coherent file sources s) :
    Coherent file sources (events.foldl (step file) s) ∧
      ∀ b, s.dir.holds file = some b → (events.foldl (step file) s).dir.holds file = some b := by
  induction events generalizing s with
  | nil => exact ⟨h, fun _ hb => hb⟩
  | cons e events ih =>
    have hnext := step_coherent (hsources e List.mem_cons_self) h hkept.1
    obtain ⟨hend, hholds⟩ := ih (fun e' he' => hsources e' (List.mem_cons_of_mem _ he')) hkept.2 hnext
    exact ⟨hend, fun b hb => hholds b (step_holds h hkept.1 hb)⟩

lemma run_coherent {events : List Event}
    (hkept : StepsMeet (step file) (LinkSurvives file) (.booted dir []) events) :
    Coherent file (Sources file dir events) (run file dir events) :=
  (foldl_coherent (fun e he _ hb => .inr ⟨e, he, hb⟩) hkept
    (booted_coherent (fun _ hb => .inl hb) nofun)).1

lemma run_holds {events later : List Event}
    (hkept : StepsMeet (step file) (LinkSurvives file) (.booted dir []) (events ++ later))
    (hb : (run file dir events).dir.holds file = some b) :
    (run file dir (events ++ later)).dir.holds file = some b := by
  obtain ⟨hearlier, hlater⟩ := stepsMeet_append.mp hkept
  have hcoherent : Coherent file Set.univ (run file dir events) :=
    (foldl_coherent (fun _ _ _ _ => trivial) hearlier
      (booted_coherent (fun _ _ => trivial) nofun)).1
  rw [run, List.foldl_append]
  exact (foldl_coherent (fun _ _ _ _ => trivial) hlater hcoherent).2 b hb

/-- The calls that publish `contents` where nothing is there yet: open, create, write, sync, link,
unlink and the sync of the directory. -/
def publishing (caller : Nat) (contents : Bytes) : List Event :=
  .call caller contents 0 :: List.replicate 7 (.perform caller false contents.length)

end SecureFile

end XeniaPeer.Storage
