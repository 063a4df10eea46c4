import XeniaPeer.Foundation.Disk
import XeniaPeer.Foundation.Files
import XeniaPeer.Foundation.Words

/-!
# Staging of received files

The receiver of one offered file (`xenia-peer-core`, `file_transfer.rs`): the chunks are written in
their order to a private file next to the destination, which is published under the name of the
destination by a hard link once the size and the hash are right. Dropping the stager takes the
private name away.
-/

namespace XeniaPeer.Transfer

open Foundation

inductive IoErrorKind where
  | alreadyExists
  | notFound
  | invalidInput
  | brokenPipe
  | other
deriving DecidableEq

structure IoError where
  kind : IoErrorKind
  message : String

inductive IncomingFileStageError where
  | unexpectedOffset (expected actual : UInt64)
  | sizeExceeded (expectedSize attemptedEnd : UInt64)
  | sizeMismatch (expected actual : UInt64)
  | hashMismatch
  | io (error : IoError)

/-! ## The staging file -/

def stagingAttempts : Nat := 32

def receiveParent (path : Path) : Except IoError Path :=
  match path.getLast? with
  | none => .error ⟨.invalidInput, "received-file destination has no filename"⟩
  | some name =>
    if name = ".." then .error ⟨.invalidInput, "received-file destination has no filename"⟩
    else .ok path.dropLast

def hex16 (n : UInt64) : String := lowerHex (u64Le n).reverse

def stagingName (processId : UInt32) (high low : UInt64) : String :=
  ".xenia-receive-" ++ toString processId.toNat ++ "-" ++ hex16 high ++ hex16 low ++ ".tmp"

/-- One draw of a staging name, and what opening it fails with, if it fails for another reason
than that the name is taken. -/
structure StagingAttempt where
  (high low : UInt64)
  fault : Option IoError

def createNew (disk : Disk Path) (path : Path) (fault : Option IoError) :
    Except IoError Nat × Disk Path :=
  match fault with
  | some error => (.error error, disk)
  | none =>
    match disk.names path with
    | some _ => (.error ⟨.alreadyExists, "File exists"⟩, disk)
    | none => (.ok disk.next, disk.create path)

def openStagingLoop (processId : UInt32) (parent : Path) (disk : Disk Path) :
    Nat → (Nat → StagingAttempt) → Except IoError (Path × Nat) × Disk Path
  | 0, _ =>
    (.error ⟨.alreadyExists, "could not allocate a unique received-file staging path"⟩, disk)
  | left + 1, attempts =>
    let path := parent ++ [stagingName processId (attempts 0).high (attempts 0).low]
    match createNew disk path (attempts 0).fault with
    | (.ok file, disk') => (.ok (path, file), disk')
    | (.error error, disk') =>
      if error.kind = .alreadyExists then
        openStagingLoop processId parent disk' left (fun i => attempts (i + 1))
      else (.error error, disk')

def openStagingFile (processId : UInt32) (parent : Path) (disk : Disk Path)
    (attempts : Nat → StagingAttempt) : Except IoError (Path × Nat) × Disk Path :=
  openStagingLoop processId parent disk stagingAttempts attempts

/-! ## The stager -/

structure IncomingFileStager where
  (finalPath stagingPath : Path)
  file : Option Nat
  hasher : Bytes
  expectedSize : UInt64
  expectedHash : FixedBytes 32
  received : UInt64

namespace IncomingFileStager

def create (processId : UInt32) (disk : Disk Path) (finalPath : Path) (expectedSize : UInt64)
    (expectedHash : FixedBytes 32) (attempts : Nat → StagingAttempt) :
    Except IncomingFileStageError IncomingFileStager × Disk Path :=
  match receiveParent finalPath with
  | .error error => (.error (.io error), disk)
  | .ok parent =>
    match openStagingFile processId parent disk attempts with
    | (.error error, disk') => (.error (.io error), disk')
    | (.ok (stagingPath, file), disk') =>
      (.ok ⟨finalPath, stagingPath, some file, [], expectedSize, expectedHash, 0⟩, disk')

def attemptedEnd (stager : IncomingFileStager) (offset : UInt64) (bytes : Bytes) :
    Except IncomingFileStageError UInt64 :=
  if offset ≠ stager.received then .error (.unexpectedOffset stager.received offset)
  else if ¬ bytes.length < 2 ^ 64 then
    .error (.sizeExceeded stager.expectedSize (UInt64.ofNat (2 ^ 64 - 1)))
  else
    match checkedAdd stager.received bytes.length with
    | none => .error (.sizeExceeded stager.expectedSize (UInt64.ofNat (2 ^ 64 - 1)))
    | some attemptedEnd =>
      if attemptedEnd > stager.expectedSize then
        .error (.sizeExceeded stager.expectedSize attemptedEnd)
      else .ok attemptedEnd

def append (stager : IncomingFileStager) (disk : Disk Path) (offset : UInt64) (bytes : Bytes)
    (fault : Option (Nat × IoError)) :
    Except IncomingFileStageError UInt64 × IncomingFileStager × Disk Path :=
  match stager.attemptedEnd offset bytes with
  | .error error => (.error error, stager, disk)
  | .ok attemptedEnd =>
    match stager.file with
    | none => (.error (.io ⟨.brokenPipe, "receive stager is already closed"⟩), stager, disk)
    | some file =>
      match fault with
      | some (written, error) => (.error (.io error), stager, disk.append file (bytes.take written))
      | none =>
        (.ok attemptedEnd,
          { stager with hasher := stager.hasher ++ bytes, received := attemptedEnd },
          disk.append file bytes)

def drop (stager : IncomingFileStager) (disk : Disk Path) (removeFails : Bool) : Disk Path :=
  if removeFails then disk else disk.unlink stager.stagingPath

def hardLink (disk : Disk Path) (source target : Path) (fault : Option IoError) :
    Except IoError Unit × Disk Path :=
  match fault with
  | some error => (.error error, disk)
  | none =>
    match hsource : disk.names source with
    | none => (.error ⟨.notFound, "No such file or directory"⟩, disk)
    | some file =>
      match disk.names target with
      | some _ => (.error ⟨.alreadyExists, "File exists"⟩, disk)
      | none => (.ok (), disk.link file (disk.named source file hsource) target)

variable (blake3 : Bytes → FixedBytes 32)

structure FinishFaults where
  (sync link : Option IoError)
  removeFails : Bool

def publish (stager : IncomingFileStager) (disk : Disk Path) (faults : FinishFaults) :
    Except IncomingFileStageError Unit × Disk Path :=
  if stager.received ≠ stager.expectedSize then
    (.error (.sizeMismatch stager.expectedSize stager.received), disk)
  else if blake3 stager.hasher ≠ stager.expectedHash then (.error .hashMismatch, disk)
  else
    match stager.file, faults.sync with
    | some _, some error => (.error (.io error), disk)
    | _, _ =>
      match hardLink disk stager.stagingPath stager.finalPath faults.link with
      | (.error error, disk') => (.error (.io error), disk')
      | (.ok (), disk') => (.ok (), disk')

def finish (stager : IncomingFileStager) (disk : Disk Path) (faults : FinishFaults) :
    Except IncomingFileStageError Unit × Disk Path :=
  let (result, disk') := stager.publish blake3 disk faults
  (result, stager.drop disk' faults.removeFails)

/-! ## What the operations come to -/

variable {blake3} {stager : IncomingFileStager}

lemma attemptedEnd_ok {offset attempted : UInt64} {bytes : Bytes} :
    stager.attemptedEnd offset bytes = .ok attempted ↔
      offset = stager.received ∧ attempted.toNat = stager.received.toNat + bytes.length ∧
        attempted ≤ stager.expectedSize := by
  unfold attemptedEnd
  by_cases hoff : offset = stager.received
  · rw [if_neg (not_not.mpr hoff)]
    constructor
    · intro h
      split at h
      · cases h
      · split at h
        · cases h
        · rename_i hsum
          split at h
          · cases h
          · rename_i hle
            cases h
            exact ⟨hoff, toNat_of_checkedAdd hsum, UInt64.not_lt.mp hle⟩
    · rintro ⟨-, hsum, hle⟩
      have hlt := attempted.toNat_lt
      have hadd : checkedAdd stager.received bytes.length = some attempted := by
        rw [checkedAdd, if_pos (by omega), ← hsum, UInt64.ofNat_toNat]
      rw [if_neg (by omega), hadd]
      exact if_neg (UInt64.not_lt.mpr hle)
  · rw [if_pos hoff]
    exact ⟨nofun, fun h => absurd h.1 hoff⟩

variable {disk disk' : Disk Path} {source target : Path} {fault : Option IoError}

lemma hardLink_ok : hardLink disk source target fault = (.ok (), disk') ↔
      fault = none ∧ disk.names target = none ∧
        ∃ file hfile, disk.names source = some file ∧ disk.link file hfile target = disk' := by
  unfold hardLink
  cases fault with
  | some error => simp
  | none =>
    simp only [true_and]
    split
    · rename_i h
      simp [h]
    · rename_i file h
      split
      · rename_i htgt
        simp [htgt]
      · rename_i htgt
        simp [htgt, h, disk.named source file h]

variable {error : IoError}

lemma hardLink_error (h : hardLink disk source target fault = (.error error, disk')) :
    disk' = disk := by
  unfold hardLink at h
  split at h
  · cases h; rfl
  · split at h
    · cases h; rfl
    · split at h
      · cases h; rfl
      · cases h

variable {faults : FinishFaults}

lemma publish_ok {u : Unit} : stager.publish blake3 disk faults = (.ok u, disk') ↔
      stager.received = stager.expectedSize ∧ blake3 stager.hasher = stager.expectedHash ∧
        (stager.file ≠ none → faults.sync = none) ∧
        hardLink disk stager.stagingPath stager.finalPath faults.link = (.ok (), disk') := by
  unfold publish
  by_cases hsize : stager.received = stager.expectedSize
  · by_cases hhash : blake3 stager.hasher = stager.expectedHash
    · rw [if_neg (not_not.mpr hsize), if_neg (not_not.mpr hhash)]
      split
      · rename_i hfile hsync
        simp [hfile, hsync]
      · rename_i h
        have hsync : stager.file ≠ none → faults.sync = none := by
          intro hfile
          obtain ⟨file, hfile⟩ := Option.ne_none_iff_exists'.mp hfile
          exact Option.eq_none_iff_forall_ne_some.mpr fun error => h file error hfile
        split
        · rename_i hlink
          simp [hlink]
        · rename_i hlink
          simpa [hlink, hsize, hhash] using fun _ => hsync
    · simp [hsize, hhash]
  · simp [hsize]

lemma publish_error {error : IncomingFileStageError}
    (h : stager.publish blake3 disk faults = (.error error, disk')) : disk' = disk := by
  unfold publish at h
  split at h
  · cases h; rfl
  · split at h
    · cases h; rfl
    · split at h
      · cases h; rfl
      · split at h
        · rename_i hlink
          cases h
          exact hardLink_error hlink
        · cases h

variable {path : Path}

lemma createNew_ok {file : Nat} (h : createNew disk path fault = (.ok file, disk')) :
    disk.names path = none ∧ file = disk.next ∧ disk' = disk.create path := by
  unfold createNew at h
  split at h
  · cases h
  · split at h
    · cases h
    · rename_i hfree
      cases h
      exact ⟨hfree, rfl, rfl⟩

lemma createNew_error (h : createNew disk path fault = (.error error, disk')) : disk' = disk := by
  unfold createNew at h
  split at h
  · cases h; rfl
  · split at h
    · cases h; rfl
    · cases h

lemma openStagingLoop_cases (processId : UInt32) (parent : Path) (disk : Disk Path) (left : Nat)
    (attempts : Nat → StagingAttempt) :
    (∃ error, openStagingLoop processId parent disk left attempts = (.error error, disk)) ∨
      ∃ path, disk.names path = none ∧ openStagingLoop processId parent disk left attempts =
          (.ok (path, disk.next), disk.create path) := by
  induction left generalizing attempts with
  | zero => exact .inl ⟨_, rfl⟩
  | succ left ih =>
    simp only [openStagingLoop]
    split
    · rename_i h
      obtain ⟨hfree, rfl, rfl⟩ := createNew_ok h
      exact .inr ⟨_, hfree, rfl⟩
    · rename_i h
      obtain rfl := createNew_error h
      split
      · exact ih _
      · exact .inl ⟨_, rfl⟩

lemma create_cases (processId : UInt32) (disk : Disk Path) (finalPath : Path) (size : UInt64)
    (hash : FixedBytes 32) (attempts : Nat → StagingAttempt) :
    (∃ error, create processId disk finalPath size hash attempts = (.error error, disk)) ∨
      ∃ path, disk.names path = none ∧ create processId disk finalPath size hash attempts =
          (.ok ⟨finalPath, path, some disk.next, [], size, hash, 0⟩, disk.create path) := by
  unfold create
  split
  · exact .inl ⟨_, rfl⟩
  · rename_i parent _
    obtain ⟨error, hopen⟩ | ⟨path, hfree, hopen⟩ :=
      openStagingLoop_cases processId parent disk stagingAttempts attempts
    · exact .inl ⟨.io error, by rw [openStagingFile, hopen]⟩
    · exact .inr ⟨path, hfree, by rw [openStagingFile, hopen]⟩

lemma append_cases (stager : IncomingFileStager) (disk : Disk Path) (offset : UInt64)
    (bytes : Bytes) (fault : Option (Nat × IoError)) :
    (∃ error, stager.append disk offset bytes fault = (.error error, stager, disk)) ∨
      ∃ attempted file, stager.attemptedEnd offset bytes = .ok attempted ∧ stager.file = some file ∧
        ((∃ written error, stager.append disk offset bytes fault =
            (.error error, stager, disk.append file (bytes.take written))) ∨
          fault = none ∧ stager.append disk offset bytes fault =
            (.ok attempted, { stager with hasher := stager.hasher ++ bytes, received := attempted },
              disk.append file bytes)) := by
  unfold append
  split
  · exact .inl ⟨_, rfl⟩
  · rename_i attempted h
    split
    · exact .inl ⟨_, rfl⟩
    · rename_i file hfile
      refine .inr ⟨attempted, file, h, hfile, ?_⟩
      split
      · exact .inl ⟨_, _, rfl⟩
      · exact .inr ⟨rfl, rfl⟩

end IncomingFileStager

end XeniaPeer.Transfer
