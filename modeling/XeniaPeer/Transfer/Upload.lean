import XeniaPeer.Foundation.Runs
import XeniaPeer.Transfer.Source

/-!
# Uploads staged by the mobile engine

An upload stream of `xenia-mobile-ffi` (`engine.rs`) appends chunks to a staging file and hashes
them on the way. A write that fails can leave a part of its chunk in the file, which neither the
hash nor the length covers. The stream is still finished and queued; the question for the file's
length when it is opened is what keeps it from being offered.

Main result: `offered_is_staged`.
-/

namespace XeniaPeer.Transfer

open Foundation IncomingFileStager TransferSource

def mobileFileTransferMaxBytes : Nat := 100 * 1024 * 1024

inductive FileTransferEnqueueError where
  | invalidReservation
  | fileTooLarge
  | reservationSizeMismatch
  | ioError
deriving DecidableEq

structure FileTransferStreamUpload where
  (file hasher : Bytes)
  written : Nat
  expectedLen : Option Nat

/-- One call to append: whether the lease has expired, and after how many bytes the write fails. -/
structure AppendCall where
  expired : Bool
  bytes : Bytes
  failsAfter : Option Nat

structure SendStagedFile where
  size : UInt64
  blake3Hash : FixedBytes 32
deriving DecidableEq

namespace FileTransferStreamUpload

def append (stream : FileTransferStreamUpload) (call : AppendCall) :
    Except FileTransferEnqueueError Unit × Option FileTransferStreamUpload :=
  let newLen := stream.written + call.bytes.length
  if call.expired then (.error .invalidReservation, none)
  else if mobileFileTransferMaxBytes < newLen then (.error .fileTooLarge, some stream)
  else if stream.expectedLen.any (· < newLen) then (.error .reservationSizeMismatch, some stream)
  else match call.failsAfter with
    | some n => (.error .ioError, some { stream with file := stream.file ++ call.bytes.take n })
    | none => (.ok (), some { stream with
        file := stream.file ++ call.bytes
        hasher := stream.hasher ++ call.bytes
        written := newLen })

/-- The entry of the stream's token in the table after any calls, whatever they returned. -/
def appendAll (expectedLen : Option Nat) (calls : List AppendCall) :
    Option FileTransferStreamUpload :=
  calls.foldl (fun entry call => entry.bind fun stream => (stream.append call).2)
    (some ⟨[], [], 0, expectedLen⟩)

def finish (blake3 : Bytes → FixedBytes 32) (stream : FileTransferStreamUpload)
    (expired flushFails : Bool) : Except FileTransferEnqueueError SendStagedFile := do
  failIf expired .invalidReservation
  failIf (stream.expectedLen.any (· ≠ stream.written)) .reservationSizeMismatch
  failIf flushFails .ioError
  pure ⟨UInt64.ofNat stream.written, blake3 stream.hasher⟩

/-- What the hash covers is in the file, possibly with other bytes in between. -/
structure Staged (stream : FileTransferStreamUpload) : Prop where
  covered : stream.hasher.Sublist stream.file
  counted : stream.hasher.length = stream.written
  bounded : stream.written ≤ mobileFileTransferMaxBytes

variable {stream : FileTransferStreamUpload}

lemma Staged.append {next : FileTransferStreamUpload} (h : stream.Staged) (call : AppendCall)
    (hnext : (stream.append call).2 = some next) : next.Staged := by
  simp only [FileTransferStreamUpload.append] at hnext
  split_ifs at hnext with hexpired hmax hlen
  · cases hnext
    exact h
  · cases hnext
    exact h
  · cases hfail : call.failsAfter with
    | some n =>
      rw [hfail] at hnext
      cases hnext
      exact ⟨h.covered.trans (List.sublist_append_left _ _), h.counted, h.bounded⟩
    | none =>
      rw [hfail] at hnext
      cases hnext
      refine ⟨h.covered.append (List.Sublist.refl _), ?_, Nat.le_of_not_lt hmax⟩
      rw [List.length_append, h.counted]

lemma staged_of_appendAll {expectedLen : Option Nat} {calls : List AppendCall}
    (h : appendAll expectedLen calls = some stream) : stream.Staged := by
  refine foldl_invariant (I := fun entry => ∀ stream, entry = some stream → stream.Staged) ?_ calls
    ?_ stream h
  · intro entry call hentry next hnext
    obtain ⟨stream, hstream, hnext⟩ := Option.bind_eq_some_iff.mp hnext
    exact (hentry stream hstream).append call hnext
  · rintro _ ⟨⟩
    exact ⟨List.Sublist.refl _, rfl, Nat.zero_le _⟩

/-- **Nothing is offered that is not in the file.** Whatever writes fail, if a finished stream is
queued and its staged file can be opened for the offer, then the file has exactly the offered size
and hash. The queued size is that of the file just where the hash covers the whole file. -/
theorem offered_is_staged {blake3 : Bytes → FixedBytes 32} {expectedLen : Option Nat}
    {calls : List AppendCall} {stream : FileTransferStreamUpload}
    (hstream : appendAll expectedLen calls = some stream) {expired flushFails : Bool}
    {send : SendStagedFile} (hsend : stream.finish blake3 expired flushFails = .ok send)
    {answers : OpenAnswers}
    (hlen : ∀ len, answers.metadataLen = .ok len → len.toNat = stream.file.length) :
    (∀ source, openPrehashedFile answers send.size send.blake3Hash = .ok source →
      stream.file.length = source.size.toNat ∧ blake3 stream.file = source.blake3Hash) ∧
    (send.size.toNat = stream.file.length ↔ stream.file = stream.hasher) := by
  have h := staged_of_appendAll hstream
  simp only [finish, guard_bind_ok, pure_ok] at hsend
  obtain ⟨-, -, -, rfl⟩ := hsend
  have hsize : (UInt64.ofNat stream.written).toNat = stream.hasher.length := by
    have hmax : mobileFileTransferMaxBytes < 2 ^ 64 := by decide
    rw [UInt64.toNat_ofNat', Nat.mod_eq_of_lt (h.bounded.trans_lt hmax), h.counted]
  have hsame : (UInt64.ofNat stream.written).toNat = stream.file.length ↔
      stream.file = stream.hasher := by
    rw [hsize]
    exact ⟨fun heq => (h.covered.eq_of_length heq).symm, fun heq => by rw [heq]⟩
  refine ⟨fun source hopen => ?_, hsame⟩
  simp only [openPrehashedFile, bind_ok, failIf_ok, mapError_ok, not_not, pure_ok] at hopen
  obtain ⟨file, -, observed, hobserved, -, rfl, rfl⟩ := hopen
  have hfile := (hlen _ hobserved).symm
  exact ⟨hfile, congrArg blake3 (hsame.mp hfile.symm)⟩

/-- Three bytes in two chunks with a failing write between them. If the write leaves nothing, the file
is offered; if it leaves its byte, the queued size is not that of the file. -/
theorem offered_is_staged_sample :
    let calls (left : Nat) : List AppendCall :=
      [⟨false, [1], none⟩, ⟨false, [9], some left⟩, ⟨false, [2, 3], none⟩]
    let whole : FileTransferStreamUpload := ⟨[1, 2, 3], [1, 2, 3], 3, some 3⟩
    let torn : FileTransferStreamUpload := ⟨[1, 9, 2, 3], [1, 2, 3], 3, some 3⟩
    appendAll (some 3) (calls 0) = some whole ∧ appendAll (some 3) (calls 1) = some torn ∧
      sampleDigest whole.file = sampleSource.blake3Hash ∧ (3 : UInt64).toNat ≠ torn.file.length := by
  intro calls whole torn
  have hwhole : appendAll (some 3) (calls 0) = some whole := rfl
  have htorn : appendAll (some 3) (calls 1) = some torn := rfl
  have hsend : ∀ stream ∈ [whole, torn],
      stream.finish sampleDigest false false = .ok ⟨3, sampleDigest [1, 2, 3]⟩ := by decide
  have hlen (stream : FileTransferStreamUpload) (len : UInt64) (h : len.toNat = stream.file.length) :
      ∀ l, ({ sampleAnswers with metadataLen := .ok len } : OpenAnswers).metadataLen = .ok l →
        l.toNat = stream.file.length := by
    rintro _ ⟨⟩
    exact h
  obtain ⟨hoffered, -⟩ :=
    offered_is_staged hwhole (hsend whole (by simp)) (hlen whole 3 rfl)
  obtain ⟨-, hsize⟩ := offered_is_staged htorn (hsend torn (by simp)) (hlen torn 4 rfl)
  exact ⟨hwhole, htorn, (hoffered _ rfl).2, fun heq => absurd (hsize.mp heq) (by decide)⟩

end FileTransferStreamUpload

end XeniaPeer.Transfer
