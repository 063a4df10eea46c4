import XeniaPeer.Transfer.Incoming

/-!
# Sources of outgoing files

The sender of one file (`xenia-peer-core`, `transfer_source.rs`): a payload in memory, a file that
is hashed when it is opened, or a staged file with the size and hash of its staging. The size and
hash are announced, and the chunks are then read from the same handle.

Main result: `stream_delivers`.
-/

namespace XeniaPeer.Transfer

open Foundation

def hashBufferSize : Nat := 64 * 1024

structure FileHandle where
  answers : Nat → Except IoError Bytes
  reads : Nat

def FileHandle.read (file : FileHandle) (want : Nat) : Except IoError Bytes × FileHandle :=
  ((file.answers file.reads).map (List.take want), { file with reads := file.reads + 1 })

lemma FileHandle.read_length {file file' : FileHandle} {want : Nat} {bytes : Bytes}
    (h : file.read want = (.ok bytes, file')) : bytes.length ≤ want := by
  unfold FileHandle.read at h
  cases hans : file.answers file.reads with
  | error e => rw [hans] at h; cases h
  | ok answer =>
    rw [hans] at h
    cases h
    exact List.length_take_le _ _

inductive TransferSourceKind where
  | memory (data : Bytes)
  | file (handle : FileHandle)

structure TransferChunk where
  offset : UInt64
  data : Bytes

inductive TransferSourceError where
  | io (error : IoError)
  | sizeLimitExceeded (maxBytes observedBytes : UInt64)
  | lengthChanged (expected observed : UInt64)
  | hashChanged
  | zeroChunkSize

structure TransferSource where
  kind : TransferSourceKind
  size : UInt64
  blake3Hash : FixedBytes 32
  offset : UInt64
  sendHasher : Bytes
  endVerified : Bool

namespace TransferSource

variable (blake3 : Bytes → FixedBytes 32)

/-! ## Opening -/

def fromMemory (data : Bytes) : TransferSource where
  kind := .memory data
  size := UInt64.ofNat data.length
  blake3Hash := blake3 data
  offset := 0
  sendHasher := []
  endVerified := false

def hashLoop (maxBytes : UInt64) (file : FileHandle) (size : UInt64) (hashed : Bytes) :
    Except TransferSourceError (UInt64 × Bytes × FileHandle) :=
  match file.read hashBufferSize with
  | (.error error, _) => .error (.io error)
  | (.ok [], file') => .ok (size, hashed, file')
  | (.ok (byte :: bytes), file') =>
    match hnext : checkedAdd size (byte :: bytes).length with
    | none => .error (.sizeLimitExceeded maxBytes (UInt64.ofNat (2 ^ 64 - 1)))
    | some next =>
      if next > maxBytes then .error (.sizeLimitExceeded maxBytes next)
      else hashLoop maxBytes file' next (hashed ++ byte :: bytes)
termination_by maxBytes.toNat - size.toNat
decreasing_by
  rename_i hmax
  have hsum := toNat_of_checkedAdd hnext
  have hle := UInt64.le_iff_toNat_le.mp (UInt64.not_lt.mp hmax)
  rw [List.length_cons] at hsum
  omega

/-- What the system answers to opening a file, to the question for its length, and to the seek
back to its start. -/
structure OpenAnswers where
  open_ : Except IoError FileHandle
  metadataLen : Except IoError UInt64
  seek : Except IoError Unit

def openFileLimited (answers : OpenAnswers) (maxBytes : UInt64) :
    Except TransferSourceError TransferSource := do
  let file ← answers.open_.mapError .io
  let metadataLen ← answers.metadataLen.mapError .io
  failIf (metadataLen > maxBytes) (.sizeLimitExceeded maxBytes metadataLen)
  let (size, hashed, file) ← hashLoop maxBytes file 0 []
  answers.seek.mapError .io
  pure ⟨.file file, size, blake3 hashed, 0, [], false⟩

def openPrehashedFile (answers : OpenAnswers) (size : UInt64) (blake3Hash : FixedBytes 32) :
    Except TransferSourceError TransferSource := do
  let file ← answers.open_.mapError .io
  let observed ← answers.metadataLen.mapError .io
  failIf (observed ≠ size) (.lengthChanged size observed)
  pure ⟨.file file, size, blake3Hash, 0, [], false⟩

/-! ## Reading -/

def fillLoop (size offset : UInt64) (want : Nat) (file : FileHandle) (chunk : Bytes) :
    Except TransferSourceError Bytes × FileHandle :=
  if chunk.length < want then
    match file.read (want - chunk.length) with
    | (.error error, file') => (.error (.io error), file')
    | (.ok [], file') =>
      (.error (.lengthChanged size (saturatingAdd offset chunk.length)), file')
    | (.ok (byte :: bytes), file') => fillLoop size offset want file' (chunk ++ byte :: bytes)
  else (.ok chunk, file)
termination_by want - chunk.length
decreasing_by
  rw [List.length_append, List.length_cons]
  omega

section

variable (source : TransferSource)

def readChunk (want : Nat) : Except TransferSourceError Bytes × TransferSourceKind :=
  match source.kind with
  | .memory data =>
    if source.offset.toNat + want > data.length then
      (.error (.lengthChanged source.size (UInt64.ofNat data.length)), .memory data)
    else (.ok ((data.drop source.offset.toNat).take want), .memory data)
  | .file file =>
    match fillLoop source.size source.offset want file [] with
    | (result, file') => (result, .file file')

def checkSendHash : Except TransferSourceError Unit :=
  failIf (blake3 source.sendHasher ≠ source.blake3Hash) .hashChanged

def verifyEnd : Except TransferSourceError Unit × TransferSource :=
  match source.kind with
  | .memory _ => (source.checkSendHash blake3, source)
  | .file file =>
    match file.read 1 with
    | (.error error, file') => (.error (.io error), { source with kind := .file file' })
    | (.ok [], file') => (source.checkSendHash blake3, { source with kind := .file file' })
    | (.ok (_ :: _), file') =>
      (.error (.lengthChanged source.size (saturatingAdd source.size 1)),
        { source with kind := .file file' })

def nextChunk (maxChunkSize : Nat) :
    Except TransferSourceError (Option TransferChunk) × TransferSource :=
  if maxChunkSize = 0 then (.error .zeroChunkSize, source)
  else if source.endVerified then (.ok none, source)
  else if source.offset = source.size then
    match source.verifyEnd blake3 with
    | (.error error, source') => (.error error, source')
    | (.ok (), source') => (.ok none, { source' with endVerified := true })
  else
    match source.readChunk (min maxChunkSize (source.size - source.offset).toNat) with
    | (.error error, kind) => (.error error, { source with kind := kind })
    | (.ok data, kind) =>
      (.ok (some ⟨source.offset, data⟩), { source with
          kind := kind
          sendHasher := source.sendHasher ++ data
          offset := saturatingAdd source.offset data.length })

def stream (source : TransferSource) : List Nat → Option (List TransferChunk)
  | [] => none
  | size :: sizes =>
    match source.nextChunk blake3 size with
    | (.error _, _) => none
    | (.ok none, _) => some []
    | (.ok (some chunk), source') => (source'.stream sizes).map (chunk :: ·)

end

/-! ## What a call comes to -/

/-- A source between two calls: what it has sent is what it has hashed, and its end has not been
seen. -/
structure Sending (source : TransferSource) (sent : Bytes) : Prop where
  hashed : source.sendHasher = sent
  offset : source.offset.toNat = sent.length
  within : source.offset ≤ source.size
  open_ : source.endVerified = false

variable {want : Nat} {data : Bytes}

lemma length_fillLoop {size offset : UInt64} {file file' : FileHandle} {chunk : Bytes}
    (hchunk : chunk.length ≤ want) (h : fillLoop size offset want file chunk = (.ok data, file')) :
    data.length = want := by
  fun_induction fillLoop size offset want file chunk with
  | case1 file chunk hfil error file'' hread => cases h
  | case2 file chunk hfil file'' hread => cases h
  | case3 file chunk hfil byte bytes file'' hread ih =>
    have hlen := FileHandle.read_length hread
    refine ih ?_ h
    rw [List.length_append]
    omega
  | case4 file chunk hfil =>
    cases h
    omega

variable {source : TransferSource}

lemma length_readChunk {kind : TransferSourceKind}
    (h : source.readChunk want = (.ok data, kind)) : data.length = want := by
  unfold readChunk at h
  split at h
  · split at h
    · cases h
    · rename_i hend
      cases h
      rw [List.length_take, List.length_drop]
      omega
  · split at h
    rename_i hfill
    cases h
    exact length_fillLoop (Nat.zero_le _) hfill

variable {source' : TransferSource}

lemma verifyEnd_ok (h : source.verifyEnd blake3 = (.ok (), source')) :
    blake3 source.sendHasher = source.blake3Hash := by
  have hchk : source.checkSendHash blake3 = .ok () := by
    unfold verifyEnd at h
    split at h
    · exact (Prod.mk.inj h).1
    · split at h
      · cases h
      · exact (Prod.mk.inj h).1
      · cases h
  exact not_not.mp (failIf_ok.mp hchk)

variable {blake3} {sent : Bytes} {maxChunkSize : Nat}

lemma nextChunk_none (hsend : source.Sending sent)
    (h : source.nextChunk blake3 maxChunkSize = (.ok none, source')) :
    source.offset = source.size ∧ blake3 sent = source.blake3Hash := by
  unfold nextChunk at h
  split at h
  · cases h
  · rw [if_neg (by simp [hsend.open_])] at h
    split at h
    · rename_i hend
      split at h
      · cases h
      · rename_i hchecked
        exact ⟨hend, hsend.hashed ▸ verifyEnd_ok blake3 hchecked⟩
    · split at h
      · cases h
      · cases h

lemma nextChunk_some {chunk : TransferChunk} (hsend : source.Sending sent)
    (h : source.nextChunk blake3 maxChunkSize = (.ok (some chunk), source')) :
    chunk.offset.toNat = sent.length ∧ 0 < chunk.data.length ∧
      source'.Sending (sent ++ chunk.data) ∧ source'.size = source.size ∧
      source'.blake3Hash = source.blake3Hash := by
  unfold nextChunk at h
  split at h
  · cases h
  · rename_i hpos
    rw [if_neg (by simp [hsend.open_])] at h
    split at h
    · split at h
      · cases h
      · cases h
    · rename_i hrest
      split at h
      · cases h
      · rename_i data kind hread
        cases h
        have hlen := length_readChunk hread
        have hwit := UInt64.le_iff_toNat_le.mp hsend.within
        have hne : source.offset.toNat ≠ source.size.toNat := fun heq =>
          hrest (UInt64.toNat_inj.mp heq)
        rw [UInt64.toNat_sub_of_le _ _ hsend.within] at hlen
        have hsize := source.size.toNat_lt
        have hoff := toNat_saturatingAdd (a := source.offset) (n := data.length) (by omega)
        have hnon : 0 < data.length := by omega
        refine ⟨hsend.offset, hnon, ⟨?_, ?_, ?_, hsend.open_⟩, rfl, rfl⟩
        · rw [hsend.hashed]
        · simp [hoff, hsend.offset]
        · refine UInt64.le_iff_toNat_le.mpr ?_
          simp only [hoff]
          omega

/-! ## Whole transfers -/

def payload (chunks : List TransferChunk) : Bytes := chunks.flatMap TransferChunk.data

/-- Each chunk starts where the one before it ends. -/
def Contiguous : Nat → List TransferChunk → Prop
  | _, [] => True
  | start, chunk :: chunks =>
    chunk.offset.toNat = start ∧ Contiguous (start + chunk.data.length) chunks

/-- The ways to open a source. -/
inductive Prepared (blake3 : Bytes → FixedBytes 32) : TransferSource → Prop
  | memory (data : Bytes) (hfits : data.length < 2 ^ 64) : Prepared blake3 (fromMemory blake3 data)
  | limited {answers : OpenAnswers} {maxBytes : UInt64} {source : TransferSource}
      (h : openFileLimited blake3 answers maxBytes = .ok source) : Prepared blake3 source
  | prehashed {answers : OpenAnswers} {size : UInt64} {hash : FixedBytes 32}
      {source : TransferSource} (h : openPrehashedFile answers size hash = .ok source) :
      Prepared blake3 source

lemma Prepared.sending (h : Prepared blake3 source) : source.Sending [] := by
  have hzero : ∀ size : UInt64, (0 : UInt64) ≤ size := fun size =>
    UInt64.le_iff_toNat_le.mpr (Nat.zero_le _)
  cases h with
  | memory data hfits => exact ⟨rfl, rfl, hzero _, rfl⟩
  | limited h =>
    simp only [openFileLimited, bind_ok, pure_ok] at h
    obtain ⟨_, -, _, -, _, -, _, -, _, -, rfl⟩ := h
    exact ⟨rfl, rfl, hzero _, rfl⟩
  | prehashed h =>
    simp only [openPrehashedFile, bind_ok, pure_ok] at h
    obtain ⟨_, -, _, -, _, -, rfl⟩ := h
    exact ⟨rfl, rfl, hzero _, rfl⟩

lemma Sending.stream (hsend : source.Sending sent) {sizes : List Nat}
    {chunks : List TransferChunk} (h : source.stream blake3 sizes = some chunks) :
    Contiguous sent.length chunks ∧ (sent ++ payload chunks).length = source.size.toNat ∧
      blake3 (sent ++ payload chunks) = source.blake3Hash := by
  induction sizes generalizing source sent chunks with
  | nil => cases h
  | cons size sizes ih =>
    simp only [TransferSource.stream] at h
    split at h
    · cases h
    · rename_i hcall
      cases h
      obtain ⟨hend, hhash⟩ := nextChunk_none hsend hcall
      have hoff := hsend.offset
      rw [hend] at hoff
      simp only [payload, List.flatMap_nil, List.append_nil]
      exact ⟨trivial, hoff.symm, hhash⟩
    · rename_i chunk source' hcall
      obtain ⟨rest, hrest, rfl⟩ := Option.map_eq_some_iff.mp h
      obtain ⟨hoff, -, hnext, hsize, hhash⟩ := nextChunk_some hsend hcall
      obtain ⟨hcon, httl, htot⟩ := ih hnext hrest
      rw [List.length_append] at hcon
      rw [List.append_assoc] at httl htot
      exact ⟨⟨hoff, hcon⟩, httl.trans (by rw [hsize]), htot.trans hhash⟩

end TransferSource

namespace IncomingFileStager

open TransferSource

def feed (stager : IncomingFileStager) (disk : Disk Path) :
    List TransferChunk → Except IncomingFileStageError (IncomingFileStager × Disk Path)
  | [] => .ok (stager, disk)
  | chunk :: chunks =>
    match stager.append disk chunk.offset chunk.data none with
    | (.error error, _, _) => .error error
    | (.ok _, stager', disk') => stager'.feed disk' chunks

lemma feed_contiguous (stager : IncomingFileStager) (disk : Disk Path) {file : Nat}
    (hfile : stager.file = some file) {chunks : List TransferChunk}
    (hchunks : Contiguous stager.received.toNat chunks)
    (hsize : stager.received.toNat + (payload chunks).length ≤ stager.expectedSize.toNat) :
    ∃ stager' disk', stager.feed disk chunks = .ok (stager', disk') ∧
      stager' = { stager with
        hasher := stager.hasher ++ payload chunks
        received := UInt64.ofNat (stager.received.toNat + (payload chunks).length) } ∧
      disk'.names = disk.names := by
  induction chunks generalizing stager disk with
  | nil => exact ⟨stager, disk, rfl, by simp [payload], rfl⟩
  | cons chunk chunks ih =>
    obtain ⟨hoff, hrest⟩ := hchunks
    have h : payload (chunk :: chunks) = chunk.data ++ payload chunks := List.flatMap_cons
    rw [h, List.length_append] at hsize
    have hbd := stager.expectedSize.toNat_lt
    have hend : (UInt64.ofNat (stager.received.toNat + chunk.data.length)).toNat =
        stager.received.toNat + chunk.data.length :=
      UInt64.toNat_ofNat_of_lt' (show _ < 2 ^ 64 by omega)
    have hatt : stager.attemptedEnd chunk.offset chunk.data =
        .ok (UInt64.ofNat (stager.received.toNat + chunk.data.length)) :=
      attemptedEnd_ok.mpr ⟨UInt64.toNat_inj.mp hoff, hend, UInt64.le_iff_toNat_le.mpr (by omega)⟩
    have happ : stager.append disk chunk.offset chunk.data none =
        (.ok (UInt64.ofNat (stager.received.toNat + chunk.data.length)), { stager with
            hasher := stager.hasher ++ chunk.data
            received := UInt64.ofNat (stager.received.toNat + chunk.data.length) },
          disk.append file chunk.data) := by
      simp only [append, hatt, hfile]
    simp only [feed, happ]
    obtain ⟨stager', disk', hfeed, hstager', hnm⟩ := ih
      { stager with
        hasher := stager.hasher ++ chunk.data
        received := UInt64.ofNat (stager.received.toNat + chunk.data.length) }
      (disk.append file chunk.data) hfile (by rw [hend]; exact hrest)
      (by simp only [hend]; omega)
    refine ⟨stager', disk', hfeed, ?_, hnm⟩
    rw [hstager', h]
    simp only [hend, List.append_assoc, List.length_append, Nat.add_assoc]

/-- **A transfer.** If a source runs to its end without an error, its chunks are contiguous, they
are a file of the announced size and hash, and a stager that was made for these takes them all
and publishes the file, if its name is free and no call fails. -/
theorem stream_delivers (blake3 : Bytes → FixedBytes 32) {source : TransferSource}
    (hprepared : Prepared blake3 source) {sizes : List Nat} {chunks : List TransferChunk}
    (hstream : source.stream blake3 sizes = some chunks) :
    Contiguous 0 chunks ∧ (payload chunks).length = source.size.toNat ∧
      blake3 (payload chunks) = source.blake3Hash ∧
      ∀ processId disk disk' finalPath attempts stager,
        IncomingFileStager.create processId disk finalPath source.size source.blake3Hash attempts =
          (.ok stager, disk') →
        disk'.names finalPath = none →
        ∃ full disk'', stager.feed disk' chunks = .ok (full, disk'') ∧
          (full.finish blake3 disk'' ⟨none, none, false⟩).1 = .ok () := by
  obtain ⟨hcontiguous, hsize, hhash⟩ := hprepared.sending.stream hstream
  rw [List.nil_append] at hsize hhash
  refine ⟨hcontiguous, hsize, hhash, ?_⟩
  intro processId disk disk' finalPath attempts stager hcreate hfree
  obtain ⟨error, hfailed⟩ | ⟨path, -, hmade⟩ :=
    create_cases processId disk finalPath source.size source.blake3Hash attempts
  · cases hcreate.symm.trans hfailed
  · cases hcreate.symm.trans hmade
    have htotal : (0 : UInt64).toNat + (payload chunks).length = source.size.toNat := by
      rw [hsize, UInt64.toNat_zero, Nat.zero_add]
    obtain ⟨full, disk'', hfeed, hfull, hnames⟩ := feed_contiguous
      ⟨finalPath, path, some disk.next, [], source.size, source.blake3Hash, 0⟩ (disk.create path)
      rfl hcontiguous htotal.le
    rw [htotal, UInt64.ofNat_toNat] at hfull
    refine ⟨full, disk'', hfeed, ?_⟩
    -- The private name is still there, and the link finds the destination free.
    have hlink : ∃ linked, hardLink disk'' path finalPath none = (.ok (), linked) := by
      have hstaged : disk''.names path = some disk.next := by
        rw [hnames, Disk.names_create, Function.update_self]
      exact ⟨_, hardLink_ok.mpr ⟨rfl, hnames ▸ hfree, disk.next,
        disk''.named _ _ hstaged, hstaged, rfl⟩⟩
    obtain ⟨linked, hlinked⟩ := hlink
    have hpublish : full.publish blake3 disk'' ⟨none, none, false⟩ = (.ok (), linked) := by
      rw [hfull]
      exact publish_ok.mpr ⟨rfl, hhash, fun _ => rfl, hlinked⟩
    simp only [finish, hpublish]

def sampleAnswers : TransferSource.OpenAnswers where
  open_ := .ok ⟨fun i => .ok (if i = 0 then [1] else if i = 1 then [2, 3] else []), 0⟩
  metadataLen := .ok 3
  seek := .ok ()

def sampleDigest (bytes : Bytes) : FixedBytes 32 :=
  .replicate 32 (UInt8.ofNat bytes.length)

def emptyDisk : Disk Path := ⟨fun _ => none, fun _ => [], 0, nofun, fun _ _ => rfl⟩

def sampleSource : TransferSource :=
  ⟨.file ⟨fun i => .ok (if i = 0 then [1] else if i = 1 then [2, 3] else []), 0⟩, 3,
    sampleDigest [1, 2, 3], 0, [], false⟩

/-- Three bytes in two chunks. -/
theorem stream_delivers_sample :
    sampleSource.stream sampleDigest [1, 8, 8] = some [⟨0, [1]⟩, ⟨1, [2, 3]⟩] ∧
      ∃ stager disk, IncomingFileStager.create 7 emptyDisk ["inbox", "a"] 3
          (sampleDigest [1, 2, 3]) (fun _ => ⟨0, 0, none⟩) = (.ok stager, disk) ∧
        ∃ full disk', stager.feed disk [⟨0, [1]⟩, ⟨1, [2, 3]⟩] = .ok (full, disk') ∧
          (full.finish sampleDigest disk' ⟨none, none, false⟩).1 = .ok () := by
  have hopened : openPrehashedFile sampleAnswers 3 (sampleDigest [1, 2, 3]) = .ok sampleSource :=
    rfl
  have hstream : sampleSource.stream sampleDigest [1, 8, 8] = some [⟨0, [1]⟩, ⟨1, [2, 3]⟩] := by
    simp [TransferSource.stream, nextChunk, sampleSource, readChunk, fillLoop, FileHandle.read,
      verifyEnd, checkSendHash, failIf, Except.map, saturatingAdd, checkedAdd]
  obtain ⟨-, -, -, hdelivers⟩ := stream_delivers sampleDigest (.prehashed hopened) hstream
  refine ⟨hstream, _, _, rfl,
    hdelivers 7 emptyDisk _ ["inbox", "a"] (fun _ => ⟨0, 0, none⟩) _ rfl ?_⟩
  decide

end IncomingFileStager

end XeniaPeer.Transfer
