import XeniaPeer.Foundation.Tables
import XeniaPeer.Session.Runtime
import XeniaPeer.Transfer.Reservation
import XeniaPeer.Transfer.Source

/-!
# File transfers of the daemon

`FileTransferState` and `handle_envelope` (`apps/xenia-peer`, `file_transfer.rs`): the daemon
receives files under the reservations of a pool, each into a stager of its own, and sends at most
one file. Every message of a transfer passes the consent gate of the session runtime.

Main result: `transfers_safe`.
-/

namespace XeniaPeer.Transfer

open Foundation Session IncomingFileStager Disk ReceiveReservationPool

/-! ## Messages and state -/

inductive FileTransferMessage where
  | offer (transferId : UInt64) (name : String) (size : UInt64) (blake3Hash : FixedBytes 32)
  | accept (transferId : UInt64)
  | reject (transferId : UInt64) (reason : String)
  | chunk (transferId offset : UInt64) (data : Bytes)
  | complete (transferId : UInt64)
  | verified (transferId : UInt64) (ok : Bool)

def maxConcurrentIncomingTransfers : Nat := 8

def fileTransferChunkSize : Nat := 64 * 1024

structure OutgoingTransfer where
  transferId : UInt64
  source : TransferSource
  started : Bool

structure IncomingTransfer where
  name : String
  expectedSize : UInt64
  stager : IncomingFileStager
  reservation : ReceiveReservation

structure FileTransferState where
  outgoing : Option OutgoingTransfer
  incoming : List (UInt64 × IncomingTransfer)
  (capacity reserved : UInt64)

structure FileTransferConfig where
  recvFileDir : Option String
  maxBytes : UInt64

inductive OfferDecision where
  | accept (safeName : String)
  | reject (reason : String)

def FileTransferState.new (receiveReservationCapacity : UInt64) : FileTransferState where
  outgoing := none
  incoming := []
  capacity := receiveReservationCapacity
  reserved := 0

def fileName (text : String) : Option String :=
  match (pathOf text).getLast? with
  | none => none
  | some name => if name = ".." then none else some name

def sanitizeTransferFilename (name : String) : Option String :=
  match fileName name with
  | none => none
  | some candidate =>
    if candidate = "" ∨ candidate = "." ∨ candidate = ".." then none else some candidate

def FileTransferState.evaluateOffer (state : FileTransferState) (config : FileTransferConfig)
    (name : String) (size : UInt64) : OfferDecision :=
  match config.recvFileDir, sanitizeTransferFilename name with
  | none, _ => .reject "file transfer is disabled on this daemon"
  | some _, none => .reject "unusable filename"
  | some _, some safeName =>
    if size > config.maxBytes then
      .reject ("file exceeds " ++ toString config.maxBytes ++ "-byte cap")
    else if state.incoming.length ≥ maxConcurrentIncomingTransfers then
      .reject ("too many concurrent transfers (max " ++ toString maxConcurrentIncomingTransfers
        ++ ")")
    else .accept safeName

structure Daemon (C : Ledger.Crypto) where
  state : FileTransferState
  m1 : M1RuntimeSession C
  disk : Disk Path

structure Answers where
  /-- For each pass of the consent gate the clock, and whether the transport takes what is sent
  after it. Sending a file ends with the last of them at the latest, since the task can be
  cancelled at any of its messages. -/
  gates : List (Clock × Bool)
  clock : Clock
  processId : UInt32
  attempts : Nat → StagingAttempt
  write : Option (Nat × IoError)
  finish : FinishFaults
  removeFails : Bool

namespace Daemon

variable {C : Ledger.Crypto} (blake3 : Bytes → FixedBytes 32) (config : FileTransferConfig)

/-! ## The handler -/

section

variable (daemon : Daemon C) (answers : Answers)

def dropTransfer (transfer : IncomingTransfer) (removeFails : Bool) : Daemon C :=
  { daemon with
    state := { daemon.state with
      reserved := daemon.state.reserved - transfer.reservation.bytes }
    disk := transfer.stager.drop daemon.disk removeFails }

def removeIncoming (transferId : UInt64) (removeFails : Bool) : Daemon C :=
  match findKey Prod.fst transferId daemon.state.incoming with
  | none => daemon
  | some (_, transfer) =>
    { daemon with
      state := { daemon.state with
        incoming := dropKey Prod.fst transferId daemon.state.incoming }
    }.dropTransfer transfer removeFails

def insertIncoming (transferId : UInt64) (transfer : IncomingTransfer) (removeFails : Bool) :
    Daemon C :=
  let inserted : Daemon C := { daemon with
    state := { daemon.state with
      incoming := putKey Prod.fst (transferId, transfer) daemon.state.incoming } }
  match findKey Prod.fst transferId daemon.state.incoming with
  | none => inserted
  | some (_, old) => inserted.dropTransfer old removeFails

def handleOffer (transferId : UInt64) (name : String) (size : UInt64) (blake3Hash : FixedBytes 32) :
    Daemon C × List FileTransferMessage :=
  match daemon.state.evaluateOffer config name size with
  | .reject reason => (daemon, [.reject transferId reason])
  | .accept safeName =>
    match daemon.m1.receiveFileFromViewer answers.clock with
    | (.error _, m1) =>
      ({ daemon with m1 := m1 },
        [.reject transferId "file receive is not permitted by current consent"])
    | (.ok (), m1) =>
      match nextTotal daemon.state.capacity daemon.state.reserved size with
      | .error _ =>
        ({ daemon with m1 := m1 },
          [.reject transferId "receiver has insufficient reserved receive capacity"])
      | .ok next =>
        match config.recvFileDir with
        -- The source returns an error here, which no accepted offer gets to.
        | none => ({ daemon with m1 := m1 }, [])
        | some recvDir =>
          let dest := pathOf (joinPath recvDir safeName)
          match create answers.processId daemon.disk dest size blake3Hash
              answers.attempts with
          | (.error _, disk) =>
            ({ daemon with
                m1 := m1
                disk := disk
                state := { daemon.state with reserved := next - size } },
              [.reject transferId "receiver could not allocate private staging"])
          | (.ok stager, disk) =>
            ({ daemon with
                m1 := m1
                disk := disk
                state := { daemon.state with reserved := next }
              }.insertIncoming transferId ⟨safeName, size, stager, ⟨size⟩⟩ answers.removeFails,
              [.accept transferId])

def sendLoop (transferId : UInt64) :
    List (Clock × Bool) → M1RuntimeSession C → TransferSource →
      List FileTransferMessage × M1RuntimeSession C × TransferSource
  | [], m1, source => ([], m1, source)
  | (clock, sends) :: gates, m1, source =>
    match m1.sendFileToViewer clock with
    | (.error _, m1) => ([], m1, source)
    | (.ok (), m1) =>
      match source.nextChunk blake3 fileTransferChunkSize with
      | (.error _, source) => ([], m1, source)
      | (.ok none, source) => (if sends then [.complete transferId] else [], m1, source)
      | (.ok (some chunk), source) =>
        if sends then
          let (sent, m1, source) := sendLoop transferId gates m1 source
          (.chunk transferId chunk.offset chunk.data :: sent, m1, source)
        else ([], m1, source)

def handleAccept (transferId : UInt64) : Daemon C × List FileTransferMessage :=
  match daemon.state.outgoing with
  | none => (daemon, [])
  | some transfer =>
    if transfer.transferId = transferId then
      let (sent, m1, source) := sendLoop blake3 transferId answers.gates daemon.m1 transfer.source
      ({ daemon with
          m1 := m1
          state := { daemon.state with
            outgoing := some { transfer with source := source, started := true } } }, sent)
    else (daemon, [])

def endOutgoing (transferId : UInt64) : Daemon C :=
  match daemon.state.outgoing with
  | none => daemon
  | some transfer =>
    if transfer.transferId = transferId then
      { daemon with state := { daemon.state with outgoing := none } }
    else daemon

def handleChunk (transferId offset : UInt64) (data : Bytes) : Daemon C :=
  match daemon.m1.receiveFileFromViewer answers.clock with
  | (.error _, m1) => { daemon with m1 := m1 }.removeIncoming transferId answers.removeFails
  | (.ok (), m1) =>
    match findKey Prod.fst transferId daemon.state.incoming with
    | none => { daemon with m1 := m1 }
    | some (_, transfer) =>
      match transfer.stager.append daemon.disk offset data answers.write with
      | (.error _, _, disk) =>
        { daemon with m1 := m1, disk := disk }.removeIncoming transferId answers.removeFails
      | (.ok _, stager, disk) =>
        { daemon with
          m1 := m1
          disk := disk
          state := { daemon.state with
            incoming := putKey Prod.fst (transferId, { transfer with stager := stager })
              daemon.state.incoming } }

def handleComplete (transferId : UInt64) : Daemon C × List FileTransferMessage :=
  match findKey Prod.fst transferId daemon.state.incoming with
  | none => (daemon, [])
  | some (_, transfer) =>
    let removed : FileTransferState := { daemon.state with
      incoming := dropKey Prod.fst transferId daemon.state.incoming }
    match daemon.m1.receiveFileFromViewer answers.clock with
    | (.error _, m1) =>
      ({ daemon with m1 := m1, state := removed }.dropTransfer transfer answers.removeFails,
        [.verified transferId false])
    | (.ok (), m1) =>
      match transfer.stager.finish blake3 daemon.disk answers.finish with
      | (result, disk) =>
        ({ daemon with
            m1 := m1
            disk := disk
            state := { removed with reserved := removed.reserved - transfer.reservation.bytes } },
          [.verified transferId (result matches .ok ())])

def handleEnvelope : FileTransferMessage → Daemon C × List FileTransferMessage
  | .offer transferId name size blake3Hash =>
    daemon.handleOffer config answers transferId name size blake3Hash
  | .accept transferId => daemon.handleAccept blake3 answers transferId
  | .reject transferId _ => (daemon.endOutgoing transferId, [])
  | .chunk transferId offset data => (daemon.handleChunk answers transferId offset data, [])
  | .complete transferId => daemon.handleComplete blake3 answers transferId
  | .verified transferId _ => (daemon.endOutgoing transferId, [])

end

inductive Event where
  | message (message : FileTransferMessage) (answers : Answers)
  /-- Another part of the daemon uses the session runtime. -/
  | consent (call : M1RuntimeSession.Call)

def step (daemon : Daemon C) : Event → Daemon C
  | .message message answers => (daemon.handleEnvelope blake3 config answers message).1
  | .consent call => { daemon with m1 := daemon.m1.step call }

def run (start : Daemon C) (events : List Event) : Daemon C :=
  events.foldl (step blake3 config) start

/-! ## The invariant -/

structure Inbox where
  incoming : List (UInt64 × IncomingTransfer)
  (capacity reserved : UInt64)
  disk : Disk Path

def inbox (daemon : Daemon C) : Inbox :=
  ⟨daemon.state.incoming, daemon.state.capacity, daemon.state.reserved, daemon.disk⟩

def offered (incoming : List (UInt64 × IncomingTransfer)) : Nat :=
  (incoming.map fun entry => entry.2.expectedSize.toNat).sum

/-- A transfer in the table: it goes to one place directly in the receive directory, and has a
file of its own under one private name, with the bytes that were accepted. -/
structure Live (config : FileTransferConfig) (disk : Disk Path) (transfer : IncomingTransfer) :
    Prop where
  size : transfer.stager.expectedSize = transfer.expectedSize
  reservation : transfer.reservation.bytes = transfer.expectedSize
  place : ∃ recvDir, config.recvFileDir = some recvDir ∧ SimpleName transfer.name ∧
    transfer.stager.finalPath = pathOf recvDir ++ [transfer.name]
  staged : ∃ file, transfer.stager.file = some file ∧
    (∀ path, disk.names path = some file ↔ path = transfer.stager.stagingPath) ∧
    disk.bytes file = transfer.stager.hasher
  received : transfer.stager.received.toNat = transfer.stager.hasher.length

structure Consistent (config : FileTransferConfig) (capacity : UInt64) (inbox : Inbox) : Prop where
  sameCapacity : inbox.capacity = capacity
  keys : (inbox.incoming.map Prod.fst).Nodup
  files : (inbox.incoming.map fun entry => entry.2.stager.file).Nodup
  count : inbox.incoming.length ≤ maxConcurrentIncomingTransfers
  live : ∀ entry ∈ inbox.incoming, Live config inbox.disk entry.2
  total : inbox.reserved.toNat = offered inbox.incoming
  within : inbox.reserved ≤ capacity

variable {blake3} {config} {capacity : UInt64} {before : Inbox} {transfer : IncomingTransfer}
  {transferId key : UInt64} {file : Nat}

/-! ## What a message can do -/

def offeredTransfer (recvDir safeName : String) (path : Path) (file : Nat) (size : UInt64)
    (hash : FixedBytes 32) : IncomingTransfer :=
  ⟨safeName, size, ⟨pathOf (joinPath recvDir safeName), path, some file, [], size, hash, 0⟩, ⟨size⟩⟩

def advanced (transfer : IncomingTransfer) (data : Bytes) (attempted : UInt64) :
    IncomingTransfer :=
  { transfer with stager := { transfer.stager with
      hasher := transfer.stager.hasher ++ data, received := attempted } }

/-- An offer of this name and size is accepted under the safe name, with a private name that is
free, and the total with it is the next one. -/
structure Accepts (config : FileTransferConfig) (before : Inbox) (name : String) (size : UInt64)
    (recvDir safeName : String) (path : Path) (next : UInt64) : Prop where
  dir : config.recvFileDir = some recvDir
  name : sanitizeTransferFilename name = some safeName
  count : before.incoming.length < maxConcurrentIncomingTransfers
  total : nextTotal before.capacity before.reserved size = .ok next
  free : before.disk.names path = none

inductive Cut (disk : Disk Path) (transferId : UInt64) (transfer : IncomingTransfer) :
    FileTransferMessage → Disk Path → Prop
  | whole (message : FileTransferMessage) : Cut disk transferId transfer message disk
  | written {offset attempted : UInt64} {data : Bytes} {file : Nat} (count : Nat)
      (hend : transfer.stager.attemptedEnd offset data = .ok attempted)
      (hfile : transfer.stager.file = some file) :
      Cut disk transferId transfer (.chunk transferId offset data)
        (disk.append file (data.take count))

inductive Moves (blake3 : Bytes → FixedBytes 32) (config : FileTransferConfig)
    (m1 : M1RuntimeSession C) (before : Inbox) : FileTransferMessage → Inbox → Prop
  | stays (message : FileTransferMessage) : Moves blake3 config m1 before message before
  | stages {transferId size next : UInt64} {name recvDir safeName : String}
      {hash : FixedBytes 32} {path : Path}
      (haccepts : Accepts config before name size recvDir safeName path next)
      (hnew : findKey Prod.fst transferId before.incoming = none) :
      Moves blake3 config m1 before (.offer transferId name size hash)
        ⟨(transferId, offeredTransfer recvDir safeName path before.disk.next size hash) ::
          before.incoming, before.capacity, next, before.disk.create path⟩
  | replaces {transferId key size next : UInt64} {name recvDir safeName : String}
      {hash : FixedBytes 32} {path : Path} {old : IncomingTransfer} (removeFails : Bool)
      (haccepts : Accepts config before name size recvDir safeName path next)
      (hold : findKey Prod.fst transferId before.incoming = some (key, old)) :
      Moves blake3 config m1 before (.offer transferId name size hash)
        ⟨(transferId, offeredTransfer recvDir safeName path before.disk.next size hash) ::
          dropKey Prod.fst transferId before.incoming, before.capacity,
          next - old.reservation.bytes,
          old.stager.drop (before.disk.create path) removeFails⟩
  | advances {transferId key offset attempted : UInt64} {data : Bytes}
      {transfer : IncomingTransfer} {file : Nat}
      (hfind : findKey Prod.fst transferId before.incoming = some (key, transfer))
      (hend : transfer.stager.attemptedEnd offset data = .ok attempted)
      (hfile : transfer.stager.file = some file) :
      Moves blake3 config m1 before (.chunk transferId offset data)
        ⟨(transferId, advanced transfer data attempted) ::
          dropKey Prod.fst transferId before.incoming, before.capacity, before.reserved,
          before.disk.append file data⟩
  | leaves {message : FileTransferMessage} {transferId key : UInt64}
      {transfer : IncomingTransfer} {disk : Disk Path} (removeFails : Bool)
      (hfind : findKey Prod.fst transferId before.incoming = some (key, transfer))
      (hcut : Cut before.disk transferId transfer message disk) :
      Moves blake3 config m1 before message
        ⟨dropKey Prod.fst transferId before.incoming, before.capacity,
          before.reserved - transfer.reservation.bytes, transfer.stager.drop disk removeFails⟩
  | publishes {transferId key : UInt64} {transfer : IncomingTransfer} {linked : Disk Path}
      (removeFails : Bool)
      (hfind : findKey Prod.fst transferId before.incoming = some (key, transfer))
      (hgranted : m1.Holds .receiveFileFromViewer)
      (hsize : transfer.stager.received = transfer.stager.expectedSize)
      (hhash : blake3 transfer.stager.hasher = transfer.stager.expectedHash)
      (hlink : hardLink before.disk transfer.stager.stagingPath
        transfer.stager.finalPath none = (.ok (), linked)) :
      Moves blake3 config m1 before (.complete transferId)
        ⟨dropKey Prod.fst transferId before.incoming, before.capacity,
          before.reserved - transfer.reservation.bytes, transfer.stager.drop linked removeFails⟩

variable {name safeName : String} {size : UInt64}

lemma evaluateOffer_accept {state : FileTransferState}
    (h : state.evaluateOffer config name size = .accept safeName) :
    sanitizeTransferFilename name = some safeName ∧
      state.incoming.length < maxConcurrentIncomingTransfers := by
  unfold FileTransferState.evaluateOffer at h
  split at h
  · cases h
  · cases h
  · rename_i hname
    split at h
    · cases h
    · split at h
      · cases h
      · rename_i hcount
        cases h
        exact ⟨hname, Nat.lt_of_not_le hcount⟩

variable {reserved : UInt64}

lemma sub_of_nextTotal {capacity next : UInt64}
    (h : nextTotal capacity reserved size = .ok next) :
    next - size = reserved := by
  obtain ⟨hnext, -⟩ := nextTotal_ok.mp h
  have hle : size ≤ next := UInt64.le_iff_toNat_le.mpr (by omega)
  refine UInt64.toNat_inj.mp ?_
  rw [UInt64.toNat_sub_of_le _ _ hle]
  omega

variable {daemon : Daemon C} {answers : Answers}

lemma handleOffer_moves (transferId : UInt64) (name : String) (size : UInt64)
    (hash : FixedBytes 32) :
    Moves blake3 config daemon.m1 daemon.inbox (.offer transferId name size hash)
      (daemon.handleOffer config answers transferId name size hash).1.inbox := by
  unfold handleOffer
  split
  · exact .stays _
  · rename_i safeName hdec
    obtain ⟨hname, hcount⟩ := evaluateOffer_accept hdec
    split
    · exact .stays _
    · split
      · exact .stays _
      · rename_i next hnext
        split
        · exact .stays _
        · rename_i recvDir hdir
          obtain ⟨error, h⟩ | ⟨path, hfree, h⟩ := create_cases answers.processId daemon.disk
              (pathOf (joinPath recvDir safeName)) size hash answers.attempts
          · simp only [h, sub_of_nextTotal hnext]
            exact .stays _
          · have haccepts : Accepts config daemon.inbox name size recvDir safeName path next :=
              ⟨hdir, hname, hcount, hnext, hfree⟩
            simp only [h, insertIncoming]
            split
            · rename_i hnew
              rw [putKey, dropKey_of_none hnew]
              exact .stages haccepts hnew
            · rename_i hold
              exact .replaces answers.removeFails haccepts hold

variable {disk : Disk Path}

lemma removeIncoming_moves (message : FileTransferMessage) (transferId : UInt64)
    (m1 : M1RuntimeSession C) (removeFails : Bool)
    (hcut : ∀ key transfer, findKey Prod.fst transferId daemon.state.incoming =
      some (key, transfer) → Cut daemon.disk transferId transfer message disk)
    (hnone : findKey Prod.fst transferId daemon.state.incoming = none → disk = daemon.disk) :
    Moves blake3 config daemon.m1 daemon.inbox message
      ({ daemon with m1 := m1, disk := disk }.removeIncoming transferId removeFails).inbox := by
  unfold removeIncoming
  split
  · rename_i hfind
    rw [hnone hfind]
    exact .stays _
  · rename_i hfind
    exact .leaves removeFails hfind (hcut _ _ hfind)

lemma handleChunk_moves (transferId offset : UInt64) (data : Bytes) :
    Moves blake3 config daemon.m1 daemon.inbox (.chunk transferId offset data)
      (daemon.handleChunk answers transferId offset data).inbox := by
  unfold handleChunk
  split
  · exact removeIncoming_moves _ transferId _ answers.removeFails
      (fun _ _ _ => .whole _) (fun _ => rfl)
  · split
    · exact .stays _
    · rename_i key transfer hfind
      obtain ⟨error, happ⟩ | ⟨attempted, file, hend, hfile, hres⟩ :=
        transfer.stager.append_cases daemon.disk offset data answers.write
      · simp only [happ]
        exact removeIncoming_moves _ transferId _ answers.removeFails
          (fun _ _ _ => .whole _) (fun _ => rfl)
      · obtain ⟨written, error, happ⟩ | ⟨-, happ⟩ := hres
        · simp only [happ]
          refine removeIncoming_moves _ transferId _ answers.removeFails ?_ ?_
          · intro key' transfer' hfind'
            cases hfind.symm.trans hfind'
            exact .written written hend hfile
          · intro hnone
            cases hfind.symm.trans hnone
        · simp only [happ]
          exact .advances hfind hend hfile

lemma handleComplete_moves (transferId : UInt64) :
    Moves blake3 config daemon.m1 daemon.inbox (.complete transferId)
      (daemon.handleComplete blake3 answers transferId).1.inbox := by
  unfold handleComplete
  split
  · exact .stays _
  · rename_i key transfer hfind
    split
    · exact .leaves answers.removeFails hfind (.whole _)
    · rename_i m1 h
      unfold finish
      cases hpub : transfer.stager.publish blake3 daemon.disk answers.finish with
      | mk result linked =>
        cases result with
        | error error =>
          rw [publish_error hpub]
          exact .leaves answers.finish.removeFails hfind (.whole _)
        | ok u =>
          obtain ⟨hsize, hhash, -, hlink⟩ := publish_ok.mp hpub
          obtain ⟨hfau, hrest⟩ := hardLink_ok.mp hlink
          rw [hfau] at hlink
          exact .publishes answers.finish.removeFails hfind
            (M1RuntimeSession.holds_of_perform h) hsize hhash hlink

lemma handleEnvelope_moves (message : FileTransferMessage) :
    Moves blake3 config daemon.m1 daemon.inbox message
      (daemon.handleEnvelope blake3 config answers message).1.inbox := by
  cases message with
  | offer transferId name size hash => exact handleOffer_moves transferId name size hash
  | accept transferId =>
    simp only [handleEnvelope, handleAccept]
    split
    · exact .stays _
    · split <;> exact .stays _
  | reject transferId reason =>
    simp only [handleEnvelope, endOutgoing]
    split
    · exact .stays _
    · split <;> exact .stays _
  | chunk transferId offset data => exact handleChunk_moves transferId offset data
  | complete transferId => exact handleComplete_moves transferId
  | verified transferId ok =>
    simp only [handleEnvelope, endOutgoing]
    split
    · exact .stays _
    · split <;> exact .stays _

/-! ## The invariant is kept -/

lemma Live.touches {disk' : Disk Path} (h : Live config disk transfer)
    (hdisk : Touches file disk disk') (hother : transfer.stager.file ≠ some file) :
    Live config disk' transfer := by
  obtain ⟨own, hown, hnm, hbytes⟩ := h.staged
  have hne : own ≠ file := fun heq => hother (heq ▸ hown)
  exact ⟨h.size, h.reservation, h.place,
    ⟨own, hown, fun path => (hdisk.names_iff hne path).trans (hnm path),
      (hdisk.bytes own hne).trans hbytes⟩, h.received⟩

structure Found (config : FileTransferConfig) (before : Inbox) (transferId : UInt64)
    (transfer : IncomingTransfer) : Prop where
  live : Live config before.disk transfer
  total : before.reserved.toNat =
    transfer.expectedSize.toNat + offered (dropKey Prod.fst transferId before.incoming)
  count : before.incoming.length = (dropKey Prod.fst transferId before.incoming).length + 1
  alone : ∀ entry ∈ dropKey Prod.fst transferId before.incoming,
    entry.2.stager.file ≠ transfer.stager.file
  le : transfer.reservation.bytes ≤ before.reserved

lemma Consistent.found (h : Consistent config capacity before)
    (hfind : findKey Prod.fst transferId before.incoming = some (key, transfer)) :
    Found config before transferId transfer := by
  have hperm := perm_dropKey h.keys hfind
  have hlive : Live config before.disk transfer := h.live _ (of_findKey hfind).1
  have hsum := (hperm.map fun entry => entry.2.expectedSize.toNat).sum_eq
  rw [List.map_cons, List.sum_cons] at hsum
  have htot := h.total.trans hsum
  have hfil := (hperm.map fun entry => entry.2.stager.file).nodup h.files
  rw [List.map_cons, List.nodup_cons] at hfil
  refine ⟨hlive, htot, hperm.length_eq, fun entry hent hsame => ?_, ?_⟩
  · exact hfil.1 (List.mem_map.mpr ⟨entry, hent, hsame⟩)
  · rw [hlive.reservation, UInt64.le_iff_toNat_le, htot]
    exact Nat.le_add_right _ _

lemma Consistent.remove (h : Consistent config capacity before)
    (hfind : findKey Prod.fst transferId before.incoming = some (key, transfer))
    (hfile : transfer.stager.file = some file) (hdisk : Touches file before.disk disk) :
    Consistent config capacity ⟨dropKey Prod.fst transferId before.incoming, before.capacity,
      before.reserved - transfer.reservation.bytes, disk⟩ := by
  have hfd := h.found hfind
  have hsub := UInt64.toNat_sub_of_le _ _ hfd.le
  rw [hfd.live.reservation] at hsub
  have htot := hfd.total
  refine ⟨h.sameCapacity, nodup_dropKey h.keys, h.files.sublist (dropKey_sublist.map _),
    Nat.le_trans dropKey_sublist.length_le h.count, ?_, ?_, ?_⟩
  · intro entry hent
    exact (h.live entry (dropKey_sublist.subset hent)).touches hdisk (hfile ▸ hfd.alone entry hent)
  · simp only [hfd.live.reservation, hsub]
    omega
  · have hwit := UInt64.le_iff_toNat_le.mp h.within
    refine UInt64.le_iff_toNat_le.mpr ?_
    simp only [hfd.live.reservation, hsub]
    omega

lemma Consistent.add (h : Consistent config capacity before)
    (hkey : transferId ∉ before.incoming.map Prod.fst)
    (hcount : before.incoming.length < maxConcurrentIncomingTransfers)
    (hfile : transfer.stager.file = some file) (hdisk : Touches file before.disk disk)
    (hfresh : ∀ entry ∈ before.incoming, entry.2.stager.file ≠ some file)
    (hlive : Live config disk transfer)
    (hreserved : reserved.toNat = before.reserved.toNat + transfer.expectedSize.toNat)
    (hwithin : reserved ≤ capacity) : Consistent config capacity
      ⟨(transferId, transfer) :: before.incoming, before.capacity, reserved, disk⟩ := by
  refine ⟨h.sameCapacity, List.nodup_cons.mpr ⟨hkey, h.keys⟩, List.nodup_cons.mpr ⟨?_, h.files⟩,
    hcount, ?_, ?_, hwithin⟩
  · intro hmem
    obtain ⟨entry, hent, hsame⟩ := List.mem_map.mp hmem
    exact hfresh entry hent (hsame.trans hfile)
  · exact List.forall_mem_cons.mpr ⟨hlive, fun entry hent =>
      (h.live entry hent).touches hdisk (hfresh entry hent)⟩
  · have htot := h.total
    simp only [offered, List.map_cons, List.sum_cons] at htot ⊢
    omega

lemma simpleName_of_sanitize (h : sanitizeTransferFilename name = some safeName) :
    SimpleName safeName := by
  unfold sanitizeTransferFilename at h
  split at h
  · cases h
  · rename_i candidate hcan
    split at h
    · cases h
    · cases h
      unfold fileName at hcan
      split at hcan
      · cases hcan
      · rename_i last hlast
        split at hcan
        · cases hcan
        · cases hcan
          exact simpleName_of_mem_pathOf (List.mem_of_getLast? hlast)

variable {path : Path}

lemma live_offeredTransfer {recvDir : String} (hdir : config.recvFileDir = some recvDir)
    (hname : sanitizeTransferFilename name = some safeName) (size : UInt64) (hash : FixedBytes 32) :
    Live config (disk.create path) (offeredTransfer recvDir safeName path disk.next size hash) := by
  have hsim := simpleName_of_sanitize hname
  refine ⟨rfl, rfl, ⟨recvDir, hdir, hsim, pathOf_joinPath hsim⟩,
    ⟨disk.next, rfl, fun other => ?_, disk.fresh _ (Nat.le_refl _)⟩, rfl⟩
  rw [names_create]
  rcases eq_or_ne other path with rfl | hne
  · exact ⟨fun _ => rfl, fun _ => Function.update_self ..⟩
  · rw [Function.update_of_ne hne]
    exact ⟨fun h => absurd (disk.named _ _ h) (Nat.lt_irrefl _), fun h => absurd h hne⟩

lemma Consistent.file_ne_next (h : Consistent config capacity before)
    {entry : UInt64 × IncomingTransfer} (hentry : entry ∈ before.incoming) :
    entry.2.stager.file ≠ some before.disk.next := by
  obtain ⟨file, hfile, hnm, -⟩ := (h.live entry hentry).staged
  intro hnext
  cases hfile.symm.trans hnext
  exact Nat.lt_irrefl _ (before.disk.named _ _ ((hnm _).mpr rfl))

variable {stager : IncomingFileStager}

lemma touches_drop (h : disk.names stager.stagingPath = some file) (removeFails : Bool) :
    Touches file disk (stager.drop disk removeFails) := by
  unfold drop
  split
  · exact Touches.refl file disk
  · exact touches_unlink h

lemma drop_create (hne : stager.stagingPath ≠ path) (removeFails : Bool) :
    stager.drop (disk.create path) removeFails = (stager.drop disk removeFails).create path := by
  unfold drop
  split
  · rfl
  · exact unlink_create hne

lemma next_drop (stager : IncomingFileStager) (disk : Disk Path) (removeFails : Bool) :
    (stager.drop disk removeFails).next = disk.next := by
  unfold drop
  split <;> rfl

variable {message : FileTransferMessage}

lemma Cut.touches {cut : Disk Path} (h : Cut disk transferId transfer message cut)
    (hfile : transfer.stager.file = some file) :
    Touches file disk cut ∧ cut.names = disk.names := by
  cases h with
  | whole _ => exact ⟨Touches.refl file disk, rfl⟩
  | written count _ hfile' =>
    cases hfile.symm.trans hfile'
    exact ⟨touches_append _, rfl⟩

lemma hardLink_touches {linked : Disk Path} {source target : Path}
    (h : hardLink disk source target none = (.ok (), linked))
    (hsource : disk.names source = some file) :
    Touches file disk linked ∧ linked.names source = some file ∧ linked.bytes = disk.bytes ∧
      linked.names = Function.update disk.names target (some file) ∧ disk.names target = none := by
  obtain ⟨-, hfree, file', hfile', hsource', rfl⟩ := hardLink_ok.mp h
  cases hsource.symm.trans hsource'
  have hne : source ≠ target := by
    rintro rfl
    cases hsource.symm.trans hfree
  refine ⟨touches_link hfile' hfree, ?_, rfl, rfl, hfree⟩
  rw [names_link, Function.update_of_ne hne]
  exact hsource

variable {m1 : M1RuntimeSession C} {after : Inbox}

lemma Moves.consistent (hmoves : Moves blake3 config m1 before message after)
    (h : Consistent config capacity before) : Consistent config capacity after := by
  cases hmoves with
  | stays => exact h
  | @stages transferId size next name recvDir safeName hash path haccepts hnew =>
    obtain ⟨hnext, hle⟩ := nextTotal_ok.mp haccepts.total
    exact h.add (not_mem_of_findKey hnew) haccepts.count rfl (touches_create haccepts.free)
      (fun entry hent => h.file_ne_next hent)
      (live_offeredTransfer haccepts.dir haccepts.name size hash) hnext (h.sameCapacity ▸ hle)
  | @replaces transferId key size next name recvDir safeName hash path old removeFails haccepts
      hold =>
    obtain ⟨hnext, hle⟩ := nextTotal_ok.mp haccepts.total
    have hfd := h.found hold
    obtain ⟨file, hfile, hnm, -⟩ := hfd.live.staged
    have hstaged : before.disk.names old.stager.stagingPath = some file := (hnm _).mpr rfl
    have hne : old.stager.stagingPath ≠ path := by
      rintro rfl
      cases hstaged.symm.trans haccepts.free
    -- The old transfer could as well have been dropped before the new file was made.
    have hrem := h.remove hold hfile (touches_drop hstaged removeFails)
    have hsub := UInt64.toNat_sub_of_le _ _ hfd.le
    have hbefore := UInt64.le_iff_toNat_le.mp hfd.le
    have hafter := UInt64.toNat_sub_of_le next old.reservation.bytes
      (UInt64.le_iff_toNat_le.mpr (by omega))
    have hwit := UInt64.le_iff_toNat_le.mp (h.sameCapacity ▸ hle)
    have hfree : (old.stager.drop before.disk removeFails).names path = none := by
      unfold drop
      split
      · exact haccepts.free
      · rw [names_unlink, Function.update_of_ne hne.symm]
        exact haccepts.free
    rw [drop_create hne]
    have hnew : Live config ((old.stager.drop before.disk removeFails).create path)
        (offeredTransfer recvDir safeName path (old.stager.drop before.disk removeFails).next size
          hash) := live_offeredTransfer haccepts.dir haccepts.name size hash
    rw [next_drop] at hnew
    refine hrem.add not_mem_dropKey ?_ rfl
      (next_drop old.stager before.disk removeFails ▸ touches_create hfree) ?_ hnew ?_ ?_
    · exact Nat.lt_of_le_of_lt dropKey_sublist.length_le haccepts.count
    · exact fun entry hent => h.file_ne_next (dropKey_sublist.subset hent)
    · simp only [hsub, hafter, offeredTransfer]
      omega
    · refine UInt64.le_iff_toNat_le.mpr ?_
      simp only [hafter]
      omega
  | @advances transferId key offset attempted data transfer file hfind hend hfile =>
    have hfd := h.found hfind
    obtain ⟨-, hatt, -⟩ := attemptedEnd_ok.mp hend
    obtain ⟨own, hown, hnm, hbytes⟩ := hfd.live.staged
    cases hfile.symm.trans hown
    -- The transfer is taken out and put back with the bytes of the chunk.
    have hrem := h.remove hfind hfile (touches_append data)
    have hsub := UInt64.toNat_sub_of_le _ _ hfd.le
    have hbefore := UInt64.le_iff_toNat_le.mp hfd.le
    have hcount := h.count
    have hless := hfd.count
    have hsame : (advanced transfer data attempted).stager.file = some file := hfile
    refine hrem.add not_mem_dropKey ?_ hsame (Touches.refl file _) ?_ ?_ ?_ h.within
    · simp only
      omega
    · exact fun entry hent => hfile ▸ hfd.alone entry hent
    · refine ⟨hfd.live.size, hfd.live.reservation, hfd.live.place, ⟨file, hfile, hnm, ?_⟩, ?_⟩
      · simp only [advanced]
        rw [bytes_append_self (before.disk.named _ _ ((hnm _).mpr rfl)), hbytes]
      · simp [advanced, hatt, hfd.live.received]
    · rw [hfd.live.reservation] at hsub hbefore
      simp only [advanced, hfd.live.reservation, hsub]
      omega
  | @leaves _ transferId key transfer disk removeFails hfind hcut =>
    obtain ⟨file, hfile, hnm, -⟩ := (h.found hfind).live.staged
    obtain ⟨htou, hsame⟩ := hcut.touches hfile
    have hstaged : disk.names transfer.stager.stagingPath = some file := by
      rw [hsame]
      exact (hnm _).mpr rfl
    exact h.remove hfind hfile (htou.trans (touches_drop hstaged removeFails))
  | @publishes transferId key transfer linked removeFails hfind _ _ _ hlink =>
    obtain ⟨file, hfile, hnm, -⟩ := (h.found hfind).live.staged
    obtain ⟨htou, hstaged, -⟩ := hardLink_touches hlink ((hnm _).mpr rfl)
    exact h.remove hfind hfile (htou.trans (touches_drop hstaged removeFails))

/-! ## What the disk can see -/

/-- The message is a chunk of a live transfer that starts where the file of the transfer ends and
keeps within the offered size, and bytes of it go to the end of that file. -/
def Writes (before : Inbox) (message : FileTransferMessage) (after : Inbox) (file : Nat) : Prop :=
  ∃ transferId key offset data transfer count, message = .chunk transferId offset data ∧
    findKey Prod.fst transferId before.incoming = some (key, transfer) ∧
    transfer.stager.file = some file ∧
    offset.toNat = (before.disk.bytes file).length ∧
    offset.toNat + data.length ≤ transfer.expectedSize.toNat ∧
    after.disk.bytes file = before.disk.bytes file ++ data.take count

/-- The message is an offer, for which an empty file is made under a free name. -/
def StagesName (before : Inbox) (message : FileTransferMessage) (after : Inbox) (path : Path)
    (file : Nat) : Prop :=
  ∃ transferId name size hash transfer, message = .offer transferId name size hash ∧
    findKey Prod.fst transferId after.incoming = some (transferId, transfer) ∧
    transfer.stager.stagingPath = path ∧ transfer.stager.file = some file ∧
    before.disk.names path = none ∧ after.disk.bytes file = []

structure Offer where
  transferId : UInt64
  safeName : String
  size : UInt64
  hash : FixedBytes 32

/-- There is a transfer with the data of the offer. -/
def Shows (inbox : Inbox) (offer : Offer) : Prop :=
  ∃ transfer, (offer.transferId, transfer) ∈ inbox.incoming ∧ transfer.name = offer.safeName ∧
    transfer.expectedSize = offer.size ∧ transfer.stager.expectedHash = offer.hash

/-- The message completes a live transfer under the receive permission, and the name, which was
free, is directly in the receive directory and stands for a file of the offered size and hash. -/
def PublishesName (blake3 : Bytes → FixedBytes 32) (config : FileTransferConfig)
    (m1 : M1RuntimeSession C) (before : Inbox) (message : FileTransferMessage) (after : Inbox)
    (path : Path) (file : Nat) : Prop :=
  ∃ offer recvDir, message = .complete offer.transferId ∧ Shows before offer ∧
    m1.Holds .receiveFileFromViewer ∧ before.disk.names path = none ∧
    config.recvFileDir = some recvDir ∧ SimpleName offer.safeName ∧
    path = pathOf recvDir ++ [offer.safeName] ∧
    (after.disk.bytes file).length = offer.size.toNat ∧
    blake3 (after.disk.bytes file) = offer.hash

lemma bytes_drop (stager : IncomingFileStager) (disk : Disk Path) (removeFails : Bool) :
    (stager.drop disk removeFails).bytes = disk.bytes := by
  unfold drop
  split <;> rfl

lemma names_of_drop {removeFails : Bool}
    (h : (stager.drop disk removeFails).names path = some file) : disk.names path = some file := by
  unfold drop at h
  split at h
  · exact h
  · rw [names_unlink, Function.update_apply] at h
    split at h
    · cases h
    · exact h

lemma Consistent.writes (h : Consistent config capacity before) {offset attempted : UInt64}
    {data : Bytes} (hfind : findKey Prod.fst transferId before.incoming = some (key, transfer))
    (hend : transfer.stager.attemptedEnd offset data = .ok attempted)
    (hfile : transfer.stager.file = some file) (count : Nat)
    (hafter : after.disk.bytes = (before.disk.append file (data.take count)).bytes) {other : Nat}
    (hother : after.disk.bytes other ≠ before.disk.bytes other) :
    Writes before (.chunk transferId offset data) after other := by
  have hlive := (h.found hfind).live
  obtain ⟨own, hown, hnm, hbytes⟩ := hlive.staged
  cases hfile.symm.trans hown
  obtain ⟨rfl, hatt, hle⟩ := attemptedEnd_ok.mp hend
  have hle := UInt64.le_iff_toNat_le.mp hle
  have hsame : other = file := by
    by_contra hne
    rw [hafter, bytes_append_of_ne hne] at hother
    exact hother rfl
  subst hsame
  refine ⟨transferId, key, _, data, transfer, count, rfl, hfind, hfile, ?_, ?_, ?_⟩
  · rw [hbytes, hlive.received]
  · rw [← hlive.size]
    omega
  · rw [hafter, bytes_append_self (before.disk.named _ _ ((hnm _).mpr rfl))]

section

variable (hmoves : Moves blake3 config m1 before message after)
  (h : Consistent config capacity before)

include hmoves h

lemma Moves.writes (hfile : after.disk.bytes file ≠ before.disk.bytes file) :
    Writes before message after file := by
  cases hmoves with
  | stays => exact absurd rfl hfile
  | stages haccepts hnew => exact absurd rfl hfile
  | replaces removeFails haccepts hold =>
    rw [bytes_drop] at hfile
    exact absurd rfl hfile
  | @advances transferId key offset attempted data transfer own hfind hend hown =>
    refine h.writes hfind hend hown data.length ?_ hfile
    rw [List.take_length]
  | @leaves _ transferId key transfer disk removeFails hfind hcut =>
    cases hcut with
    | whole _ =>
      rw [bytes_drop] at hfile
      exact absurd rfl hfile
    | written count hend hown =>
      exact h.writes hfind hend hown count (bytes_drop ..) hfile
  | @publishes transferId key transfer linked removeFails hfind hgranted hsize hhash hlink =>
    obtain ⟨own, hown, hnm, -⟩ := (h.found hfind).live.staged
    obtain ⟨-, -, hbytes, -⟩ := hardLink_touches hlink ((hnm _).mpr rfl)
    rw [bytes_drop, hbytes] at hfile
    exact absurd rfl hfile

lemma Moves.names (hafter : after.disk.names path = some file)
    (hbefore : before.disk.names path ≠ some file) : StagesName before message after path file ∨
      PublishesName blake3 config m1 before message after path file := by
  cases hmoves with
  | stays => exact absurd hafter hbefore
  | @stages transferId size next name recvDir safeName hash staging haccepts hnew =>
    simp only [names_create, Function.update_apply] at hafter
    split at hafter
    · rename_i heq
      cases heq
      cases hafter
      refine .inl ⟨transferId, name, size, hash,
        offeredTransfer recvDir safeName path before.disk.next size hash, rfl, ?_, rfl, rfl,
        haccepts.free, before.disk.fresh _ (Nat.le_refl _)⟩
      simp [findKey]
    · exact absurd hafter hbefore
  | @replaces transferId key size next name recvDir safeName hash staging old removeFails haccepts
      hold =>
    have hcre := names_of_drop hafter
    rw [names_create, Function.update_apply] at hcre
    split at hcre
    · rename_i heq
      cases heq
      cases hcre
      refine .inl ⟨transferId, name, size, hash,
        offeredTransfer recvDir safeName path before.disk.next size hash, rfl, ?_, rfl, rfl,
        haccepts.free, ?_⟩
      · simp [findKey]
      · rw [bytes_drop]
        exact before.disk.fresh _ (Nat.le_refl _)
    · exact absurd hcre hbefore
  | advances hfind hend hfile => exact absurd hafter hbefore
  | @leaves _ transferId key transfer disk removeFails hfind hcut =>
    obtain ⟨own, hown, -⟩ := (h.found hfind).live.staged
    have hctN := names_of_drop hafter
    rw [(hcut.touches hown).2] at hctN
    exact absurd hctN hbefore
  | @publishes transferId key transfer linked removeFails hfind hgranted hsize hhash hlink =>
    have hlive := (h.found hfind).live
    obtain ⟨own, hown, hnm, hbytes⟩ := hlive.staged
    obtain ⟨recvDir, hdir, hsim, hpl⟩ := hlive.place
    obtain ⟨-, -, hlin, hlnk, hfree⟩ := hardLink_touches hlink ((hnm _).mpr rfl)
    have hnew := names_of_drop hafter
    rw [hlnk, Function.update_apply] at hnew
    split at hnew
    · rename_i heq
      cases heq
      cases hnew
      obtain ⟨hmem, rfl⟩ := of_findKey hfind
      refine .inr ⟨⟨key, transfer.name, transfer.expectedSize, transfer.stager.expectedHash⟩,
        recvDir, rfl, ⟨transfer, hmem, rfl, rfl, rfl⟩, hgranted, hfree, hdir, hsim, hpl,
        ?_, ?_⟩
      · rw [bytes_drop, hlin, hbytes, ← hlive.received, hsize, hlive.size]
      · rw [bytes_drop, hlin, hbytes, hhash]
    · exact absurd hnew hbefore

end

/-! ## Runs -/

/-- The event is the message of the offer, whose name is a clean form of the one sent. -/
def Brings (event : Event) (offer : Offer) : Prop :=
  ∃ name answers, event = .message (.offer offer.transferId name offer.size offer.hash) answers ∧
    sanitizeTransferFilename name = some offer.safeName

variable {offer : Offer}

lemma Moves.shows (hmoves : Moves blake3 config m1 before message after) (answers : Answers)
    (h : Shows after offer) : Shows before offer ∨ Brings (.message message answers) offer := by
  obtain ⟨transfer, hmem, hname, hsize, hhash⟩ := h
  cases hmoves with
  | stays => exact .inl ⟨transfer, hmem, hname, hsize, hhash⟩
  | stages haccepts hnew =>
    rcases List.mem_cons.mp hmem with hfirst | hmem
    · cases hfirst
      cases hname; cases hsize; cases hhash
      exact .inr ⟨_, answers, rfl, haccepts.name⟩
    · exact .inl ⟨transfer, hmem, hname, hsize, hhash⟩
  | replaces removeFails haccepts hold =>
    rcases List.mem_cons.mp hmem with hfirst | hmem
    · cases hfirst
      cases hname; cases hsize; cases hhash
      exact .inr ⟨_, answers, rfl, haccepts.name⟩
    · exact .inl ⟨transfer, dropKey_sublist.subset hmem, hname, hsize, hhash⟩
  | advances hfind hend hfile =>
    rcases List.mem_cons.mp hmem with hfirst | hmem
    · obtain ⟨hold, hkey⟩ := of_findKey hfind
      cases hfirst
      cases hkey
      exact .inl ⟨_, hold, hname, hsize, hhash⟩
    · exact .inl ⟨transfer, dropKey_sublist.subset hmem, hname, hsize, hhash⟩
  | leaves removeFails hfind hcut =>
    exact .inl ⟨transfer, dropKey_sublist.subset hmem, hname, hsize, hhash⟩
  | publishes removeFails hfind _ _ _ hlink =>
    exact .inl ⟨transfer, dropKey_sublist.subset hmem, hname, hsize, hhash⟩

/-- A new state, whatever is being sent. -/
def Starts (capacity : UInt64) (start : Daemon C) : Prop :=
  { start.state with outgoing := none } = FileTransferState.new capacity

variable {start : Daemon C}

lemma Starts.consistent (h : Starts capacity start) : Consistent config capacity start.inbox := by
  obtain ⟨⟨outgoing, incoming, capacity', reserved⟩, m1, disk⟩ := start
  cases h
  exact ⟨rfl, List.nodup_nil, List.nodup_nil, Nat.zero_le _, nofun,
    rfl, UInt64.le_iff_toNat_le.mpr (Nat.zero_le _)⟩

lemma step_consistent (h : Consistent config capacity daemon.inbox) (event : Event) :
    Consistent config capacity (daemon.step blake3 config event).inbox := by
  cases event with
  | message message answers => exact (handleEnvelope_moves message).consistent h
  | consent call => exact h

lemma run_consistent (h : Starts capacity start) (events : List Event) :
    Consistent config capacity (start.run blake3 config events).inbox :=
  foldl_invariant (I := fun daemon => Consistent config capacity (Daemon.inbox daemon))
    (fun _ event h => step_consistent h event) events h.consistent

lemma step_shows (daemon : Daemon C) (event : Event) (offer : Offer)
    (h : Shows (daemon.step blake3 config event).inbox offer) :
    Shows daemon.inbox offer ∨ Brings event offer := by
  cases event with
  | message message answers => exact (handleEnvelope_moves message).shows answers h
  | consent call => exact .inl h

lemma run_offered (hstart : Starts capacity start) {events : List Event}
    (h : Shows (start.run blake3 config events).inbox offer) :
    ∃ event ∈ events, Brings event offer := by
  obtain ⟨old, hold, -⟩ | hbro :=
    foldl_provenance (fun daemon => Shows (Daemon.inbox daemon)) step_shows h
  · obtain ⟨⟨outgoing, incoming, capacity', reserved⟩, m1, disk⟩ := start
    cases hstart
    cases hold
  · exact hbro

/-- **File transfers.** After every run of messages and consent changes, at most eight transfers
are live, all of them offered in the run, and their sizes are the reserved bytes and within the
capacity of the pool. Whatever comes next writes to a file only as the next chunk of its live
transfer and within the offered size. A new name is the private name of a new, empty file, or it
was free in the receive directory and is published under the receive permission, for a file of
the offered size and hash. -/
theorem transfers_safe (blake3 : Bytes → FixedBytes 32) (config : FileTransferConfig)
    {start : Daemon C} (hstart : Starts capacity start) (events : List Event) (event : Event) :
    let daemon := start.run blake3 config events
    let after := daemon.step blake3 config event
    daemon.state.incoming.length ≤ maxConcurrentIncomingTransfers ∧
      (∀ offer, Shows daemon.inbox offer → ∃ event ∈ events, Brings event offer) ∧
      daemon.state.reserved.toNat = offered daemon.state.incoming ∧
      offered daemon.state.incoming ≤ capacity.toNat ∧
      (∀ file, after.disk.bytes file ≠ daemon.disk.bytes file →
        ∃ message answers, event = .message message answers ∧
          Writes daemon.inbox message after.inbox file) ∧
      ∀ path file, after.disk.names path = some file → daemon.disk.names path ≠ some file →
        ∃ message answers, event = .message message answers ∧
          (StagesName daemon.inbox message after.inbox path file ∨
            PublishesName blake3 config daemon.m1 daemon.inbox message after.inbox path file) := by
  intro daemon after
  have h : Consistent config capacity daemon.inbox := run_consistent hstart events
  refine ⟨h.count, fun offer hshows => run_offered hstart hshows, h.total,
    h.total ▸ UInt64.le_iff_toNat_le.mp h.within, ?_, ?_⟩
  · intro file hfile
    cases event with
    | message message answers =>
      exact ⟨message, answers, rfl, (handleEnvelope_moves message).writes h hfile⟩
    | consent call => exact absurd rfl hfile
  · intro path file hafter hbefore
    cases event with
    | message message answers =>
      exact ⟨message, answers, rfl, (handleEnvelope_moves message).names h hafter hbefore⟩
    | consent call => exact absurd hafter hbefore

def sampleAnswers : Answers where
  gates := []
  clock := M1RuntimeSession.rightFor 9
  processId := 7
  attempts := fun _ => ⟨0, 0, none⟩
  write := none
  finish := ⟨none, none, false⟩
  removeFails := false

def sampleConfig : FileTransferConfig := ⟨some "/inbox", 100⟩

def sampleStart : Daemon Ledger.sampleCrypto :=
  ⟨.new 800, M1RuntimeSession.sampleRuntime, emptyDisk⟩

def sampleEvents : List Event :=
  [.consent ⟨.offer, M1RuntimeSession.rightFor 9⟩, .consent ⟨.grantConsent,
  M1RuntimeSession.rightFor 9⟩,
    .message (.offer 1 "../a" 3 (sampleDigest [1, 2, 3])) sampleAnswers,
    .message (.chunk 1 0 [1, 2, 3]) sampleAnswers]

theorem transfers_safe_sample :
    ∃ message answers, (Event.message (.complete 1) sampleAnswers) = .message message answers ∧
      PublishesName sampleDigest sampleConfig
        (sampleStart.run sampleDigest sampleConfig sampleEvents).m1
        (sampleStart.run sampleDigest sampleConfig sampleEvents).inbox message
        ((sampleStart.run sampleDigest sampleConfig sampleEvents).step sampleDigest sampleConfig
          (.message (.complete 1) sampleAnswers)).inbox ["inbox", "a"] 0 := by
  have hstart : Starts 800 sampleStart := rfl
  obtain ⟨-, -, -, -, -, hnames⟩ := transfers_safe sampleDigest sampleConfig
    hstart sampleEvents (.message (.complete 1) sampleAnswers)
  obtain ⟨message, answers, hevent, hstages | hpublishes⟩ :=
    hnames ["inbox", "a"] 0 (by decide +kernel) (by decide +kernel)
  · obtain ⟨_, _, _, _, _, hoffer, -⟩ := hstages
    cases hevent
    cases hoffer
  · exact ⟨message, answers, hevent, hpublishes⟩

end Daemon

end XeniaPeer.Transfer
