import XeniaPeer.Foundation.Signing

/-!
# Ledger entries and their hash

The records of `xenia-ledger` (`entry.rs`) and the hash of an entry (`hash.rs`), `computeEntryHash`:
blake3 over the bincode bytes of sequence number, previous hash, timestamp and event. The signature
scheme, blake3 and bincode are the parameters of `Crypto`; the sample data at the end instantiate
bincode with its default layout.
-/

namespace XeniaPeer.Ledger

open Foundation

/-! ## Records -/

/-- `std::time::SystemTime` on Unix: seconds around the epoch in 64 bits, and the
nanoseconds of a started second. -/
structure SystemTime where
  secs : Int
  nanos : Nat
  secs_ge : -2 ^ 63 ≤ secs
  secs_lt : secs < 2 ^ 63
  nanos_lt : nanos < 10 ^ 9
deriving DecidableEq

def SystemTime.durationSinceEpoch (t : SystemTime) : Option (Nat × Nat) :=
  if 0 ≤ t.secs then some (t.secs.toNat, t.nanos) else none

abbrev Uuid := FixedBytes 16

inductive ConsentKind where
  | request
  | approval
  | denial
  | revocation
  | violation
  | athenaTriage
deriving DecidableEq

def ConsentKind.stableName : ConsentKind → String
  | .request => "consent.requested"
  | .approval => "consent.granted"
  | .denial => "consent.denied"
  | .revocation => "consent.revoked"
  | .violation => "consent.protocol_violation"
  | .athenaTriage => "admin.athena_triage"

structure ConsentEventRecord where
  sourceId : FixedBytes 32
  (sessionId requestId : Uuid)
  kind : ConsentKind
  scope : String
deriving DecidableEq

structure LedgerEntry where
  seq : UInt64
  prevHash : FixedBytes 32
  timestamp : SystemTime
  event : ConsentEventRecord
  entryHash : FixedBytes 32
  signature : FixedBytes 64
deriving DecidableEq

inductive LedgerError where
  | serialization
  | appendInvariant
  | sequenceOverflow
deriving DecidableEq

structure EntryPreimage where
  seq : UInt64
  prevHash : FixedBytes 32
  timestamp : SystemTime
  event : ConsentEventRecord
deriving DecidableEq

def LedgerEntry.preimage (e : LedgerEntry) : EntryPreimage where
  seq := e.seq
  prevHash := e.prevHash
  timestamp := e.timestamp
  event := e.event

def zeroHash : FixedBytes 32 := .replicate 32 0

/-! ## The hash of an entry -/

/-- The libraries that entries are hashed and signed with. -/
structure Crypto where
  ed25519 : SignatureScheme 32 64
  blake3 : Bytes → FixedBytes 32
  /-- `bincode::serialize` of a preimage. -/
  serializePreimage : EntryPreimage → Option Bytes
  /-- Serialization fails for a time before the epoch, and for nothing else. -/
  serializePreimage_isSome : ∀ p, (serializePreimage p).isSome ↔ 0 ≤ p.timestamp.secs

/-- The hash an entry is chained and signed by. -/
def computeEntryHash (C : Crypto) (p : EntryPreimage) : Except LedgerError (FixedBytes 32) := do
  let bytes ← okOr (C.serializePreimage p) .serialization
  pure (C.blake3 bytes)

/-! ## Sample data -/

def ConsentKind.index : ConsentKind → Nat
  | .request => 0
  | .approval => 1
  | .denial => 2
  | .revocation => 3
  | .violation => 4
  | .athenaTriage => 5

/-- The default bincode layout of a text: its length in 64 bits, then its bytes. -/
def encodeText (s : String) : Bytes := leBytes 8 (utf8 s).length ++ utf8 s

def encodeUuid (u : Uuid) : Bytes := leBytes 8 16 ++ u.toList

def ConsentEventRecord.encode (e : ConsentEventRecord) : Bytes :=
  e.sourceId.toList ++ encodeUuid e.sessionId ++ encodeUuid e.requestId ++
    leBytes 4 e.kind.index ++ encodeText e.scope

def EntryPreimage.encode (p : EntryPreimage) : Option Bytes :=
  if 0 ≤ p.timestamp.secs then
    some (u64Le p.seq ++ p.prevHash.toList ++ leBytes 8 p.timestamp.secs.toNat ++
      leBytes 4 p.timestamp.nanos ++ p.event.encode)
  else none

def bincodeCrypto (ed25519 : SignatureScheme 32 64) (blake3 : Bytes → FixedBytes 32) : Crypto where
  ed25519 := ed25519
  blake3 := blake3
  serializePreimage := EntryPreimage.encode
  serializePreimage_isSome p := by simp [EntryPreimage.encode]

def sampleCrypto : Crypto := bincodeCrypto (keyedScheme (foldDigest 64)) (foldDigest 32)

def sampleTime : SystemTime where
  secs := 1700000000
  nanos := 5
  secs_ge := by decide
  secs_lt := by decide
  nanos_lt := by decide

def sampleKey (b : UInt8) : sampleCrypto.ed25519.VerifyingKey :=
  ⟨.replicate 32 b, rfl⟩

def sampleEvent (kind : ConsentKind) : ConsentEventRecord where
  sourceId := .replicate 32 1
  sessionId := .replicate 16 2
  requestId := .replicate 16 3
  kind := kind
  scope := "screen"

def sampleEntry (key : sampleCrypto.ed25519.VerifyingKey) (seq : UInt64)
    (prevHash : FixedBytes 32) (kind : ConsentKind) : LedgerEntry :=
  let preimage := ⟨seq, prevHash, sampleTime, sampleEvent kind⟩
  let entryHash := (computeEntryHash sampleCrypto preimage).toOption.getD zeroHash
  ⟨seq, prevHash, sampleTime, sampleEvent kind, entryHash,
    sampleCrypto.ed25519.sign key.val entryHash.toList⟩

def sampleChain (key : sampleCrypto.ed25519.VerifyingKey) : List LedgerEntry :=
  let first := sampleEntry key 0 zeroHash .request
  [first, sampleEntry key 1 first.entryHash .approval]

end XeniaPeer.Ledger
