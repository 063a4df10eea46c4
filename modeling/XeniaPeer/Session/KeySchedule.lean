import XeniaPeer.Foundation.Codes

/-!
# Session keys

The key derivations of `xenia-handshake`: the lane keys of a session from its root key and the hash
of its transcript, and the lane keys of a later epoch from the session's rekey key and the hash of
the epoch's context. BLAKE3, HKDF-SHA-256 and bincode are parameters.
-/

namespace XeniaPeer.Session

open Foundation

inductive RekeyReason where
  | manual
  | frameCount
  | byteCount
  | time
  | transportChange
deriving DecidableEq

structure RekeyEpochContextV1 where
  schema : String
  keyEpoch : UInt64
  (baseTranscriptHash previousEpochHash : FixedBytes 32)
  reason : RekeyReason
deriving DecidableEq

def RekeyEpochContextV1.new (keyEpoch : UInt64)
    (baseTranscriptHash previousEpochHash : FixedBytes 32) (reason : RekeyReason) :
    RekeyEpochContextV1 :=
  ⟨"xenia-rekey-epoch-context-v1", keyEpoch, baseTranscriptHash, previousEpochHash, reason⟩

/-- The hash and key derivation functions, and the bincode bytes of a context, which serialization
always has. -/
structure KeyPrimitives where
  blake3 : Bytes → FixedBytes 32
  hkdfSha256 : Bytes → Bytes → Bytes → FixedBytes 32
  canonicalBytes : RekeyEpochContextV1 → Bytes

variable (P : KeyPrimitives)

def RekeyEpochContextV1.epochHash (context : RekeyEpochContextV1) : FixedBytes 32 :=
  P.blake3 (P.canonicalBytes context)

/-! ## Keys -/

def sessionKeyScheduleSchema : String := "xenia-session-key-schedule-v1"

def deriveLabeledSessionKey (rootKey transcriptHash : FixedBytes 32) (label : String) :
    FixedBytes 32 :=
  P.hkdfSha256 (utf8 sessionKeyScheduleSchema) rootKey.toList
    (utf8 label ++ (utf8 ":" ++ transcriptHash.toList))

structure SessionKeySchedule where
  (aead control video audio telemetry rekey context : FixedBytes 32)

def deriveSessionKeySchedule (rootKey transcriptHash : FixedBytes 32) : SessionKeySchedule where
  aead := deriveLabeledSessionKey P rootKey transcriptHash "xenia/session/aead"
  control := deriveLabeledSessionKey P rootKey transcriptHash "xenia/session/control"
  video := deriveLabeledSessionKey P rootKey transcriptHash "xenia/session/video"
  audio := deriveLabeledSessionKey P rootKey transcriptHash "xenia/session/audio"
  telemetry := deriveLabeledSessionKey P rootKey transcriptHash "xenia/session/telemetry"
  rekey := deriveLabeledSessionKey P rootKey transcriptHash "xenia/session/rekey"
  context := deriveLabeledSessionKey P rootKey transcriptHash "xenia/session/context"

structure RekeyEpochKeys where
  (aead control video audio telemetry : FixedBytes 32)
deriving DecidableEq

def deriveRekeyEpochKeys (schedule : SessionKeySchedule) (context : RekeyEpochContextV1) :
    RekeyEpochKeys where
  aead := deriveLabeledSessionKey P schedule.rekey (context.epochHash P) "xenia/rekey/aead"
  control := deriveLabeledSessionKey P schedule.rekey (context.epochHash P) "xenia/rekey/control"
  video := deriveLabeledSessionKey P schedule.rekey (context.epochHash P) "xenia/rekey/video"
  audio := deriveLabeledSessionKey P schedule.rekey (context.epochHash P) "xenia/rekey/audio"
  telemetry :=
    deriveLabeledSessionKey P schedule.rekey (context.epochHash P) "xenia/rekey/telemetry"

end XeniaPeer.Session
