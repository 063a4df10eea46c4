import XeniaPeer.Ledger.Compaction
import XeniaPeer.Ledger.KeyTransition
import XeniaPeer.Operator.Auth

/-!
# What the daemon key signs

One Ed25519 key of the daemon signs five kinds of messages: the hashes of ledger entries, as 32 raw
bytes, and under a domain tag each the messages of checkpoints, compaction manifests and key
transitions and the bytes of operator tokens. The encodings live in two crates and were not written
against each other.

Main result: `daemon_messages_separate`.
-/

namespace XeniaPeer.Operator

open Foundation Ledger

inductive DaemonMessageKind where
  | entryHash
  | checkpoint
  | compactionManifest
  | keyTransition
  | operatorToken
deriving DecidableEq

def DaemonMessageKind.domain : DaemonMessageKind → Bytes
  | .entryHash => []
  | .checkpoint => utf8 "xenia:ledger-checkpoint:v1"
  | .compactionManifest => utf8 "xenia:ledger-compaction-manifest:v1"
  | .keyTransition => utf8 "xenia:ledger-key-transition:v1"
  | .operatorToken => operatorTokenDomain

inductive DaemonMessage where
  | entryHash (hash : FixedBytes 32)
  | checkpoint (entryCount : UInt64) (headHash ledgerPublicKey : FixedBytes 32)
      (timestampUnixSecs : UInt64)
  | compactionManifest (archivedCheckpointFingerprint currentCheckpointFingerprint
      archiveSequenceDigest recoverySummaryDigest : FixedBytes 32) (timestampUnixSecs : UInt64)
  | keyTransition (previousCheckpointFingerprint newLedgerPublicKey : FixedBytes 32)
      (timestampUnixSecs : UInt64)
  | operatorToken (token : OperatorToken)

namespace DaemonMessage

def kind : DaemonMessage → DaemonMessageKind
  | .entryHash _ => .entryHash
  | .checkpoint .. => .checkpoint
  | .compactionManifest .. => .compactionManifest
  | .keyTransition .. => .keyTransition
  | .operatorToken _ => .operatorToken

def encode : DaemonMessage → Bytes
  | .entryHash hash => hash.toList
  | .checkpoint count head key time => checkpointMessage count head key time
  | .compactionManifest archived current sequence summary time =>
    ledgerCompactionManifestMessage archived current sequence summary time
  | .keyTransition fingerprint key time => ledgerKeyTransitionMessage fingerprint key time
  | .operatorToken token => token.canonicalBytes

/-! ## The kinds are disjoint -/

lemma domain_isPrefix (m : DaemonMessage) : m.kind.domain <+: m.encode := by
  cases m with
  | entryHash hash => exact List.nil_prefix
  | operatorToken token => exact List.prefix_append _ _
  | checkpoint | compactionManifest | keyTransition =>
    simp only [encode, checkpointMessage, ledgerCompactionManifestMessage,
      ledgerKeyTransitionMessage, List.append_assoc]
    exact List.prefix_append _ _

lemma domain_not_extends {k k' : DaemonMessageKind} (hk : k ≠ .entryHash) (hne : k ≠ k') :
    ¬ k.domain <+: k'.domain := by
  cases k <;> cases k' <;> first | exact absurd rfl hk | exact absurd rfl hne | decide +kernel

lemma length_encode {m : DaemonMessage} (h : m.kind ≠ .entryHash) : 32 < m.encode.length := by
  cases m with
  | entryHash hash => exact absurd rfl h
  | checkpoint =>
    simp only [encode, checkpointMessage, List.length_append, List.Vector.toList_length]
    omega
  | compactionManifest =>
    simp only [encode, ledgerCompactionManifestMessage, List.length_append,
      List.Vector.toList_length]
    omega
  | keyTransition =>
    simp only [encode, ledgerKeyTransitionMessage, List.length_append, List.Vector.toList_length]
    omega
  | operatorToken token =>
    have hdom : operatorTokenDomain.length = 23 := by decide +kernel
    simp only [encode, OperatorToken.canonicalBytes, operatorTokenCanonicalBytes,
      List.length_append, List.length_cons, leBytes_length, u64Le, List.Vector.toList_length, hdom]
    omega

lemma length_encode_entryHash {m : DaemonMessage} (h : m.kind = .entryHash) :
    m.encode.length = 32 := by
  cases m <;> cases h
  exact List.Vector.toList_length _

lemma kind_of_encode {m m' : DaemonMessage} (h : m.encode = m'.encode) : m.kind = m'.kind := by
  by_contra hne
  have hlen := congrArg List.length h
  by_cases hhash : m.kind = .entryHash
  · have := length_encode_entryHash hhash
    have := length_encode (m := m') (fun h' => hne (hhash.trans h'.symm))
    omega
  by_cases hhash' : m'.kind = .entryHash
  · have := length_encode_entryHash hhash'
    have := length_encode hhash
    omega
  obtain ⟨body, hbody⟩ := m.domain_isPrefix
  obtain ⟨body', hbody'⟩ := m'.domain_isPrefix
  refine append_ne_of_not_prefix (domain_not_extends hhash hne)
    (domain_not_extends hhash' (Ne.symm hne)) body body' ?_
  rw [hbody, hbody', h]

lemma encode_injective : Function.Injective encode := by
  intro m m' h
  have hkind := kind_of_encode h
  cases m with
  | entryHash hash =>
    cases m' <;> cases hkind
    rw [List.Vector.toList_injective h]
  | checkpoint count head key time =>
    cases m' <;> cases hkind
    obtain ⟨⟨rfl, rfl, rfl, rfl⟩, -⟩ := checkpointMessage_inj (congrArg (· ++ []) h)
    rfl
  | compactionManifest archived current sequence summary time =>
    cases m' <;> cases hkind
    obtain ⟨rfl, rfl, rfl, rfl, rfl⟩ := ledgerCompactionManifestMessage_inj h
    rfl
  | keyTransition fingerprint key time =>
    cases m' <;> cases hkind
    obtain ⟨rfl, rfl, rfl⟩ := ledgerKeyTransitionMessage_inj h
    rfl
  | operatorToken token =>
    cases m' <;> cases hkind
    rw [OperatorToken.canonicalBytes_injective h]

end DaemonMessage

/-! ## What the verifiers accept -/

/-- A signed structure, as it is presented to its verifier. The two sides of a key transition
carry a signature each. -/
inductive DaemonArtifact where
  | entry (entry : LedgerEntry)
  | checkpoint (checkpoint : LedgerCheckpoint)
  | compactionManifest (manifest : LedgerCompactionManifest)
  | previousKeyTransition (transition : LedgerKeyTransition)
  | newKeyTransition (transition : LedgerKeyTransition)
  | operatorToken (signed : SignedOperatorToken)

namespace DaemonArtifact

def signature : DaemonArtifact → FixedBytes 64
  | .entry e => e.signature
  | .checkpoint c => c.signature
  | .compactionManifest m => m.signature
  | .previousKeyTransition t => t.previousKeySignature
  | .newKeyTransition t => t.newKeySignature
  | .operatorToken s => s.signature

variable (C : OperatorCrypto)

def message : DaemonArtifact → DaemonMessage
  | .entry e => .entryHash e.entryHash
  | .checkpoint c => .checkpoint c.entryCount c.headHash c.ledgerPublicKey c.timestampUnixSecs
  | .compactionManifest m =>
    .compactionManifest (m.archivedThroughCheckpoint.fingerprint C.toCrypto)
      (m.currentCheckpoint.fingerprint C.toCrypto) m.archiveSequenceDigest
      m.recoverySummaryDigest m.timestampUnixSecs
  | .previousKeyTransition t | .newKeyTransition t =>
    .keyTransition (t.previousCheckpoint.fingerprint C.toCrypto) t.newLedgerPublicKey
      t.timestampUnixSecs
  | .operatorToken s => .operatorToken s.token

/-- A verifier accepts the artifact under the key of the daemon. -/
def Accepted (daemon : DaemonKeys C) : DaemonArtifact → Prop
  | .entry e => ∃ entries, e ∈ entries ∧
      verifyChain C.toCrypto entries daemon.daemonPubkey = .ok ()
  | .checkpoint c => verifyCheckpoint C.toCrypto c = .ok () ∧
      c.ledgerPublicKey = daemon.daemonPubkey.val
  | .compactionManifest m => verifyLedgerCompactionManifest C.toCrypto m = .ok () ∧
      m.archivedThroughCheckpoint.ledgerPublicKey = daemon.daemonPubkey.val
  | .previousKeyTransition t => verifyLedgerKeyTransition C.toCrypto t = .ok () ∧
      t.previousCheckpoint.ledgerPublicKey = daemon.daemonPubkey.val
  | .newKeyTransition t => verifyLedgerKeyTransition C.toCrypto t = .ok () ∧
      t.newLedgerPublicKey = daemon.daemonPubkey.val
  | .operatorToken s => ∃ now token, verifyToken C daemon now s = .ok token

variable {C}

lemma verify_of_accepted {daemon : DaemonKeys C} {a : DaemonArtifact} (h : a.Accepted C daemon) :
    C.ed25519.verify daemon.daemonPubkey (a.message C).encode a.signature = true := by
  cases a with
  | entry e =>
    obtain ⟨entries, hmem, hcha⟩ := h
    have hsea := (verifyChain_ok.mp hcha).good_of_mem hmem
    exact hsea.2
  | checkpoint c =>
    obtain ⟨hverify, hkey⟩ := h
    obtain ⟨pk, hsig⟩ := verifyCheckpoint_ok.mp hverify
    have hpk : pk = daemon.daemonPubkey := hsig.eq_of_key hkey
    rw [← hpk]
    exact hsig.2.2
  | compactionManifest m =>
    obtain ⟨hverify, hkey⟩ := h
    obtain ⟨-, pk, hsig⟩ := verifyLedgerCompactionManifest_ok.mp hverify
    have hpk : pk = daemon.daemonPubkey := hsig.archived.eq_of_key hkey
    rw [← hpk]
    exact hsig.signature
  | previousKeyTransition t =>
    obtain ⟨hverify, hkey⟩ := h
    obtain ⟨pk, newKey, hsig⟩ := verifyLedgerKeyTransition_ok.mp hverify
    have hpk : pk = daemon.daemonPubkey := hsig.checkpoint.eq_of_key hkey
    rw [← hpk]
    exact hsig.previous
  | newKeyTransition t =>
    obtain ⟨hverify, hkey⟩ := h
    obtain ⟨pk, newKey, hsig⟩ := verifyLedgerKeyTransition_ok.mp hverify
    have hpk : newKey = daemon.daemonPubkey := Subtype.ext (hsig.newKey_eq.symm.trans hkey)
    rw [← hpk]
    exact hsig.new
  | operatorToken s =>
    obtain ⟨now, token, hverify⟩ := h
    exact (verifyToken_ok.mp hverify).1

end DaemonArtifact

/-- **Separation.** The signed bytes of the five kinds determine the kind and every field. So a
signature that the daemon key made for a message is accepted in a structure of that message
only, as long as it is binding on the two messages; and if signatures cannot be forged, every
accepted structure is one whose message the daemon has issued as a message of that kind. -/
theorem daemon_messages_separate (C : OperatorCrypto) :
    (∀ m m' : DaemonMessage, m.encode = m'.encode → m = m') ∧
    (∀ m m' : DaemonMessage, m.kind ≠ m'.kind → m.encode ≠ m'.encode) ∧
    (∀ (sk : C.ed25519.SigningKey) (mlPk : FixedBytes 1952) (m : DaemonMessage)
        (a : DaemonArtifact),
      C.ed25519.BindingOn sk {b | b = m.encode ∨ b = (a.message C).encode} →
        a.signature = C.ed25519.sign sk m.encode →
        a.Accepted C ⟨C.ed25519.verifyingKey sk, mlPk⟩ → a.message C = m) ∧
    (∀ (daemon : DaemonKeys C) (signed : FixedBytes 32 → Set Bytes) (issued : Set DaemonMessage)
        (a : DaemonArtifact),
      C.ed25519.Unforgeable signed →
        signed daemon.daemonPubkey.val = DaemonMessage.encode '' issued →
        a.Accepted C daemon → a.message C ∈ issued) := by
  refine ⟨?_, ?_, ?_, ?_⟩
  · intro m m' h
    exact DaemonMessage.encode_injective h
  · intro m m' hkind h
    exact hkind (DaemonMessage.kind_of_encode h)
  · intro sk mlPk m a hbinding hsignature haccepted
    have hverify := DaemonArtifact.verify_of_accepted haccepted
    rw [hsignature] at hverify
    exact DaemonMessage.encode_injective
      (hbinding _ (.inl rfl) _ (.inr rfl) hverify)
  · intro daemon signed issued a hunforgeable hsigned haccepted
    have hmem := hunforgeable _ _ _ (DaemonArtifact.verify_of_accepted haccepted)
    rw [hsigned] at hmem
    obtain ⟨m, hm, hencode⟩ := hmem
    rw [← DaemonMessage.encode_injective hencode]
    exact hm

def sampleIssued : List DaemonMessage :=
  [.checkpoint 0 zeroHash (.replicate 32 9) 40,
    .operatorToken (sampleIssue "alice" .approver 5).token]

def sampleIssuedLog : List (UInt8 × Bytes) := sampleIssued.map (fun m => (9, m.encode))

def sampleIssuedCheckpoint : LedgerCheckpoint :=
  ⟨ledgerCheckpointSchema, 0, zeroHash, .replicate 32 9, 40, .replicate 64 0⟩

/-- The checkpoint is accepted, and its message is the one that was signed and issued. -/
theorem daemon_messages_separate_sample :
    let C := recordCrypto sampleIssuedLog
    let a := DaemonArtifact.checkpoint sampleIssuedCheckpoint
    let m : DaemonMessage := .checkpoint 0 zeroHash (.replicate 32 9) 40
    a.Accepted C (recordDaemon sampleIssuedLog) ∧ a.message C = m ∧
      a.message C ∈ {m | m ∈ sampleIssued} := by
  intro C a m
  have haccepted : a.Accepted C (recordDaemon sampleIssuedLog) := by
    refine ⟨?_, rfl⟩
    decide +kernel
  obtain ⟨-, -, hmade, hissued⟩ := daemon_messages_separate C
  have hbinding : C.ed25519.BindingOn (.replicate 32 9)
      {b | b = m.encode ∨ b = (a.message C).encode} := by
    rintro b (rfl | rfl) b' (rfl | rfl) - <;> rfl
  -- the record holds for key 9 exactly the encodings of what was issued
  have hrecord : {b | (.replicate 32 9, b) ∈ numberedKeys 32 sampleIssuedLog} =
      DaemonMessage.encode '' {m | m ∈ sampleIssued} := by
    ext b
    rw [Set.mem_ofPred_eq, mem_numberedKeys]
    constructor
    · intro h
      obtain ⟨m, hm, hb⟩ := List.mem_map.mp h
      exact ⟨m, hm, congrArg Prod.snd hb⟩
    · intro h
      obtain ⟨m, hm, rfl⟩ := h
      exact List.mem_map.mpr ⟨m, hm, rfl⟩
  refine ⟨haccepted, ?_, ?_⟩
  · exact hmade (.replicate 32 9) (.replicate 1952 9) m a hbinding rfl
      haccepted
  · exact hissued (recordDaemon sampleIssuedLog) _ _ a (recordScheme_unforgeable _ _) hrecord
      haccepted

end XeniaPeer.Operator
