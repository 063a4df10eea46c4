import XeniaPeer.Ledger.Checkpoint

/-!
# Countersigned checkpoints

A host that owns the ledger key can show different histories to different observers. Witnesses
with keys of their own countersign a checkpoint (`witness.rs`), and a verifier asks for a quorum
of them.

Main result: `witness_quorum`.
-/

namespace XeniaPeer.Ledger

open Foundation

def checkpointWitnessBundleSchema : String := "xenia-checkpoint-witness-bundle-v1"

def maxCheckpointWitnesses : Nat := 64

structure CheckpointWitnessSignature where
  witnessPublicKey : FixedBytes 32
  timestampUnixSecs : UInt64
  signature : FixedBytes 64
deriving DecidableEq

structure CheckpointWitnessBundle where
  schema : String
  checkpoint : LedgerCheckpoint
  witnesses : List CheckpointWitnessSignature
deriving DecidableEq

def checkpointWitnessMessage (checkpointFingerprint witnessPublicKey : FixedBytes 32)
    (timestampUnixSecs : UInt64) : Bytes :=
  utf8 "xenia:checkpoint-witness:v1" ++ [0] ++ utf8 checkpointWitnessBundleSchema ++ [0] ++
    checkpointFingerprint.toList ++ witnessPublicKey.toList ++ u64Be timestampUnixSecs

inductive CheckpointWitnessError where
  | unsupportedSchema (schema : String)
  | checkpoint (error : CheckpointError)
  | witnessPredatesCheckpoint
  | badWitnessPublicKey
  | badWitnessSignature
  | duplicateWitness
  | untrustedWitness
  | tooManyWitnesses (count maximum : Nat)
  | zeroQuorum
  | quorumNotMet (verified required : Nat)
deriving DecidableEq

variable (C : Crypto)

namespace CheckpointWitnessBundle

def new (checkpoint : LedgerCheckpoint) :
    Except CheckpointWitnessError CheckpointWitnessBundle := do
  (verifyCheckpoint C checkpoint).mapError .checkpoint
  pure ⟨checkpointWitnessBundleSchema, checkpoint, []⟩

def signWith (bundle : CheckpointWitnessBundle) (witnessSigningKey : C.ed25519.SigningKey)
    (timestampUnixSecs : UInt64) : Except CheckpointWitnessError CheckpointWitnessBundle := do
  failIf (timestampUnixSecs < bundle.checkpoint.timestampUnixSecs) .witnessPredatesCheckpoint
  failIf (maxCheckpointWitnesses ≤ bundle.witnesses.length)
    (.tooManyWitnesses (bundle.witnesses.length + 1) maxCheckpointWitnesses)
  let witnessPublicKey := (C.ed25519.verifyingKey witnessSigningKey).val
  failIf (witnessPublicKey ∈ bundle.witnesses.map (·.witnessPublicKey)) .duplicateWitness
  let fingerprint ← (checkpointFingerprint C bundle.checkpoint).mapError .checkpoint
  let message := checkpointWitnessMessage fingerprint witnessPublicKey timestampUnixSecs
  pure { bundle with witnesses := bundle.witnesses ++
    [⟨witnessPublicKey, timestampUnixSecs, C.ed25519.sign witnessSigningKey message⟩] }

def signAll (bundle : CheckpointWitnessBundle) :
    List (C.ed25519.SigningKey × UInt64) →
      CheckpointWitnessBundle × List (C.ed25519.SigningKey × UInt64)
  | [] => (bundle, [])
  | call :: calls =>
    match bundle.signWith C call.1 call.2 with
    | .ok signed => ((signed.signAll calls).1, call :: (signed.signAll calls).2)
    | .error _ => bundle.signAll calls

end CheckpointWitnessBundle

def verifyWitness (checkpoint : LedgerCheckpoint) (trustedWitnessKeys : List (FixedBytes 32))
    (fingerprint : FixedBytes 32) (before : List CheckpointWitnessSignature)
    (witness : CheckpointWitnessSignature) : Except CheckpointWitnessError Unit := do
  failIf (witness.timestampUnixSecs < checkpoint.timestampUnixSecs) .witnessPredatesCheckpoint
  failIf (witness.witnessPublicKey ∈ before.map (·.witnessPublicKey)) .duplicateWitness
  failIf (witness.witnessPublicKey ∉ trustedWitnessKeys) .untrustedWitness
  let key ← okOr (C.ed25519.fromBytes witness.witnessPublicKey) .badWitnessPublicKey
  failIf (C.ed25519.verify key (checkpointWitnessMessage fingerprint witness.witnessPublicKey
    witness.timestampUnixSecs) witness.signature = false) .badWitnessSignature

def verifyCheckpointWitnessQuorum (bundle : CheckpointWitnessBundle)
    (trustedWitnessKeys : List (FixedBytes 32)) (minimumQuorum : Nat) :
    Except CheckpointWitnessError Unit := do
  failIf (bundle.schema ≠ checkpointWitnessBundleSchema) (.unsupportedSchema bundle.schema)
  failIf (minimumQuorum = 0) .zeroQuorum
  failIf (maxCheckpointWitnesses < bundle.witnesses.length)
    (.tooManyWitnesses bundle.witnesses.length maxCheckpointWitnesses)
  (verifyCheckpoint C bundle.checkpoint).mapError .checkpoint
  let fingerprint ← (checkpointFingerprint C bundle.checkpoint).mapError .checkpoint
  checkEach (verifyWitness C bundle.checkpoint trustedWitnessKeys fingerprint) [] bundle.witnesses
  -- the size of the set `observed`
  let verified := (bundle.witnesses.map (·.witnessPublicKey)).dedup.length
  failIf (verified < minimumQuorum) (.quorumNotMet verified minimumQuorum)

/-! ## What is accepted -/

def Countersigns (checkpoint : LedgerCheckpoint) (trusted : List (FixedBytes 32))
    (w : CheckpointWitnessSignature) : Prop :=
  checkpoint.timestampUnixSecs ≤ w.timestampUnixSecs ∧ w.witnessPublicKey ∈ trusted ∧
    C.ed25519.verifyBytes w.witnessPublicKey (checkpointWitnessMessage (checkpoint.fingerprint C)
      w.witnessPublicKey w.timestampUnixSecs) w.signature = true

structure CheckpointWitnessBundle.WellSigned (bundle : CheckpointWitnessBundle)
    (trusted : List (FixedBytes 32)) : Prop where
  schema : bundle.schema = checkpointWitnessBundleSchema
  few : bundle.witnesses.length ≤ maxCheckpointWitnesses
  signed : ∃ pk, SignedBy C pk bundle.checkpoint
  each : ∀ w ∈ bundle.witnesses, Countersigns C bundle.checkpoint trusted w
  distinct : (bundle.witnesses.map (·.witnessPublicKey)).Nodup

variable {C} {bundle bundle' : CheckpointWitnessBundle} {trusted : List (FixedBytes 32)}
  {quorum : Nat}

lemma verifyWitness_ok {c : LedgerCheckpoint} {before : List CheckpointWitnessSignature}
    {w : CheckpointWitnessSignature} :
    verifyWitness C c trusted (c.fingerprint C) before w = .ok () ↔
      Countersigns C c trusted w ∧ w.witnessPublicKey ∉ before.map (·.witnessPublicKey) := by
  unfold verifyWitness Countersigns
  rw [guard_bind_ok, guard_bind_ok, guard_bind_ok, bind_ok]
  simp only [failIf_ok, okOr_ok, not_not, Bool.not_eq_false, UInt64.not_lt,
    SignatureScheme.verifyBytes, Option.any_eq_true]
  tauto

lemma verifyCheckpointWitnessQuorum_ok :
    verifyCheckpointWitnessQuorum C bundle trusted quorum = .ok () ↔
      bundle.WellSigned C trusted ∧ 0 < quorum ∧ quorum ≤ bundle.witnesses.length := by
  unfold verifyCheckpointWitnessQuorum
  rw [guard_bind_ok, guard_bind_ok, guard_bind_ok, guard_bind_ok, bind_ok]
  simp only [guard_bind_ok, failIf_ok, mapError_ok, verifyCheckpoint_ok,
    checkpointFingerprint_ok, ne_eq, not_not, not_lt]
  constructor
  · rintro ⟨hschema, hquo, hfew, hsig, d, ⟨-, rfl⟩, heach, hverify⟩
    obtain ⟨heach, hdis⟩ := (checkEach_distinct_ok (·.witnessPublicKey) _
      (fun _ _ => verifyWitness_ok)).mp heach
    rw [hdis.dedup, List.length_map] at hverify
    exact ⟨⟨hschema, hfew, hsig, fun w hw => (heach w hw).1, hdis⟩, Nat.pos_of_ne_zero hquo, hverify⟩
  · rintro ⟨h, hquo, hle⟩
    refine ⟨h.schema, hquo.ne', h.few, h.signed, _, ⟨h.signed, rfl⟩, ?_, ?_⟩
    · refine (checkEach_distinct_ok (·.witnessPublicKey) _
        (fun _ _ => verifyWitness_ok)).mpr ⟨fun w hw => ⟨h.each w hw, ?_⟩, h.distinct⟩
      exact List.not_mem_nil
    · rwa [h.distinct.dedup, List.length_map]

/-! ## Countersigning -/

lemma signWith_wellSigned (hcorrect : C.ed25519.Correct) {key : C.ed25519.SigningKey}
    {t : UInt64} (h : bundle.WellSigned C trusted)
    (hkey : (C.ed25519.verifyingKey key).val ∈ trusted)
    (hsign : bundle.signWith C key t = .ok bundle') :
    bundle'.WellSigned C trusted ∧ bundle'.witnesses.length = bundle.witnesses.length + 1 := by
  unfold CheckpointWitnessBundle.signWith at hsign
  rw [guard_bind_ok, guard_bind_ok, guard_bind_ok, bind_ok] at hsign
  simp only [failIf_ok, mapError_ok, checkpointFingerprint_ok, pure_ok, not_le,
    UInt64.not_lt] at hsign
  obtain ⟨htime, hfew, hnew, _, ⟨-, rfl⟩, rfl⟩ := hsign
  refine ⟨⟨h.schema, ?_, h.signed, ?_, ?_⟩, List.length_append⟩
  · rw [List.length_append]
    exact hfew
  · intro w hw
    rcases List.mem_append.mp hw with hold | hw
    · exact h.each w hold
    · obtain rfl := List.mem_singleton.mp hw
      exact ⟨htime, hkey, SignatureScheme.verifyBytes_val.trans (hcorrect _ _)⟩
  · rw [List.map_append, List.nodup_append]
    refine ⟨h.distinct, List.nodup_singleton _, ?_⟩
    intro a ha b hb hab
    rw [hab, List.mem_singleton.mp hb] at ha
    exact hnew ha

lemma signAll_wellSigned (hcorrect : C.ed25519.Correct)
    (calls : List (C.ed25519.SigningKey × UInt64)) (h : bundle.WellSigned C trusted)
    (hkeys : ∀ call ∈ (bundle.signAll C calls).2, (C.ed25519.verifyingKey call.1).val ∈ trusted) :
    (bundle.signAll C calls).1.WellSigned C trusted ∧ (bundle.signAll C calls).1.witnesses.length =
        bundle.witnesses.length + (bundle.signAll C calls).2.length := by
  induction calls generalizing bundle with
  | nil => exact ⟨h, rfl⟩
  | cons call calls ih =>
    unfold CheckpointWitnessBundle.signAll at hkeys ⊢
    cases hsign : bundle.signWith C call.1 call.2 with
    | error e =>
      simp only [hsign] at hkeys ⊢
      exact ih h hkeys
    | ok signed =>
      simp only [hsign, List.forall_mem_cons, List.length_cons] at hkeys ⊢
      obtain ⟨hsig, hlen⟩ := signWith_wellSigned hcorrect h hkeys.1 hsign
      obtain ⟨hend, hcount⟩ := ih hsig hkeys.2
      exact ⟨hend, by omega⟩

lemma checkpointWitnessMessage_inj {d d' k k' : FixedBytes 32} {t t' : UInt64}
    (h : checkpointWitnessMessage d k t = checkpointWitnessMessage d' k' t') :
    d = d' ∧ k = k' ∧ t = t' := by
  simp only [checkpointWitnessMessage, List.append_assoc] at h
  simp only [List.append_cancel_left_eq] at h
  simp only [fixedBytes_append_inj] at h
  obtain ⟨hd, hk, h⟩ := h
  exact ⟨hd, hk, prefixCodeOn_u64Be.injOn trivial trivial h⟩

/-- **Witness quorums.** Under unforgeable signatures, a bundle is accepted only if at least the
quorum of distinct trusted keys signed the fingerprint of its checkpoint, at times not before it,
and no signed message is also one for another verified checkpoint unless the two collide. Whatever
calls of `sign_with` fail, the bundle is accepted for every quorum up to the number of those by
trusted keys that succeed. -/
theorem witness_quorum (C : Crypto) (trusted : List (FixedBytes 32)) (quorum : Nat) :
    (∀ (signed : FixedBytes 32 → Set Bytes) (bundle : CheckpointWitnessBundle),
      C.ed25519.Unforgeable signed →
      verifyCheckpointWitnessQuorum C bundle trusted quorum = .ok () →
      ∃ keys : List (FixedBytes 32), keys.Nodup ∧ quorum ≤ keys.length ∧
        ∀ k ∈ keys, k ∈ trusted ∧ ∃ t, bundle.checkpoint.timestampUnixSecs ≤ t ∧
          checkpointWitnessMessage (bundle.checkpoint.fingerprint C) k t ∈ signed k ∧
          ∀ (d : LedgerCheckpoint) (t' : UInt64), (∃ pk, SignedBy C pk d) →
            Set.InjOn C.blake3 {bundle.checkpoint.fingerprintInput, d.fingerprintInput} →
            checkpointWitnessMessage (d.fingerprint C) k t' =
              checkpointWitnessMessage (bundle.checkpoint.fingerprint C) k t →
            d = bundle.checkpoint ∧ t' = t) ∧
    (∀ (checkpoint : LedgerCheckpoint) (bundle : CheckpointWitnessBundle)
      (calls : List (C.ed25519.SigningKey × UInt64)),
      C.ed25519.Correct → CheckpointWitnessBundle.new C checkpoint = .ok bundle →
      (∀ call ∈ (bundle.signAll C calls).2, (C.ed25519.verifyingKey call.1).val ∈ trusted) →
      0 < quorum → quorum ≤ (bundle.signAll C calls).2.length →
      verifyCheckpointWitnessQuorum C (bundle.signAll C calls).1 trusted quorum = .ok ()) := by
  constructor
  · intro signed bundle hunforgeable haccepted
    obtain ⟨h, -, hquorum⟩ := verifyCheckpointWitnessQuorum_ok.mp haccepted
    refine ⟨bundle.witnesses.map (·.witnessPublicKey), h.distinct, ?_, ?_⟩
    · rwa [List.length_map]
    · intro k hk
      obtain ⟨w, hw, rfl⟩ := List.mem_map.mp hk
      obtain ⟨htime, htrusted, hverify⟩ := h.each w hw
      refine ⟨htrusted, w.timestampUnixSecs, htime, hunforgeable.of_verifyBytes hverify, ?_⟩
      intro d t' hd hinj hsame
      obtain ⟨hfingerprint, -, ht⟩ := checkpointWitnessMessage_inj hsame
      obtain ⟨pk, hpk⟩ := h.signed
      obtain ⟨pk', hpk'⟩ := hd
      exact ⟨LedgerCheckpoint.eq_of_fingerprintInput hpk' hpk
        (hinj (Set.mem_insert_of_mem _ rfl) (Set.mem_insert _ _) hfingerprint), ht⟩
  · intro checkpoint bundle calls hcorrect hnew hkeys hpos hquorum
    rw [CheckpointWitnessBundle.new, guard_bind_ok, mapError_ok, verifyCheckpoint_ok,
      pure_ok] at hnew
    obtain ⟨hsigned, rfl⟩ := hnew
    have hstart : CheckpointWitnessBundle.WellSigned C
        ⟨checkpointWitnessBundleSchema, checkpoint, []⟩ trusted :=
      ⟨rfl, Nat.zero_le _, hsigned, fun _ hw => absurd hw List.not_mem_nil, List.nodup_nil⟩
    obtain ⟨hend, hlength⟩ := signAll_wellSigned hcorrect calls hstart hkeys
    rw [List.length_nil, Nat.zero_add] at hlength
    exact verifyCheckpointWitnessQuorum_ok.mpr ⟨hend, hpos, hlength ▸ hquorum⟩

/-- Two witnesses sign the checkpoint of the sample chain, the first of them a second time, which
fails: a quorum of two accepts the bundle, so two keys signed its fingerprint. -/
theorem witness_quorum_sample :
    let trusted := [(sampleKey 1).val, (sampleKey 2).val]
    let signed : FixedBytes 32 → Set Bytes := fun k =>
      {m | ∃ sig, sampleCrypto.ed25519.verifyBytes k m sig = true}
    ∃ bundle, verifyCheckpointWitnessQuorum sampleCrypto bundle trusted 2 = .ok () ∧
      ∃ keys : List (FixedBytes 32), keys.Nodup ∧ 2 ≤ keys.length ∧ ∀ k ∈ keys, ∃ t,
        checkpointWitnessMessage (bundle.checkpoint.fingerprint sampleCrypto) k t ∈ signed k := by
  intro trusted signed
  let calls : List (sampleCrypto.ed25519.SigningKey × UInt64) :=
    [((sampleKey 1).val, 30), ((sampleKey 1).val, 40), ((sampleKey 2).val, 40)]
  let checkpoint := sampleCheckpoint (sampleKey 7) (sampleChain (sampleKey 7)) 20
  let bundle : CheckpointWitnessBundle := ⟨checkpointWitnessBundleSchema, checkpoint, []⟩
  obtain ⟨hkeys, haccepts⟩ := witness_quorum sampleCrypto trusted 2
  have haccepted : verifyCheckpointWitnessQuorum sampleCrypto (bundle.signAll sampleCrypto calls).1
      trusted 2 = .ok () :=
    haccepts checkpoint bundle calls (keyedScheme_correct _) (by decide +kernel) (by decide +kernel)
      (by decide) (by decide +kernel)
  have hunforgeable : sampleCrypto.ed25519.Unforgeable signed := fun pk m sig hverify =>
    ⟨sig, SignatureScheme.verifyBytes_val.trans hverify⟩
  obtain ⟨keys, hdistinct, hquorum, hsigned⟩ := hkeys signed _ hunforgeable haccepted
  refine ⟨_, haccepted, keys, hdistinct, hquorum, fun k hk => ?_⟩
  obtain ⟨-, t, -, ht, -⟩ := hsigned k hk
  exact ⟨t, ht⟩

end XeniaPeer.Ledger
