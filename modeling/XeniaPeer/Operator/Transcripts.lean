import XeniaPeer.Foundation.Codes

/-!
# Operator roles and signed transcripts

The vocabulary of `xenia-operator-proto`: roles and what they permit, the consent decisions, and the
seven byte layouts that operators and the daemon sign. Every layout starts with a domain tag of its
own.
-/

namespace XeniaPeer.Operator

open Foundation

/-! ## Roles and actions -/

inductive OperatorRole where
  | viewer
  | approver
  | operator
  | admin
deriving DecidableEq

inductive OperatorAction where
  | viewInventory
  | readAudit
  | approveConsent
  | denyConsent
  | revokeConsent
  | initiateSession
  | changePolicy
  | enrollOperator
  | rotateKeys

def OperatorAction.minRole : OperatorAction → OperatorRole
  | .viewInventory => .viewer
  | .readAudit => .viewer
  | .approveConsent => .approver
  | .denyConsent => .approver
  | .revokeConsent => .approver
  | .initiateSession => .operator
  | .changePolicy => .admin
  | .enrollOperator => .admin
  | .rotateKeys => .admin

namespace OperatorRole

def rank : OperatorRole → Nat
  | .viewer => 0
  | .approver => 1
  | .operator => 2
  | .admin => 3

def permits (role : OperatorRole) (action : OperatorAction) : Bool :=
  decide (action.minRole.rank ≤ role.rank)

def tag : OperatorRole → UInt8
  | .viewer => 0
  | .approver => 1
  | .operator => 2
  | .admin => 3

lemma tag_injective : Function.Injective tag := by
  intro a b h
  cases a <;> cases b <;> first | rfl | cases h

end OperatorRole

inductive ConsentAction where
  | approve
  | deny
  | revoke
deriving DecidableEq

namespace ConsentAction

def tag : ConsentAction → UInt8
  | .approve => 1
  | .deny => 2
  | .revoke => 3

def requiredPermission : ConsentAction → OperatorAction
  | .approve => .approveConsent
  | .deny => .denyConsent
  | .revoke => .revokeConsent

def fromWire (s : String) : Option ConsentAction :=
  if s = "Approve" then some .approve
  else if s = "Deny" then some .deny
  else if s = "Revoke" then some .revoke
  else none

lemma tag_injective : Function.Injective tag := by
  intro a b h
  cases a <;> cases b <;> first | rfl | cases h

end ConsentAction

/-! ## The transcripts -/

def challengeDomain : Bytes := utf8 "xenia-operator-auth-challenge-v1"

def consentActionDomain : Bytes := utf8 "xenia-operator-consent-action-v2"

def revokeOperatorDomain : Bytes := utf8 "xenia-operator-revoke-operator-v1"

def replaceOperatorKeyDomain : Bytes := utf8 "xenia-operator-replace-key-v1"

def daemonDelegationDomain : Bytes := utf8 "xenia-daemon-identity-delegation-v1"

def challengeHostAttestationDomain : Bytes := utf8 "xenia-challenge-host-attestation-v1"

def operatorTokenDomain : Bytes := utf8 "xenia-operator-token-v1"

def challengeTranscript (nonce edPubkey : FixedBytes 32) (mlDsaPubkey : Bytes) : Bytes :=
  challengeDomain ++ (nonce.toList ++ (edPubkey.toList ++ mlDsaPubkey))

def consentActionTranscript (action : ConsentAction) (sessionId tokenNonce : FixedBytes 16)
    (scopeDigest : FixedBytes 32) : Bytes :=
  consentActionDomain ++ (action.tag :: (sessionId.toList ++ (tokenNonce.toList ++
    scopeDigest.toList)))

def lengthPrefixed (field : Bytes) : Bytes := beBytes 4 field.length ++ field

def revokeOperatorTranscript (targetOperatorId : String) (tokenNonce : FixedBytes 16) : Bytes :=
  revokeOperatorDomain ++ (lengthPrefixed (utf8 targetOperatorId) ++ tokenNonce.toList)

def optionalKey : Option Bytes → Bytes
  | some key => 1 :: lengthPrefixed key
  | none => [0]

def replaceOperatorKeyTranscript (targetOperatorId : String)
    (newEd25519Pubkey newMlDsaPubkey : Bytes) (newMlDsa87Pubkey : Option Bytes)
    (tokenNonce : FixedBytes 16) : Bytes :=
  replaceOperatorKeyDomain ++ (lengthPrefixed (utf8 targetOperatorId) ++
    (lengthPrefixed newEd25519Pubkey ++ (lengthPrefixed newMlDsaPubkey ++
      (optionalKey newMlDsa87Pubkey ++ tokenNonce.toList))))

def daemonDelegationTranscript (httpAuthEd25519Pubkey : FixedBytes 32)
    (httpAuthMlDsaPubkey : Bytes) : Bytes :=
  daemonDelegationDomain ++ (httpAuthEd25519Pubkey.toList ++ httpAuthMlDsaPubkey)

def challengeHostAttestationTranscript (nonce : FixedBytes 32) : Bytes :=
  challengeHostAttestationDomain ++ nonce.toList

def operatorTokenCanonicalBytes (operatorId : String) (role : OperatorRole)
    (issuedAt expiresAt : UInt64) (tokenNonce : FixedBytes 16) : Bytes :=
  operatorTokenDomain ++ (leBytes 8 (utf8 operatorId).length ++ (utf8 operatorId ++
    (role.tag :: (u64Le issuedAt ++ (u64Le expiresAt ++ tokenNonce.toList)))))

def scopePreimage (scope : String) : Bytes :=
  utf8 "xenia-operator-consent-scope-v1" ++ utf8 scope

def scopeDigest (blake3 : Bytes → FixedBytes 32) (scope : String) : FixedBytes 32 :=
  blake3 (scopePreimage scope)

/-! ## All of them as one type -/

inductive TranscriptKind where
  | challenge
  | consentAction
  | revokeOperator
  | replaceOperatorKey
  | daemonDelegation
  | challengeHostAttestation
  | operatorToken
deriving DecidableEq

def TranscriptKind.domain : TranscriptKind → Bytes
  | .challenge => challengeDomain
  | .consentAction => consentActionDomain
  | .revokeOperator => revokeOperatorDomain
  | .replaceOperatorKey => replaceOperatorKeyDomain
  | .daemonDelegation => daemonDelegationDomain
  | .challengeHostAttestation => challengeHostAttestationDomain
  | .operatorToken => operatorTokenDomain

inductive Transcript where
  | challenge (nonce edPubkey : FixedBytes 32) (mlDsaPubkey : Bytes)
  | consentAction (action : ConsentAction) (sessionId tokenNonce : FixedBytes 16)
      (scopeDigest : FixedBytes 32)
  | revokeOperator (target : String) (tokenNonce : FixedBytes 16)
  | replaceOperatorKey (target : String) (newEd25519Pubkey newMlDsaPubkey : Bytes)
      (newMlDsa87Pubkey : Option Bytes) (tokenNonce : FixedBytes 16)
  | daemonDelegation (edPubkey : FixedBytes 32) (mlDsaPubkey : Bytes)
  | challengeHostAttestation (nonce : FixedBytes 32)
  | operatorToken (operatorId : String) (role : OperatorRole) (issuedAt expiresAt : UInt64)
      (tokenNonce : FixedBytes 16)

namespace Transcript

def kind : Transcript → TranscriptKind
  | .challenge .. => .challenge
  | .consentAction .. => .consentAction
  | .revokeOperator .. => .revokeOperator
  | .replaceOperatorKey .. => .replaceOperatorKey
  | .daemonDelegation .. => .daemonDelegation
  | .challengeHostAttestation .. => .challengeHostAttestation
  | .operatorToken .. => .operatorToken

def encode : Transcript → Bytes
  | .challenge nonce ed ml => challengeTranscript nonce ed ml
  | .consentAction action session nonce digest =>
    consentActionTranscript action session nonce digest
  | .revokeOperator target nonce => revokeOperatorTranscript target nonce
  | .replaceOperatorKey target ed ml ml87 nonce =>
    replaceOperatorKeyTranscript target ed ml ml87 nonce
  | .daemonDelegation ed ml => daemonDelegationTranscript ed ml
  | .challengeHostAttestation nonce => challengeHostAttestationTranscript nonce
  | .operatorToken id role issued expires nonce =>
    operatorTokenCanonicalBytes id role issued expires nonce

/-- The length of each field fits in 32 bits. -/
def FieldsShort : Transcript → Prop
  | .replaceOperatorKey target ed ml ml87 _ =>
    (utf8 target).length < 2 ^ 32 ∧ ed.length < 2 ^ 32 ∧ ml.length < 2 ^ 32 ∧
      ∀ key ∈ ml87, key.length < 2 ^ 32
  | _ => True

end Transcript

/-! ## The kinds are disjoint -/

lemma TranscriptKind.domain_not_extends {k k' : TranscriptKind} (h : k ≠ k') :
    ¬ k.domain <+: k'.domain := by
  cases k <;> cases k' <;> first | exact absurd rfl h | decide +kernel

lemma Transcript.domain_isPrefix (t : Transcript) : t.kind.domain <+: t.encode := by
  cases t <;> exact List.prefix_append _ _

lemma Transcript.kind_of_encode {t t' : Transcript} (h : t.encode = t'.encode) :
    t.kind = t'.kind := by
  by_contra hne
  obtain ⟨body, hbody⟩ := t.domain_isPrefix
  obtain ⟨body', hbody'⟩ := t'.domain_isPrefix
  refine append_ne_of_not_prefix (TranscriptKind.domain_not_extends hne)
    (TranscriptKind.domain_not_extends (Ne.symm hne)) body body' ?_
  rw [hbody, hbody', h]

/-! ## Each kind can be read back -/

lemma prefixCodeOn_lengthPrefixed :
    PrefixCodeOn {field : Bytes | field.length < 256 ^ 4} lengthPrefixed :=
  (prefixCodeOn_beBytes 4).lengthPrefixed

lemma prefixCodeOn_optionalKey :
    PrefixCodeOn {key : Option Bytes | ∀ k ∈ key, k.length < 256 ^ 4} optionalKey := by
  have hcode := prefixCodeOn_lengthPrefixed.option (1 : UInt8) 0 (by decide)
  intro key hkey key' hkey' s t h
  refine hcode key hkey key' hkey' s t ?_
  cases key <;> cases key' <;> exact h

variable {ed ed' : FixedBytes 32} {ml ml' : Bytes}

lemma challengeTranscript_inj {nonce nonce' : FixedBytes 32}
    (h : challengeTranscript nonce ed ml = challengeTranscript nonce' ed' ml') :
    nonce = nonce' ∧ ed = ed' ∧ ml = ml' := by
  have hbody := List.append_cancel_left h
  simp only [fixedBytes_append_inj] at hbody
  obtain ⟨hnon, hed, hml⟩ := hbody
  exact ⟨hnon, hed, hml⟩

variable {nonce nonce' : FixedBytes 16}

lemma consentActionTranscript_inj {action action' : ConsentAction}
    {session session' : FixedBytes 16} {digest digest' : FixedBytes 32}
    (h : consentActionTranscript action session nonce digest =
      consentActionTranscript action' session' nonce' digest') :
    action = action' ∧ session = session' ∧ nonce = nonce' ∧ digest = digest' := by
  have hbody := List.append_cancel_left h
  obtain ⟨htag, hbody⟩ := List.cons.inj hbody
  simp only [fixedBytes_append_inj] at hbody
  obtain ⟨hses, hnon, hdigest⟩ := hbody
  exact ⟨ConsentAction.tag_injective htag, hses, hnon, List.Vector.toList_injective hdigest⟩

lemma revokeOperatorTranscript_inj {target target' : String}
    (h : revokeOperatorTranscript target nonce = revokeOperatorTranscript target' nonce') :
    target = target' ∧ nonce = nonce' := by
  have hbody := List.append_cancel_left h
  unfold lengthPrefixed at hbody
  have hlen := congrArg List.length hbody
  simp only [List.length_append, beBytes_length, List.Vector.toList_length] at hlen
  rw [List.append_assoc, List.append_assoc] at hbody
  obtain ⟨-, hbody⟩ := List.append_inj hbody (by simp)
  obtain ⟨htgt, hnon⟩ := List.append_inj hbody (by omega)
  exact ⟨utf8_injective htgt, List.Vector.toList_injective hnon⟩

lemma operatorTokenCanonicalBytes_inj {id id' : String} {role role' : OperatorRole}
    {issued issued' expires expires' : UInt64}
    (h : operatorTokenCanonicalBytes id role issued expires nonce =
      operatorTokenCanonicalBytes id' role' issued' expires' nonce') :
    id = id' ∧ role = role' ∧ issued = issued' ∧ expires = expires' ∧ nonce = nonce' := by
  have hbody := List.append_cancel_left h
  have hlen := congrArg List.length hbody
  simp only [List.length_append, List.length_cons, leBytes_length, u64Le,
    List.Vector.toList_length] at hlen
  obtain ⟨-, hbody⟩ := List.append_inj hbody (by simp)
  obtain ⟨hid, hbody⟩ := List.append_inj hbody (by omega)
  obtain ⟨hrole, hbody⟩ := List.cons.inj hbody
  obtain ⟨hiss, hbody⟩ := prefixCodeOn_u64Le _ trivial _ trivial _ _ hbody
  obtain ⟨hexp, hnon⟩ := prefixCodeOn_u64Le _ trivial _ trivial _ _ hbody
  exact ⟨utf8_injective hid, OperatorRole.tag_injective hrole, hiss, hexp,
    List.Vector.toList_injective hnon⟩

lemma daemonDelegationTranscript_inj
    (h : daemonDelegationTranscript ed ml = daemonDelegationTranscript ed' ml') :
    ed = ed' ∧ ml = ml' :=
  prefixCodeOn_fixedBytes 32 _ trivial _ trivial _ _ (List.append_cancel_left h)

lemma challengeHostAttestationTranscript_inj {nonce nonce' : FixedBytes 32}
    (h : challengeHostAttestationTranscript nonce = challengeHostAttestationTranscript nonce') :
    nonce = nonce' := List.Vector.toList_injective (List.append_cancel_left h)

namespace Transcript

lemma replaceOperatorKey_inj {target target' : String} {ed ed' ml ml' : Bytes}
    {ml87 ml87' : Option Bytes} {nonce nonce' : FixedBytes 16}
    (hshort : (replaceOperatorKey target ed ml ml87 nonce).FieldsShort)
    (hshort' : (replaceOperatorKey target' ed' ml' ml87' nonce').FieldsShort)
    (h : replaceOperatorKeyTranscript target ed ml ml87 nonce =
      replaceOperatorKeyTranscript target' ed' ml' ml87' nonce') :
    target = target' ∧ ed = ed' ∧ ml = ml' ∧ ml87 = ml87' ∧ nonce = nonce' := by
  obtain ⟨ht, he, hm, hk⟩ := hshort
  obtain ⟨ht', he', hm', hk'⟩ := hshort'
  have hbody := List.append_cancel_left h
  obtain ⟨htgt, hbody⟩ := prefixCodeOn_lengthPrefixed _ ht _ ht' _ _ hbody
  obtain ⟨hed, hbody⟩ := prefixCodeOn_lengthPrefixed _ he _ he' _ _ hbody
  obtain ⟨hml, hbody⟩ := prefixCodeOn_lengthPrefixed _ hm _ hm' _ _ hbody
  obtain ⟨hml87, hnon⟩ := prefixCodeOn_optionalKey _ hk _ hk' _ _ hbody
  exact ⟨utf8_injective htgt, hed, hml, hml87, List.Vector.toList_injective hnon⟩

lemma encode_injOn : Set.InjOn encode {t | t.FieldsShort} := by
  intro t ht t' ht' h
  have hkind := kind_of_encode h
  cases t with
  | challenge nonce ed ml =>
    cases t' <;> cases hkind
    obtain ⟨rfl, rfl, rfl⟩ := challengeTranscript_inj h
    rfl
  | consentAction action session nonce digest =>
    cases t' <;> cases hkind
    obtain ⟨rfl, rfl, rfl, rfl⟩ := consentActionTranscript_inj h
    rfl
  | revokeOperator target nonce =>
    cases t' <;> cases hkind
    obtain ⟨rfl, rfl⟩ := revokeOperatorTranscript_inj h
    rfl
  | replaceOperatorKey target ed ml ml87 nonce =>
    cases t' <;> cases hkind
    obtain ⟨rfl, rfl, rfl, rfl, rfl⟩ := replaceOperatorKey_inj ht ht' h
    rfl
  | daemonDelegation ed ml =>
    cases t' <;> cases hkind
    obtain ⟨rfl, rfl⟩ := daemonDelegationTranscript_inj h
    rfl
  | challengeHostAttestation nonce =>
    cases t' <;> cases hkind
    obtain rfl := challengeHostAttestationTranscript_inj h
    rfl
  | operatorToken id role issued expires nonce =>
    cases t' <;> cases hkind
    obtain ⟨rfl, rfl, rfl, rfl, rfl⟩ := operatorTokenCanonicalBytes_inj h
    rfl

end Transcript

end XeniaPeer.Operator
