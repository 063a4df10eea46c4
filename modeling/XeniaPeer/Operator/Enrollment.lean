import XeniaPeer.Foundation.Tables
import XeniaPeer.Operator.Auth

/-!
# The enrolled operators and their keys

How the operator policy of the daemon comes into being and changes (`operator.rs`): it is made from
a list of operators, which `from_json` decodes from the policy file, and `replace_operator_key`
exchanges the keys of one operator id.

Main result: `policy_unambiguous_iff`.
-/

namespace XeniaPeer.Operator

open Foundation

/-! ## The policy file -/

def mlDsa65PkLen : Nat := 1952

def mlDsa87PkLen : Nat := 2592

structure OperatorRecord where
  (operatorId ed25519Pubkey mlDsaPubkey : String)
  mlDsa87Pubkey : Option String
  role : OperatorRole

/-- The text functions of the libraries: reading a policy file from JSON, and decoding hex around
which white space is cut off. -/
structure EnrollmentText where
  fromSlice : Bytes → Except String (List OperatorRecord)
  decodeHex : String → Option Bytes

def decodeFixedHex (text : EnrollmentText) (n : Nat) (s : String) : Option (FixedBytes n) :=
  (text.decodeHex s).bind (FixedBytes.ofBytes? n)

def decodeKey (text : EnrollmentText) (operatorId : String) (len : Nat) (s : String) :
    Except OperatorPolicyError Bytes :=
  okOr ((text.decodeHex s).filter (fun b => b.length = len)) (.badKey operatorId)

def OperatorRecord.decode (text : EnrollmentText) (rec : OperatorRecord) :
    Except OperatorPolicyError EnrolledOperator := do
  let ed ← okOr (decodeFixedHex text 32 rec.ed25519Pubkey) (.badKey rec.operatorId)
  let ml ← decodeKey text rec.operatorId mlDsa65PkLen rec.mlDsaPubkey
  let ml87 ← rec.mlDsa87Pubkey.mapM (decodeKey text rec.operatorId mlDsa87PkLen)
  pure ⟨rec.operatorId, ed, ml, ml87, rec.role⟩

namespace OperatorPolicy

def fromJson (text : EnrollmentText) (bytes : Bytes) :
    Except OperatorPolicyError OperatorPolicy := do
  let records ← (text.fromSlice bytes).mapError .parse
  let operators ← records.mapM (OperatorRecord.decode text)
  fromOperators operators

/-! ## Replacing a key -/

structure KeyReplacement where
  operatorId : String
  newEd25519Pubkey : FixedBytes 32
  newMlDsaPubkey : Bytes
  newMlDsa87Pubkey : Option Bytes

def KeyReplacement.operator (r : KeyReplacement) (role : OperatorRole) : EnrolledOperator :=
  ⟨r.operatorId, r.newEd25519Pubkey, r.newMlDsaPubkey, r.newMlDsa87Pubkey, role⟩

section

variable (policy : OperatorPolicy)

def get (key : FixedBytes 32) : Option EnrolledOperator :=
  findKey EnrolledOperator.ed25519Pubkey key policy.operators

def remove (key : FixedBytes 32) : OperatorPolicy where
  operators := dropKey EnrolledOperator.ed25519Pubkey key policy.operators
  poisoned := policy.poisoned
  distinctKeys := nodup_dropKey policy.distinctKeys

def insert (op : EnrolledOperator) : OperatorPolicy where
  operators := putKey EnrolledOperator.ed25519Pubkey op policy.operators
  poisoned := policy.poisoned
  distinctKeys := nodup_putKey policy.distinctKeys

def replaceOperatorKey (r : KeyReplacement) : Except OperatorPolicyError OperatorPolicy := do
  failIf policy.poisoned (.io "operator policy lock poisoned")
  let found ← okOr (findKey EnrolledOperator.operatorId r.operatorId policy.operators)
    (.unknownOperator r.operatorId)
  let oldKey := found.ed25519Pubkey
  failIf ((policy.get r.newEd25519Pubkey).any (fun existing => existing.operatorId ≠ r.operatorId))
    (.duplicateKey r.operatorId)
  let oldOperator ← okOr (policy.get oldKey)
    (.io "operator disappeared while the policy write lock was held")
  pure ((policy.remove oldKey).insert (r.operator oldOperator.role))

end

/-! ## Histories of a policy -/

/-- The two ways in which a policy comes from a list of operators. -/
inductive Accepted (text : EnrollmentText) (operators : List EnrolledOperator)
    (policy : OperatorPolicy) : Prop
  | fromOperators (h : OperatorPolicy.fromOperators operators = .ok policy)
  | fromJson (bytes : Bytes) (records : List OperatorRecord)
      (hrecords : text.fromSlice bytes = .ok records)
      (hoperators : records.mapM (OperatorRecord.decode text) = .ok operators)
      (h : OperatorPolicy.fromJson text bytes = .ok policy)

def SameMap (p q : OperatorPolicy) : Prop :=
  p.operators.Perm q.operators ∧ p.poisoned = q.poisoned

/-- The policies that a history of replacements leads to. A replacement that is refused changes
nothing. A thread that panics with the lock in its hands poisons it. -/
inductive Reachable (start : OperatorPolicy) : OperatorPolicy → Prop
  | start {p : OperatorPolicy} (h : p.SameMap start) : Reachable start p
  | replaced {p q next : OperatorPolicy} (r : KeyReplacement) (before : Reachable start p)
      (h : p.replaceOperatorKey r = .ok next) (hq : q.SameMap next) : Reachable start q
  | poisoned {p : OperatorPolicy} (before : Reachable start p) :
      Reachable start { p with poisoned := true }

/-- An operator is the same by id and by key, in every lookup. -/
structure Unambiguous (p : OperatorPolicy) : Prop where
  ofId : ∀ a ∈ p.operators, ∀ b ∈ p.operators, a.operatorId = b.operatorId → a = b
  ofKey : ∀ a ∈ p.operators, ∀ b ∈ p.operators, a.ed25519Pubkey = b.ed25519Pubkey → a = b
  verified : ∀ ed ml op, p.lookupVerified ed ml = some op → p.lookupById op.operatorId = some op
  verifiedHighsec : ∀ ed ml op, p.lookupVerifiedHighsec ed ml = some op →
    p.lookupById op.operatorId = some op
  byId : ∀ id op, p.lookupById id = some op →
    p.lookupVerified op.ed25519Pubkey op.mlDsaPubkey = some op

/-- A replacement leaves no other key under the id. -/
def ReplacesKeys (p : OperatorPolicy) : Prop :=
  ∀ r next, p.replaceOperatorKey r = .ok next →
    ∀ op ∈ next.operators, op.operatorId = r.operatorId → op = r.operator op.role

variable {p q next start : OperatorPolicy} {r : KeyReplacement} {text : EnrollmentText}
  {operators : List EnrolledOperator} {key : FixedBytes 32} {op : EnrolledOperator}

lemma get_eq_some : p.get key = some op ↔ op ∈ p.operators ∧ op.ed25519Pubkey = key :=
  findKey_eq_some p.distinctKeys

lemma lookup_eq_some : p.lookup key = some op ↔
      p.poisoned = false ∧ op ∈ p.operators ∧ op.ed25519Pubkey = key := by
  unfold lookup readMap
  cases p.poisoned with
  | true => simp
  | false => simpa [findKey] using findKey_eq_some p.distinctKeys

lemma lookupById_eq_some (hids : (p.operators.map EnrolledOperator.operatorId).Nodup)
    {id : String} : p.lookupById id = some op ↔
      p.poisoned = false ∧ op ∈ p.operators ∧ op.operatorId = id := by
  unfold lookupById readMap
  cases p.poisoned with
  | true => simp
  | false => simpa [findKey] using findKey_eq_some hids

lemma replaceOperatorKey_ok : p.replaceOperatorKey r = .ok next ↔ p.poisoned = false ∧
      (∀ op ∈ p.operators, op.ed25519Pubkey = r.newEd25519Pubkey → op.operatorId = r.operatorId) ∧
      ∃ old, findKey EnrolledOperator.operatorId r.operatorId p.operators = some old ∧
        next = (p.remove old.ed25519Pubkey).insert (r.operator old.role) := by
  unfold replaceOperatorKey
  rw [guard_bind_ok]
  simp only [bind_ok, guard_bind_ok (x := failIf _ _), failIf_ok, okOr_ok, pure_ok,
    Bool.not_eq_true]
  have hfree : (p.get r.newEd25519Pubkey).any
        (fun existing => existing.operatorId ≠ r.operatorId) = false ↔
      ∀ op ∈ p.operators, op.ed25519Pubkey = r.newEd25519Pubkey → op.operatorId = r.operatorId := by
    simp only [Option.any_eq_false, get_eq_some, decide_eq_false_iff_not, not_not, and_imp]
  rw [hfree]
  constructor
  · rintro ⟨hlock, old, hold, hnew, op, hop, rfl⟩
    -- the entry of the old key is the operator that was found
    have hmem := (of_findKey hold).1
    rw [get_eq_some.mpr ⟨hmem, rfl⟩] at hop
    cases hop
    exact ⟨hlock, hnew, old, hold, rfl⟩
  · rintro ⟨hlock, hnew, old, hold, rfl⟩
    have hmem := (of_findKey hold).1
    exact ⟨hlock, old, hold, hnew, old, get_eq_some.mpr ⟨hmem, rfl⟩, rfl⟩

lemma mem_insert_remove {old new : EnrolledOperator} :
    op ∈ ((p.remove old.ed25519Pubkey).insert new).operators ↔
      op = new ∨ op ∈ p.operators ∧ op.ed25519Pubkey ≠ old.ed25519Pubkey ∧
        op.ed25519Pubkey ≠ new.ed25519Pubkey := by
  simp only [insert, remove, mem_putKey, mem_dropKey, and_assoc]

lemma Accepted.operators_eq (h : Accepted text operators p) :
    p.operators = operators.reverse ∧ p.poisoned = false := by
  cases h with
  | fromOperators h => exact fromOperators_ok.mp h
  | fromJson bytes records hrecords hoperators h =>
    simp only [OperatorPolicy.fromJson, bind_ok, mapError_ok] at h
    obtain ⟨records', hrecords', operators', hoperators', h⟩ := h
    obtain rfl : records = records' := Except.ok.inj (hrecords.symm.trans hrecords')
    obtain rfl : operators = operators' := Except.ok.inj (hoperators.symm.trans hoperators')
    exact fromOperators_ok.mp h

/-! ## Different ids stay different -/

def DistinctIds (p : OperatorPolicy) : Prop := (p.operators.map EnrolledOperator.operatorId).Nodup

lemma SameMap.distinctIds (h : p.SameMap q) : p.DistinctIds ↔ q.DistinctIds :=
  (h.1.map EnrolledOperator.operatorId).nodup_iff

lemma DistinctIds.replace (hp : p.DistinctIds) (h : p.replaceOperatorKey r = .ok next) :
    next.DistinctIds ∧
      ∀ op ∈ next.operators, op.operatorId = r.operatorId → op = r.operator op.role := by
  obtain ⟨-, -, old, hold, rfl⟩ := replaceOperatorKey_ok.mp h
  obtain ⟨holm, holdI⟩ := of_findKey hold
  -- whoever is left has another id than the one that was replaced
  have hother : ∀ op ∈ p.operators, op.ed25519Pubkey ≠ old.ed25519Pubkey →
      op.operatorId ≠ r.operatorId := by
    intro op hop hkey hid
    have hsame : op = old := List.inj_on_of_nodup_map hp hop holm (hid.trans holdI.symm)
    exact hkey (by rw [hsame])
  refine ⟨List.nodup_cons.mpr ⟨?_, ?_⟩, ?_⟩
  · intro hmem
    obtain ⟨op, hop, hid⟩ := List.mem_map.mp hmem
    simp only [remove, mem_dropKey] at hop
    exact hother op hop.1.1 hop.1.2 hid
  · exact hp.sublist ((dropKey_sublist.trans dropKey_sublist).map _)
  · intro op hop hid
    rcases mem_insert_remove.mp hop with rfl | ⟨hmem, hkey, -⟩
    · rfl
    · exact absurd hid (hother op hmem hkey)

lemma Reachable.distinctIds (h : Reachable start p) (hstart : start.DistinctIds) :
    p.DistinctIds := by
  induction h with
  | start h => exact h.distinctIds.mpr hstart
  | replaced r _ h hq ih => exact hq.distinctIds.mpr (ih.replace h).1
  | poisoned _ ih => exact ih

lemma DistinctIds.unambiguous (hp : p.DistinctIds) : p.Unambiguous where
  ofId := fun _ ha _ hb h => List.inj_on_of_nodup_map hp ha hb h
  ofKey := fun _ ha _ hb h => List.inj_on_of_nodup_map p.distinctKeys ha hb h
  verified := by
    intro ed ml op h
    obtain ⟨hop, -⟩ := Option.filter_eq_some_iff.mp h
    obtain ⟨hlock, hmem, -⟩ := lookup_eq_some.mp hop
    exact (lookupById_eq_some hp).mpr ⟨hlock, hmem, rfl⟩
  verifiedHighsec := by
    intro ed ml op h
    obtain ⟨hop, -⟩ := Option.filter_eq_some_iff.mp h
    obtain ⟨hlock, hmem, -⟩ := lookup_eq_some.mp hop
    exact (lookupById_eq_some hp).mpr ⟨hlock, hmem, rfl⟩
  byId := by
    intro id op h
    obtain ⟨hlock, hmem, -⟩ := (lookupById_eq_some hp).mp h
    exact Option.filter_eq_some_iff.mpr ⟨lookup_eq_some.mpr ⟨hlock, hmem, rfl⟩, by simp⟩

/-- **The ids must differ when the operators are enrolled.** A list of operators that is accepted
has different ids exactly if in every policy that replacements lead to each id and each key has
one operator, both lookups agree on it, and a replacement leaves no other key under its id. -/
theorem policy_unambiguous_iff (h : Accepted text operators start) :
    (operators.map EnrolledOperator.operatorId).Nodup ↔
      ∀ p, Reachable start p → p.Unambiguous ∧ p.ReplacesKeys := by
  have hstart : start.DistinctIds ↔ (operators.map EnrolledOperator.operatorId).Nodup := by
    rw [DistinctIds, h.operators_eq.1, List.map_reverse, List.nodup_reverse]
  rw [← hstart]
  constructor
  · intro hids p hp
    have hpids := hp.distinctIds hids
    exact ⟨hpids.unambiguous, fun r next hreplace => (hpids.replace hreplace).2⟩
  · intro hall
    -- two operators with one id would be one operator, and its key would be there twice
    have hids := (hall start (.start ⟨List.Perm.refl _, rfl⟩)).1.ofId
    exact (List.Nodup.of_map _ start.distinctKeys).map_on hids

def blankText : EnrollmentText where
  fromSlice _ := .error "EOF while parsing a value at line 1 column 0"
  decodeHex _ := none

/-- Ana's key is replaced; with the new one, and with Bob's, both lookups agree. -/
theorem policy_unambiguous_ana :
    let ana := sampleOperator "ana" 1 .admin
    let bob := sampleOperator "bob" 2 .viewer
    let r : KeyReplacement := ⟨"ana", .replicate 32 3, List.replicate 1952 3, none⟩
    ∃ start next, fromOperators [ana, bob] = .ok start ∧ start.replaceOperatorKey r = .ok next ∧
      next.operators = [sampleOperator "ana" 3 .admin, bob] ∧
      next.Unambiguous ∧ next.ReplacesKeys := by
  intro ana bob r
  let start : OperatorPolicy := ⟨[bob, ana], false, by decide +kernel⟩
  let next : OperatorPolicy := ⟨[sampleOperator "ana" 3 .admin, bob], false, by decide +kernel⟩
  have hstart : fromOperators [ana, bob] = .ok start := rfl
  have hnext : start.replaceOperatorKey r = .ok next :=
    replaceOperatorKey_ok.mpr ⟨rfl, by decide +kernel, ana, by decide +kernel,
      OperatorPolicy.ext (by decide +kernel) rfl⟩
  have hreach : Reachable start next :=
    .replaced r (.start ⟨List.Perm.refl _, rfl⟩) hnext ⟨List.Perm.refl _, rfl⟩
  have haccepted : Accepted blankText [ana, bob] start := .fromOperators hstart
  have h := (policy_unambiguous_iff haccepted).mp (by decide +kernel) next hreach
  exact ⟨start, next, hstart, hnext, rfl, h.1, h.2⟩

/-- Two keys are enrolled under one id. The signer with the first key is found by its keys, the
id stands for the other; and after the key of the id is replaced, the first one still acts. -/
theorem duplicate_id_accepted :
    let old := sampleOperator "ana" 1 .admin
    let new := sampleOperator "ana" 2 .viewer
    let r : KeyReplacement := ⟨"ana", .replicate 32 3, List.replicate 1952 3, none⟩
    ∃ start next, fromOperators [old, new] = .ok start ∧
      start.lookupVerified old.ed25519Pubkey old.mlDsaPubkey = some old ∧
      start.lookupById "ana" = some new ∧ old ≠ new ∧
      start.replaceOperatorKey r = .ok next ∧
      next.lookupVerified old.ed25519Pubkey old.mlDsaPubkey = some old ∧
      next.lookupById "ana" = some (sampleOperator "ana" 3 .viewer) ∧
      ¬ start.Unambiguous ∧ ¬ start.ReplacesKeys := by
  intro old new r
  let start : OperatorPolicy := ⟨[new, old], false, by decide +kernel⟩
  let next : OperatorPolicy := ⟨[sampleOperator "ana" 3 .viewer, old], false, by decide +kernel⟩
  have hnext : start.replaceOperatorKey r = .ok next :=
    replaceOperatorKey_ok.mpr ⟨rfl, by decide +kernel, new, by decide +kernel,
      OperatorPolicy.ext (by decide +kernel) rfl⟩
  have hne : old ≠ new := by decide +kernel
  refine ⟨start, next, rfl, by decide +kernel, by decide +kernel, hne, hnext,
    by decide +kernel, by decide +kernel, ?_, ?_⟩
  · intro h
    exact hne (h.ofId old (by simp [start]) new (by simp [start]) rfl)
  · intro h
    have hsame := congrArg EnrolledOperator.ed25519Pubkey
      (h r next hnext old (by simp [next]) rfl)
    exact absurd hsame (by decide +kernel)

end OperatorPolicy

end XeniaPeer.Operator
