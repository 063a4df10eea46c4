import XeniaPeer.Consent.Purge.Packing
import XeniaPeer.Consent.Quarantine.Runs

/-!
# Interrupted purges and their recoveries

A purge over its whole life: executions and recoveries of one plan, one after the other, each
interrupted anywhere. As the state that a crash leaves is the state at that moment, what holds
behind every such list of calls holds at all times.

Main results: `purge_loses_nothing`, `recovery_settles_purge`.
-/

namespace XeniaPeer.Consent

open Foundation Foundation.FileSystem Ledger Purge

section Rules

variable [HexLibrary] {C : Crypto} {formats : PurgeFormats}

inductive PurgeCall where
  | execute (env : Environment FileSystem Call) (nowUnixSecs : UInt64) (uuid : UuidText)
  | recover (env : Environment FileSystem Call) (nowUnixSecs : UInt64)

def PurgeCall.env : PurgeCall → Environment FileSystem Call
  | execute env _ _ => env
  | recover env _ => env

namespace Ceremony

variable (K : Ceremony C) (formats : PurgeFormats)

def step (s : FileSystem) : PurgeCall → FileSystem
  | .execute env nowUnixSecs uuid => ((K.execute formats nowUnixSecs uuid).run env s).state
  | .recover env nowUnixSecs => ((K.recover formats nowUnixSecs).run env s).state

def run (calls : List PurgeCall) (s : FileSystem) : FileSystem := calls.foldl (K.step formats) s

def Packaged (cut : Prop) (start s : FileSystem) : Prop :=
  Authorized C K.plan K.approvals K.retirementPlan K.retirementApprovals K.quarantineReceipt
      K.trustedWitnessKeys K.minimumQuorum K.publicKey ∧
    Vetted C K.plan start ∧ ∃ package, Shaped C formats cut K.plan K.approvals
      K.publicKey start package s

def Live (cut : Prop) (start s : FileSystem) : Prop :=
  Whole K.plan start s ∨ K.Packaged formats cut start s

/-- Nobody interferes, and no copy is cut short. -/
def Careful (n : Nat) (e : Event FileSystem Call) : Prop :=
  Uninterfered n e ∧ ∀ k, e.verdict .write = .fail k ∨ e.verdict .write = .crash k →
    ∀ a ∈ K.plan.candidates, a.byteLength.toNat ≤ k

variable {K formats} {start s : FileSystem} {cut : Prop} {env : Environment FileSystem Call}
  {nowUnixSecs : UInt64} {uuid : UuidText}

lemma live_of_fresh (h : start.hasDir (directory K.plan) = false) :
    K.Live formats cut start start := .inl ⟨fun _ _ => .refl, h, fun _ _ hmem => hmem⟩

lemma Live.packaged (h : K.Live formats cut start s)
    (hdir : s.hasDir (directory K.plan) = true) : K.Packaged formats cut start s := by
  rcases h with h | h
  · exact absurd (hdir.symm.trans h.fresh) (by decide)
  · exact h

lemma execute_packaged (henv : Undisturbed env) (h : K.Packaged formats cut start s) :
    K.step formats s (.execute env nowUnixSecs uuid) = s := by
  obtain ⟨-, hV, package, h⟩ := h
  exact state_of_wp (ends_execute_again (U := ⟨K, formats, cut, start⟩) (fun _ _ he => he.1) (fun _
    _ k he => he.2 k) hV
    (Shaped.boxed (U := ⟨K, formats, cut, start⟩) h).toPacked) henv

lemma live_execute (henv : Undisturbed env) (h : K.Live formats cut start s) :
    K.Live formats cut start (K.step formats s (.execute env nowUnixSecs uuid)) := by
  rcases h with h | h
  · have hend : Whole K.plan start (K.step formats s (.execute env nowUnixSecs uuid)) ∨
        _ ∧ Left C formats cut K.plan K.approvals K.publicKey start
          (K.step formats s (.execute env nowUnixSecs uuid)) :=
      state_of_wp (ends_executeConsentPurge (U := ⟨K, formats, cut, start⟩) (fun _ _ he => he.1)
        (fun _ _ k he => he.2 k) h) henv
    rcases hend with hwho | ⟨haut, hwho | hsha⟩
    · exact .inl hwho
    · exact .inl hwho
    · exact .inr ⟨haut, hsha⟩
  · rw [execute_packaged henv h]
    exact .inr h

variable {R : Nat → Event FileSystem Call → Prop}

lemma recover_whole {n : Nat} (hR : ∀ n e, R n e → e.meddle = id) (h : Whole K.plan start s) :
    wp R (K.recover formats nowUnixSecs)
      ⟨fun _ _ _ => False, fun _ s' _ => s' = s, fun s' => s' = s⟩ s n := by
  have hnone : s.readFile? (rollbackPackagePath K.plan) = none := by
    by_contra hsome
    obtain ⟨bytes, hfile⟩ := Option.ne_none_iff_exists'.mp hsome
    obtain ⟨-, hnode⟩ := readFile?_eq_some.mp hfile
    have hpar := hasParent_of_node? hnode
    rw [pathOf_rollbackPackagePath] at hpar
    simp [hasParent, h.fresh] at hpar
  refine wp_check (fun _ _ => ?_) (fun _ _ => rfl)
  refine wp_check (fun _ _ => ?_) (fun _ _ => rfl)
  refine wp_check (fun _ _ => ?_) (fun _ _ => rfl)
  refine wp_bind (wp_look (hR n) ?_ (fun _ _ _ _ => rfl) (fun _ _ _ _ => rfl))
  intro e _ _
  rw [readBoundedJson, hnone]
  rfl

section

variable (hR : ∀ n e, R n e → Uninterfered n e)
  (hcuts : ∀ k, Cut R k → cut ∨ ∀ a ∈ K.plan.candidates, a.byteLength.toNat ≤ k)
  (henv : ∀ n, R n (env n))

include hR hcuts henv

lemma packaged_recover (h : K.Packaged formats cut start s) :
    K.Packaged formats cut start (K.step formats s (.recover env nowUnixSecs)) ∧
      Kept K.plan s (K.step formats s (.recover env nowUnixSecs)) := by
  obtain ⟨haut, hV, package, h⟩ := h
  have hend : Shaped C formats cut K.plan K.approvals K.publicKey start package
      (K.step formats s (.recover env nowUnixSecs)) ∧
      Kept K.plan s (K.step formats s (.recover env nowUnixSecs)) := by
    refine state_of_wp (wp_mono (ends_recoverConsentPurge
      (U := ⟨K, formats, cut, start⟩) (fun n e he => (hR n e he).1)
      any_fault (fun n e k he => (hR n e he).2 k) hV haut
      (fun _ => trivial) hcuts (·.elim trivial) h) ?_
      (fun _ _ _ hs => hs.1) (fun _ hs => hs.1)) henv
    rintro - s' - ⟨hback | hcom, hkept⟩
    · exact ⟨.inr (.inl hback), hkept⟩
    · exact ⟨.inr (.inr hcom.toReceipted), hkept⟩
  exact ⟨⟨haut, hV, package, hend.1⟩, hend.2⟩

lemma live_recover (h : K.Live formats cut start s) :
    K.Live formats cut start (K.step formats s (.recover env nowUnixSecs)) := by
  rcases h with h | h
  · have hsame : K.step formats s (.recover env nowUnixSecs) = s :=
      state_of_wp (wp_mono (recover_whole (fun n e he => (hR n e he).1) h)
        (fun _ _ _ hfls => hfls.elim) (fun _ _ _ hs => hs) (fun _ hs => hs)) henv
    rw [hsame]
    exact .inl h
  · exact .inr (packaged_recover hR hcuts henv h).1

end

lemma live_run {calls : List PurgeCall} (hcalls : ∀ c ∈ calls, Undisturbed c.env)
    (hcuts : ¬ cut → ∀ env nowUnixSecs, .recover env nowUnixSecs ∈ calls → ∀ n, K.Careful n (env n))
    (h : K.Live formats cut start s) : K.Live formats cut start (K.run formats calls s) := by
  refine List.foldlRecOn (motive := K.Live formats cut start) calls (K.step formats) h ?_
  intro s hs c hc
  cases c with
  | execute env nowUnixSecs uuid => exact live_execute (hcalls _ hc) hs
  | recover env nowUnixSecs =>
    by_cases hcut : cut
    · exact live_recover (fun _ _ he => he) (fun _ _ => .inl hcut) (hcalls _ hc) hs
    · refine live_recover (R := K.Careful) (fun _ _ he => he.1) ?_ (hcuts hcut env _ hc) hs
      rintro k ⟨n, e, he, hk⟩
      exact .inr (he.2 k hk)

lemma settled_recover (hfits : ∀ package, JournalsFit C formats K.plan K.approvals package)
    (h : K.Packaged formats False start s) :
    ∃ outcome, ((K.recover formats nowUnixSecs).run (fun _ => .quiet) s).outcome = .done outcome ∧
      ∃ package, Settled C formats False K.plan K.approvals K.publicKey start package
        ((K.recover formats nowUnixSecs).run (fun _ => .quiet) s).state := by
  obtain ⟨haut, hV, package, h⟩ := h
  have hqui : ∀ n e label, Quiet n e → e.verdict label ≠ .proceed → False := by
    rintro n e label rfl hfau
    exact hfau rfl
  have hcuts : ∀ k, Cut Quiet k → False ∨ ∀ a ∈ K.plan.candidates, a.byteLength.toNat ≤ k := by
    rintro k ⟨n, e, rfl, hk | hk⟩
    · cases hk
    · cases hk
  obtain ⟨outcome, hout, hset, -⟩ := done_of_ends (ends_recoverConsentPurge
    (U := ⟨K, formats, False, start⟩) (fun n e he => (uninterfered_of_quiet he).1) hqui
    (fun n e k he => (uninterfered_of_quiet he).2 k) hV haut id hcuts
    (fun _ => hfits package) h) id (fun _ => rfl)
  exact ⟨outcome, hout, package, hset⟩

/-- The file in quarantine is shorter than recorded. -/
def Torn (a : ConsentPurgeArtifactV1) (s : FileSystem) : Prop :=
  ∃ bytes, s.node? a.quarantined = some (.file bytes) ∧ bytes.length < a.byteLength.toNat

section Torn

variable {a : ConsentPurgeArtifactV1} (ha : a ∈ K.plan.candidates)

include ha

lemma torn_run {calls : List PurgeCall} (hcalls : ∀ c ∈ calls, Undisturbed c.env)
    (h : K.Packaged formats True start s) (htorn : Torn a s) :
    K.Packaged formats True start (K.run formats calls s) ∧ Torn a (K.run formats calls s) := by
  refine List.foldlRecOn (motive := fun s => K.Packaged formats True start s ∧ Torn a s) calls
    (K.step formats) ⟨h, htorn⟩ ?_
  rintro s ⟨hs, htorn⟩ c hc
  cases c with
  | execute env nowUnixSecs uuid =>
    have henv : Undisturbed env := hcalls _ hc
    rw [execute_packaged henv hs]
    exact ⟨hs, htorn⟩
  | recover env nowUnixSecs =>
    obtain ⟨hs', hkept⟩ := packaged_recover (fun _ _ he => he) (fun _ _ => .inl trivial)
      (hcalls _ hc) hs
    obtain ⟨bytes, hnode, hsh⟩ := htorn
    exact ⟨hs', bytes, (hkept a ha (by simp [hnode])).trans hnode, hsh⟩

lemma torn_refused (henv : Undisturbed env) (h : K.Packaged formats True start s)
    (htorn : Torn a s) (outcome : ConsentPurgeRecoveryOutcomeV1) :
    ((K.recover formats nowUnixSecs).run env s).outcome ≠ .done outcome := by
  intro hdone
  obtain ⟨bytes, hnode, hsh⟩ := htorn
  obtain ⟨haut, hV, package, h⟩ := h
  obtain ⟨hset, hkept⟩ := ending_of_wp (ends_recoverConsentPurge
    (U := ⟨K, formats, True, start⟩) (fun _ _ he => he.1)
    any_fault (fun _ _ k he => he.2 k) hV haut (fun _ => trivial)
    (fun _ _ => .inl trivial) (·.elim trivial) h) henv hdone
  have hnode' := (hkept a ha (by simp [hnode])).trans hnode
  rcases hset with hback | hcom
  · obtain ⟨whole, hstart, hrecord⟩ := hV.file ha
    cases hnode'.symm.trans ((hback.home a ha).trans hstart)
    rw [hrecord.byteLength_eq] at hsh
    omega
  · cases hnode'.symm.trans (hcom.gone a ha)

end Torn

end Ceremony

end Rules

/-! ## A sample purge -/

namespace Flat

def receipt : ConsentRetirementQuarantineReceiptV1 :=
  ⟨consentRetirementReceiptSchema, digest, digest, quarantineTransactionDirectory plan, 70, 75,
    (retirementJournalEntriesForPlan plan).map (fun entry => { entry with state := .moved }),
    signature⟩

def purgePlan : ConsentPurgePlanV1 :=
  ⟨consentPurgePlanSchema, .replicate 16 6, digest, digest, digest, digest,
    quarantineTransactionDirectory plan, "/r",
    expectedPurgeCandidates (joinPath "/r" (hexEncode (List.replicate 16 6))) receipt, 75, 86400,
    86475, 90075, signature⟩

def purgeScheme : SignatureScheme 32 64 where
  SigningKey := FixedBytes 32
  validKey := fun _ => true
  verifyingKey := fun sk => ⟨sk, rfl⟩
  sign := fun _ _ => signature
  verify := fun pk m _ => decide (pk.val = (key 7).val ∨ pk.val = (key 8).val ∧
    m = consentPurgeApprovalMessage digest (key 8).val 86476)

def purgeCrypto : Crypto := bincodeCrypto purgeScheme flatCrypto.blake3

def ceremony : Ceremony purgeCrypto where
  plan := purgePlan
  approvals := ⟨consentPurgeApprovalBundleSchema, digest, [⟨(key 8).val, 86476, signature⟩]⟩
  retirementPlan := plan
  retirementApprovals := approvals
  quarantineReceipt := receipt
  trustedWitnessKeys := [(key 8).val]
  minimumQuorum := 1
  signingKey := (key 7).val

def blankPurgeJournal : ConsentPurgeJournalV1 :=
  ⟨consentPurgeJournalSchema, digest, digest, digest, purgeTransactionDirectory purgePlan, .prepared,
    0, 0, purgeEntries purgePlan .pending⟩

def byteOfPurgeState : ConsentPurgeJournalStateV1 → UInt8
  | .prepared => 0
  | .deleting => 1
  | .committed => 2
  | .rolledBack => 3

def purgeStateOfByte : UInt8 → ConsentPurgeJournalStateV1
  | 0 => .prepared
  | 1 => .deleting
  | 2 => .committed
  | _ => .rolledBack

def purgeEntryStateOfByte : UInt8 → ConsentPurgeJournalEntryStateV1
  | 1 => .pending
  | 2 => .deleted
  | _ => .restored

def encodePurgeJournal (journal : ConsentPurgeJournalV1) : Bytes :=
  byteOfPurgeState journal.state :: (u64Be journal.startedAtUnixSecs ++
    (u64Be journal.updatedAtUnixSecs ++ journal.entries.map (·.state.tag)))

def decodePurgeJournal : Bytes → Option ConsentPurgeJournalV1
  | [] => none
  | state :: rest => some
      { blankPurgeJournal with
        state := purgeStateOfByte state
        startedAtUnixSecs := u64OfBe (rest.take 8)
        updatedAtUnixSecs := u64OfBe ((rest.drop 8).take 8)
        entries := blankPurgeJournal.entries.zipWith
          (fun entry tag => { entry with state := purgeEntryStateOfByte tag }) (rest.drop 16) }

def purgeTexts : PurgeFormats where
  package := .coded (fun package => u64Be package.createdAtUnixSecs) fun bytes => some
    ⟨consentPurgeRollbackPackageSchema, digest, digest, purgeTransactionDirectory purgePlan,
      u64OfBe bytes, purgePlan.candidates, signature⟩
  journal := .coded encodePurgeJournal decodePurgeJournal
  receipt := .coded
    (fun receipt => u64Be receipt.startedAtUnixSecs ++ u64Be receipt.completedAtUnixSecs)
    fun bytes => some ⟨consentPurgeReceiptSchema, digest, digest, digest,
      purgeTransactionDirectory purgePlan, u64OfBe (bytes.take 8), u64OfBe (bytes.drop 8),
      purgeEntries purgePlan .deleted, signature⟩

def quarantineDisk : FileSystem :=
  let disk := ((emptyDisk.addDir ["r"] 0o700).addDir ["q"] 0o700).addDir
    (pathOf (quarantineTransactionDirectory plan)) 0o700
  receipt.entries.foldl (fun disk entry => disk.setNode (pathOf entry.quarantinePath)
    (some (.file [1]))) disk

def uuid : UuidText := ⟨"03030303-0303-0303-0303-030303030303", by decide, by decide⟩

def killedAt (kind : Call) (call : Nat) : Environment FileSystem Call :=
  fun n => ⟨id, fun label => if n = call ∧ label = kind then .crash 0 else .proceed⟩

lemma undisturbed_killedAt (kind : Call) (call : Nat) : Undisturbed (killedAt kind call) := by
  refine fun n => ⟨rfl, fun k => ?_⟩
  simp only [killedAt]
  split <;> simp

lemma careful_killedAt {kind : Call} (hkind : kind ≠ .write) (call n : Nat) :
    ceremony.Careful n (killedAt kind call n) := by
  refine ⟨undisturbed_killedAt kind call n, fun k hk => ?_⟩
  have hpro : (killedAt kind call n).verdict .write = .proceed := if_neg fun h => hkind h.2.symm
  rw [hpro] at hk
  rcases hk with hk | hk <;> cases hk

lemma purgeStateOfByte_byteOfPurgeState (state : ConsentPurgeJournalStateV1) :
    purgeStateOfByte (byteOfPurgeState state) = state := by
  cases state <;> rfl

lemma zipWith_purgeStates (entries : List ConsentPurgeJournalEntryV1) :
    List.zipWith (fun (entry : ConsentPurgeJournalEntryV1) tag =>
        { entry with state := purgeEntryStateOfByte tag })
      ((entries.map ConsentPurgeJournalEntryV1.artifact).map (⟨·, .pending⟩))
      (entries.map (·.state.tag)) = entries := by
  induction entries with
  | nil => rfl
  | cons e rest ih =>
    have hstate : purgeEntryStateOfByte e.state.tag = e.state := by cases e.state <;> rfl
    simp only [List.map_cons, List.zipWith_cons_cons, ih, hstate]

lemma journalsFit (package : ConsentPurgeRollbackPackageV1) :
    JournalsFit purgeCrypto purgeTexts purgePlan ceremony.approvals package := by
  rintro j ⟨hverify, hent⟩
  -- every fingerprint is the one digest
  simp only [verifyPurgeJournal, consentPurgePlanFingerprint, consentPurgeApprovalBundleFingerprint,
    consentPurgeRollbackPackageFingerprint, bind_ok, failIf_ok, not_or, ne_eq, not_not] at hverify
  obtain ⟨_, hschema, _, ⟨_, -, hplan⟩, _, hplan', _, ⟨_, -, hbun⟩, _, hbun', _,
    ⟨_, -, h⟩, h', hdir⟩ := hverify
  cases hplan
  cases hbun
  cases h
  have hdec : decodePurgeJournal (encodePurgeJournal j) = some j := by
    obtain ⟨hstart, hupd, hrest⟩ := split_times j.startedAtUnixSecs j.updatedAtUnixSecs
      (j.entries.map (·.state.tag))
    have hbla : blankPurgeJournal.entries = (j.entries.map
        ConsentPurgeJournalEntryV1.artifact).map (⟨·, .pending⟩) := by
      rw [hent]
      rfl
    simp only [encodePurgeJournal, decodePurgeJournal, hbla, hstart, hupd, hrest,
      u64OfBe_u64Be, zipWith_purgeStates, purgeStateOfByte_byteOfPurgeState]
    cases j
    cases hschema
    cases hplan'
    cases hbun'
    cases h'
    cases hdir
    rfl
  refine ⟨_, TextFormat.coded_toVec hdec, ?_⟩
  have hlen : j.entries.length = purgePlan.candidates.length := by
    rw [← hent, List.length_map]
  have htwo : purgePlan.candidates.length = 2 := by decide +kernel
  simp only [encodePurgeJournal, List.length_cons, List.length_append, List.length_map, length_u64Be]
  have : 2 + 17 < maxPurgeTransactionBytes := by decide
  omega

def tornCalls : List PurgeCall :=
  [.execute (killedAt .syncDir 33) 86480 uuid, .recover (killedAt .write 16) 86490]

lemma undisturbed_tornCalls : ∀ c ∈ tornCalls, Undisturbed c.env := by
  intro c hc
  simp only [tornCalls, List.mem_cons, List.not_mem_nil, or_false] at hc
  rcases hc with rfl | rfl
  · exact undisturbed_killedAt _ _
  · exact undisturbed_killedAt _ _

def restoredCalls : List PurgeCall :=
  [.execute (killedAt .syncDir 33) 86480 uuid, .recover (killedAt .replace 20) 86490]

lemma undisturbed_restoredCalls : ∀ c ∈ restoredCalls, Undisturbed c.env := by
  intro c hc
  simp only [restoredCalls, List.mem_cons, List.not_mem_nil, or_false] at hc
  rcases hc with rfl | rfl
  · exact undisturbed_killedAt _ _
  · exact undisturbed_killedAt _ _

def firstPath : String := "/q/05050505050505050505050505050505/00-0101010101010101-a"

lemma interrupted_runs : quarantineDisk.hasDir (directory purgePlan) = false ∧
    quarantineDisk.readFile? firstPath = some [1] ∧
    (ceremony.run purgeTexts tornCalls quarantineDisk).hasDir (directory purgePlan) = true ∧
    (ceremony.run purgeTexts tornCalls quarantineDisk).readFile? firstPath = some [] ∧
    (ceremony.run purgeTexts restoredCalls quarantineDisk).hasDir (directory purgePlan) = true ∧
    ∃ a ∈ purgePlan.candidates, a.quarantinePath = firstPath ∧ a.byteLength = 1 := by
  decide +kernel

end Flat

/-! ## No file is lost -/

section Results

variable [HexLibrary] {C : Crypto} (formats : PurgeFormats) (K : Ceremony C) {start : FileSystem}
  {calls : List PurgeCall}

/-- At all times a candidate that was in quarantine before the purge is there or in the package, with
all its bytes; once a candidate has been unlinked every copy in the package is complete and passes
its check; and once there is a receipt all candidates are gone and every copy passes its check. -/
theorem purge_loses_nothing (hfresh : start.hasDir (directory K.plan) = false)
    (hcalls : ∀ c ∈ calls, Undisturbed c.env) :
    let s := K.run formats calls start
    (∀ a ∈ K.plan.candidates, ∀ bytes, start.node? a.quarantined = some (.file bytes) →
      s.node? a.quarantined = some (.file bytes) ∨ s.node? a.copied = some (.file bytes)) ∧
    (∀ p node, Removal.entry p node ∈ s.removals → Removal.entry p node ∉ start.removals →
      ∀ a ∈ K.plan.candidates, verifyExactFile C a.rollbackPath a true s = .ok () ∧
        s.node? a.copied = start.node? a.quarantined) ∧
    (s.node? (pathOf (purgeReceiptPath K.plan)) ≠ none → ∀ a ∈ K.plan.candidates,
      s.node? a.quarantined = none ∧ verifyExactFile C a.rollbackPath a true s = .ok () ∧
        s.node? a.copied = start.node? a.quarantined) := by
  intro s
  have hlive : K.Live formats True start s :=
    Ceremony.live_run hcalls (·.elim trivial) (Ceremony.live_of_fresh hfresh)
  rcases hlive with h | ⟨-, hV, package, hshaped⟩
  · refine ⟨fun a ha bytes hbytes => .inl ((h.there a ha).1.trans hbytes), ?_, ?_⟩
    · intro p node hmem hnew
      exact absurd (h.linked p node hmem) hnew
    · intro hreceipt
      obtain ⟨node, hnode⟩ := Option.ne_none_iff_exists'.mp hreceipt
      have hparent := hasParent_of_node? hnode
      rw [pathOf_purgeReceiptPath] at hparent
      simp [hasParent, h.fresh] at hparent
  · have h := (Shaped.boxed (U := ⟨K, formats, True, start⟩) hshaped).toPacked
    have hcopies : ∀ a ∈ K.plan.candidates, verifyExactFile C a.rollbackPath a true s = .ok () ∧
        s.node? a.copied = start.node? a.quarantined :=
      fun a ha => ⟨hV.copy_exact ha h, h.copied a ha⟩
    refine ⟨fun a ha bytes hbytes => .inr ((h.copied a ha).trans hbytes),
      fun _ _ _ _ => hcopies, ?_⟩
    intro hreceipt a ha
    rcases h.receipt with hnone | ⟨-, hgone⟩
    · exact absurd hnone hreceipt
    · exact ⟨hgone a ha, hcopies a ha⟩

/-- If every recovery so far that wrote a file back into quarantine wrote all of it, and the journals
fit into their file, then a recovery that nothing disturbs completes once there is a package: all
candidates are back with their bytes, or the purge is confirmed. A candidate that is cut short in
quarantine is refused by every recovery from then on. -/
theorem recovery_settles_purge (hfresh : start.hasDir (directory K.plan) = false)
    (hfits : ∀ package, JournalsFit C formats K.plan K.approvals package)
    (hcalls : ∀ c ∈ calls, Undisturbed c.env)
    (hdir : (K.run formats calls start).hasDir (directory K.plan) = true) :
    ((∀ env nowUnixSecs, .recover env nowUnixSecs ∈ calls → ∀ n, K.Careful n (env n)) →
      ∀ later, ∃ outcome,
        ((K.recover formats later).run (fun _ => .quiet) (K.run formats calls start)).outcome =
          .done outcome ∧
        ∃ package, Settled C formats False K.plan K.approvals K.publicKey start package
          ((K.recover formats later).run (fun _ => .quiet) (K.run formats calls start)).state) ∧
    ∀ a ∈ K.plan.candidates, Ceremony.Torn a (K.run formats calls start) →
      ∀ more : List PurgeCall, (∀ c ∈ more, Undisturbed c.env) →
      ∀ env, Undisturbed env → ∀ later outcome,
        ((K.recover formats later).run env (K.run formats (calls ++ more) start)).outcome ≠
          .done outcome := by
  refine ⟨fun hcareful later => ?_, ?_⟩
  · have hlive : K.Live formats False start (K.run formats calls start) :=
      Ceremony.live_run hcalls (fun _ => hcareful) (Ceremony.live_of_fresh hfresh)
    exact Ceremony.settled_recover hfits (hlive.packaged hdir)
  · intro a ha htorn more hmore env henv later outcome
    have hlive : K.Live formats True start (K.run formats calls start) :=
      Ceremony.live_run hcalls (·.elim trivial) (Ceremony.live_of_fresh hfresh)
    obtain ⟨hpackaged, htorn'⟩ := Ceremony.torn_run ha hmore (hlive.packaged hdir) htorn
    have happend : K.run formats (calls ++ more) start =
        K.run formats more (K.run formats calls start) := List.foldl_append
    rw [happend]
    exact Ceremony.torn_refused ha henv hpackaged htorn' outcome

end Results

open scoped Flat

/-- Behind the two interrupted calls of the sample purge an empty file is in quarantine, and the byte
is in the package. -/
theorem purge_loses_nothing_sample :
    let s := Flat.ceremony.run Flat.purgeTexts Flat.tornCalls Flat.quarantineDisk
    Flat.quarantineDisk.readFile? Flat.firstPath = some [1] ∧
    s.readFile? Flat.firstPath = some [] ∧
    ∀ a ∈ Flat.purgePlan.candidates, ∀ bytes,
      Flat.quarantineDisk.node? a.quarantined = some (.file bytes) →
      s.node? a.quarantined = some (.file bytes) ∨ s.node? a.copied = some (.file bytes) := by
  intro s
  obtain ⟨hfresh, hbefore, -, hafter, -⟩ := Flat.interrupted_runs
  exact ⟨hbefore, hafter, (purge_loses_nothing Flat.purgeTexts Flat.ceremony hfresh
    Flat.undisturbed_tornCalls).1⟩

/-- The sample purge was interrupted, and so was its first recovery, with the file written back; the
next recovery completes. -/
theorem recovery_settles_purge_sample :
    let s := Flat.ceremony.run Flat.purgeTexts Flat.restoredCalls Flat.quarantineDisk
    ∃ outcome, ((Flat.ceremony.recover Flat.purgeTexts 86500).run (fun _ => .quiet) s).outcome =
        .done outcome ∧
      ∃ package, Settled Flat.purgeCrypto Flat.purgeTexts False Flat.purgePlan
        Flat.ceremony.approvals Flat.ceremony.publicKey Flat.quarantineDisk package
        ((Flat.ceremony.recover Flat.purgeTexts 86500).run (fun _ => .quiet) s).state := by
  intro s
  obtain ⟨hfresh, -, -, -, hdir, -⟩ := Flat.interrupted_runs
  refine (recovery_settles_purge Flat.purgeTexts Flat.ceremony hfresh Flat.journalsFit
    Flat.undisturbed_restoredCalls hdir).1 ?_ 86500
  intro env nowUnixSecs hmem n
  simp only [Flat.restoredCalls, List.mem_cons, List.not_mem_nil, or_false, reduceCtorEq, false_or,
    PurgeCall.recover.injEq] at hmem
  rw [hmem.1]
  exact Flat.careful_killedAt (by decide) 20 n

/-- The first recovery of the sample purge is killed while it writes the file back. From then on no
recovery completes, however often it is run. -/
theorem cut_copy_refused_forever : (∀ c ∈ Flat.tornCalls, Undisturbed c.env) ∧
    Flat.quarantineDisk.hasDir (directory Flat.purgePlan) = false ∧
    (Flat.ceremony.run Flat.purgeTexts Flat.tornCalls Flat.quarantineDisk).hasDir
      (directory Flat.purgePlan) = true ∧
    (Flat.ceremony.run Flat.purgeTexts Flat.tornCalls Flat.quarantineDisk).readFile? Flat.firstPath =
      some [] ∧
    ∀ more : List PurgeCall, (∀ c ∈ more, Undisturbed c.env) → ∀ later outcome,
      ((Flat.ceremony.recover Flat.purgeTexts later).run (fun _ => .quiet)
        (Flat.ceremony.run Flat.purgeTexts (Flat.tornCalls ++ more) Flat.quarantineDisk)).outcome ≠
          .done outcome := by
  obtain ⟨hfresh, -, hdir, hfile, -, a, ha, hpath, hlength⟩ := Flat.interrupted_runs
  refine ⟨Flat.undisturbed_tornCalls, hfresh, hdir, hfile, fun more hmore later outcome => ?_⟩
  have hlive : Flat.ceremony.Live Flat.purgeTexts True Flat.quarantineDisk
      (Flat.ceremony.run Flat.purgeTexts Flat.tornCalls Flat.quarantineDisk) :=
    Ceremony.live_run Flat.undisturbed_tornCalls (·.elim trivial)
      (Ceremony.live_of_fresh hfresh)
  have htorn : Ceremony.Torn a
      (Flat.ceremony.run Flat.purgeTexts Flat.tornCalls Flat.quarantineDisk) := by
    obtain ⟨-, hnode⟩ := readFile?_eq_some.mp hfile
    exact ⟨[], by rw [ConsentPurgeArtifactV1.quarantined, hpath]; exact hnode, by simp [hlength]⟩
  obtain ⟨hpackaged, htorn'⟩ := Ceremony.torn_run ha hmore (hlive.packaged hdir) htorn
  have happend : Flat.ceremony.run Flat.purgeTexts (Flat.tornCalls ++ more) Flat.quarantineDisk =
      Flat.ceremony.run Flat.purgeTexts more
        (Flat.ceremony.run Flat.purgeTexts Flat.tornCalls Flat.quarantineDisk) := List.foldl_append
  rw [happend]
  exact Ceremony.torn_refused ha (fun n => uninterfered_of_quiet rfl) hpackaged htorn' outcome

end XeniaPeer.Consent
