import XeniaPeer.Consent.ActiveState
import XeniaPeer.Foundation.Files

/-!
# Where the ledger is kept

The live ledger is one file (`audit_ledger_store.rs`, `consent_ledger_persistence.rs`): an envelope
with the entries of a complete ledger, or the JSON text of a compacted active state.

Main results: `failed_append_keeps_ledger`, `ledger_file_reads_back`.
-/

namespace XeniaPeer.Consent

open Foundation Foundation.FileSystem Ledger

inductive AuditLedgerStoreError where
  | io
  | limitExceeded (text : String)
  | unsupportedSchema (schema : Nat)
  | metadataMismatch (field : String)
  | codec
  | verify (error : VerifyError)
  | continuityJson
  | compactedState (error : ConsentRecoveryError)
  | checkpointContinuity (error : CheckpointContinuityError)
  | checkpointFromFuture (checkpoint now maximumSkew : UInt64)
deriving DecidableEq

/-! ## Replacing a file -/

def parentText (path : String) : String := Path.text (pathOf path).dropLast

def temporaryPath (path : String) (processId nanos : Nat) : String :=
  joinPath (parentText path) ("." ++ (pathOf path).getLast?.getD "consent.ledger" ++ ".tmp-" ++
    toString processId ++ "-" ++ toString nanos)

def writeAndRename (path tempPath : String) (bytes : Bytes) : Prog AuditLedgerStoreError Unit := do
  createCall .io tempPath
  writeCall .io tempPath bytes
  syncCall .io
  renameCall .io tempPath path
  syncDirCall .io (parentText path)

def removeTemporary (tempPath : String) (e : AuditLedgerStoreError) :
    Prog AuditLedgerStoreError Unit := do
  let _ ← Program.attempt (unlinkCall AuditLedgerStoreError.io tempPath)
  .ofExcept (.error e)

def persistOwnerOnlyAtomic (path : String) (bytes : Bytes) (processId nanos : Nat) :
    Prog AuditLedgerStoreError Unit := do
  makeDirsCall .io (parentText path) 0o755
  let tempPath := temporaryPath path processId nanos
  let writeResult ← Program.attempt (writeAndRename path tempPath bytes)
  match writeResult with
  | .ok () => pure ()
  | .error e => removeTemporary tempPath e

variable {path : String} {faults : Call → Verdict} {fs : FileSystem}

section Replace

variable {bytes : Bytes} {processId nanos : Nat} {n : Nat}

def ReachesRename (faults : Call → Verdict) : Prop :=
  ∀ call ∈ [Call.makeDir, .create, .write, .sync, .rename], faults call = .proceed

/-- The new file is in place and the sync of its directory fails. -/
def LosesDirectorySync (faults : Call → Verdict) : Prop :=
  ReachesRename faults ∧ (∃ k, faults .syncDir = .fail k) ∧ ∀ k, faults .unlink ≠ .crash k

def Replaceable (fs : FileSystem) (path tempPath : String) (bytes : Bytes) : Prop :=
  ∃ fs₂ fs₃ fs₄, fs.createNew? tempPath = some fs₂ ∧ fs₂.appendFile? tempPath bytes = some fs₃ ∧
    fs₃.rename? tempPath path = some fs₄

def Writable (fs : FileSystem) (path tempPath : String) (bytes : Bytes) : Prop :=
  ∃ fs₁, fs.makeDirs? (parentText path) 0o755 = some fs₁ ∧ Replaceable fs₁ path tempPath bytes

def Renamed (path : String) (bytes : Bytes) (fs : FileSystem) : Prop :=
  resolve path = some (pathOf path) ∧ fs.node? (pathOf path) = some (.file bytes)

def World (faults : Call → Verdict) (e : Event FileSystem Call) : Prop := e = ⟨id, faults⟩

lemma World.meddle_eq {e : Event FileSystem Call} (h : World faults e) : e.meddle = id := by
  rw [h]

lemma World.verdict_eq {e : Event FileSystem Call} (h : World faults e) : e.verdict = faults := by
  rw [h]

lemma World.go {call : Call} (hcall : faults call = .proceed) (e : Event FileSystem Call)
    (h : World faults e) : e.meddle = id ∧ e.verdict call = .proceed :=
  ⟨h.meddle_eq, h.verdict_eq ▸ hcall⟩

lemma pathOf_parentText : pathOf (parentText path) = (pathOf path).dropLast :=
  pathOf_text (fun _ hc => simpleName_of_mem_pathOf (List.mem_of_mem_dropLast hc))

lemma pathOf_temporaryPath_ne : pathOf (temporaryPath path processId nanos) ≠ pathOf path := by
  have hsla : '/' ∉ ((pathOf path).getLast?.getD "consent.ledger").toList := by
    cases hlast : (pathOf path).getLast? with
    | none => decide
    | some name => exact (simpleName_of_mem_pathOf (List.mem_of_getLast? hlast)).1
  have hname : SimpleName ("." ++ (pathOf path).getLast?.getD "consent.ledger" ++ ".tmp-" ++
      toString processId ++ "-" ++ toString nanos) := by
    refine simpleName_of_length ?_ ?_
    · simp [String.toList_append, hsla]
    · simp [String.toList_append]
      omega
  rw [temporaryPath, pathOf_joinPath hname]
  intro h
  have hlast := congrArg (fun p => (p.getLast?.getD "consent.ledger").toList.length) h
  simp [String.toList_append] at hlast
  omega

lemma wp_removeTemporary {tempPath : String} {e : AuditLedgerStoreError}
    {Q : Post FileSystem AuditLedgerStoreError Unit} (hne : pathOf tempPath ≠ pathOf path)
    (hfail : ∀ fs' n, AgreesAt (pathOf path) fs fs' → (∀ k, faults .unlink ≠ .crash k) →
      Q.failed e fs' n) (hcrash : ∀ k, faults .unlink = .crash k → Q.crashed fs) :
    wp (fun _ => World faults) (removeTemporary tempPath e) Q fs n := by
  refine wp_bind (wp_attempt (wp_change (fun _ hev => hev.meddle_eq) ?_ ?_ ?_ ?_))
  · intro ev fs' hev hk hunl
    obtain ⟨-, node, -, -, h, -⟩ := unlink?_effect hunl
    exact wp_ofExcept (hfail _ _ (h _ hne.symm) (by simp [← hev.verdict_eq, hk]))
  · intro ev hev hk _
    exact wp_ofExcept (hfail fs _ .refl (by simp [← hev.verdict_eq, hk]))
  · intro ev k hev hk
    exact wp_ofExcept (hfail fs _ .refl (by simp [← hev.verdict_eq, hk]))
  · intro ev k hev hk
    exact hcrash k (hev.verdict_eq ▸ hk)

lemma agreesAt_makeDirs {fs' : FileSystem} {mode : Nat}
    (h : fs.makeDirs? (parentText path) mode = some fs') :
    AgreesAt (pathOf path) fs fs' ∧ (resolve (parentText path)).any fs'.hasDir = true := by
  obtain ⟨hp, hdir, hnode, hother⟩ := makeDirs?_eq_some h
  refine ⟨⟨hnode _, ?_⟩, by simp [hp, hdir]⟩
  by_cases hroot : pathOf path = []
  · rw [hroot, hasDir_root, hasDir_root]
  · refine hother _ fun hpre => ?_
    have hlen := hpre.length_le
    rw [pathOf_parentText, List.length_dropLast] at hlen
    have := List.length_pos_of_ne_nil hroot
    omega

section Rename

variable {tempPath : String}

lemma wp_writeAndRename_before (hne : pathOf tempPath ≠ pathOf path)
    (h : ¬ ((∀ call ∈ [Call.create, .write, .sync, .rename], faults call = .proceed) ∧
      Replaceable fs path tempPath bytes)) :
    wp (fun _ => World faults) (writeAndRename path tempPath bytes)
      ⟨fun _ _ _ => False, fun _ fs' _ => AgreesAt (pathOf path) fs fs',
        AgreesAt (pathOf path) fs⟩ fs n := by
  have hR : ∀ ev, World faults ev → ev.meddle = id := fun ev hev => hev.meddle_eq
  refine wp_bind (wp_change hR ?_ (fun _ _ _ _ => .refl) (fun _ _ _ _ => .refl)
    (fun _ _ _ _ => .refl))
  intro ev2 fs2 hev2 hcr h2
  have hag2 : AgreesAt (pathOf path) fs fs2 := (createNew?_effect h2).2.2.2.agrees _ hne.symm
  -- however many bytes are written, they go to the temporary file
  have hwr : ∀ b, AgreesAt (pathOf path) fs ((fs2.appendFile? tempPath b).getD fs2) := by
    intro b
    cases hfs : fs2.appendFile? tempPath b with
    | none => exact hag2
    | some fs' =>
      obtain ⟨-, old, -, -, honly⟩ := appendFile?_effect hfs
      exact hag2.trans (honly.agrees _ hne.symm)
  refine wp_bind (wp_update hR ?_ (fun _ _ _ _ => hag2) (fun _ _ _ _ => hwr _)
    (fun _ _ _ _ => hwr _))
  intro ev3 fs3 hev3 hwri h3
  have hag3 : AgreesAt (pathOf path) fs fs3 := by
    have := hwr bytes
    rwa [h3] at this
  refine wp_bind (wp_look hR ?_ (fun _ _ _ _ => hag3) (fun _ _ _ _ => hag3))
  intro ev4 hev4 hsync
  refine wp_bind (wp_change hR ?_ (fun _ _ _ _ => hag3) (fun _ _ _ _ => hag3) (fun _ _ _ _ => hag3))
  intro ev5 fs4 hev5 hren h4
  rw [hev2.verdict_eq] at hcr
  rw [hev3.verdict_eq] at hwri
  rw [hev4.verdict_eq] at hsync
  rw [hev5.verdict_eq] at hren
  refine absurd ⟨?_, fs2, fs3, fs4, h2, h3, h4⟩ h
  simp [hcr, hwri, hsync, hren]

lemma wp_writeAndRename_after
    (hcalls : ∀ call ∈ [Call.create, .write, .sync, .rename], faults call = .proceed)
    (hreplace : Replaceable fs path tempPath bytes)
    (hparent : (resolve (parentText path)).any fs.hasDir = true) :
    wp (fun _ => World faults) (writeAndRename path tempPath bytes)
      ⟨fun _ fs' _ => Renamed path bytes fs' ∧ faults .syncDir = .proceed,
        fun _ fs' _ => Renamed path bytes fs' ∧ ∃ k, faults .syncDir = .fail k,
        fun fs' => Renamed path bytes fs' ∧ ∃ k, faults .syncDir = .crash k⟩ fs n := by
  obtain ⟨fs2, fs3, fs4, h2, h3, h4⟩ := hreplace
  simp only [List.forall_mem_cons] at hcalls
  obtain ⟨hcr, hwr, hsync, hren, -⟩ := hcalls
  -- the bytes of the temporary file are those written, so they are the renamed file's
  have hdone : Renamed path bytes fs4 ∧ (resolve (parentText path)).any fs4.hasDir = true := by
    obtain ⟨-, ⟨hpar1, -, -⟩, rfl⟩ := createNew?_eq_some.mp h2
    obtain ⟨-, old, hold, rfl⟩ := appendFile?_eq_some.mp h3
    obtain ⟨-, hq, node, hnode, ⟨hfree, -⟩, rfl⟩ := rename?_eq_some.mp h4
    rw [node?_setNode_self hpar1] at hold
    cases hold
    rw [node?_setNode_self (by simpa using hpar1)] at hnode
    cases hnode
    refine ⟨⟨hq, node?_setNode_self (by simpa using hfree)⟩, ?_⟩
    simpa using hparent
  refine wp_bind (wp_proceeds (World.go hcr) ?_)
  simp only [h2, Option.getD_some]
  refine wp_bind (wp_proceeds (World.go hwr) ?_)
  simp only [h3, Option.getD_some]
  refine wp_bind (wp_proceeds (World.go hsync) ?_)
  refine wp_bind (wp_proceeds (World.go hren) ?_)
  simp only [h4, Option.getD_some]
  refine wp_look (fun _ hev => hev.meddle_eq) ?_ ?_ ?_
  · intro ev hev hk
    rw [failIf, if_neg (by simp [hdone.2])]
    exact ⟨hdone.1, hev.verdict_eq ▸ hk⟩
  · intro ev k hev hk
    exact ⟨hdone.1, k, hev.verdict_eq ▸ hk⟩
  · intro ev k hev hk
    exact ⟨hdone.1, k, hev.verdict_eq ▸ hk⟩

end Rename

lemma wp_persist_before_rename
    (h : ¬ (ReachesRename faults ∧ Writable fs path (temporaryPath path processId nanos) bytes)) :
    wp (fun _ => World faults) (persistOwnerOnlyAtomic path bytes processId nanos)
      ⟨fun _ _ _ => False, fun _ fs' _ => AgreesAt (pathOf path) fs fs',
        AgreesAt (pathOf path) fs⟩ fs n := by
  have hne : pathOf (temporaryPath path processId nanos) ≠ pathOf path := pathOf_temporaryPath_ne
  refine wp_bind (wp_change (fun _ hev => hev.meddle_eq) ?_ (fun _ _ _ _ => .refl)
    (fun _ _ _ _ => .refl) (fun _ _ _ _ => .refl))
  intro ev fs1 hev hdirs h1
  have hag := (agreesAt_makeDirs h1).1
  refine wp_bind (wp_attempt (wp_mono (wp_writeAndRename_before hne ?_) ?_ ?_ ?_))
  · rintro ⟨hcal, hrep⟩
    refine h ⟨?_, fs1, h1, hrep⟩
    rw [hev.verdict_eq] at hdirs
    exact List.forall_mem_cons.mpr ⟨hdirs, hcal⟩
  · exact fun _ _ _ => False.elim
  · intro e fs' _ hfs'
    exact wp_removeTemporary hne (fun _ _ h'' _ => hag.trans (hfs'.trans h''))
      (fun _ _ => hag.trans hfs')
  · exact fun fs' hfs' => hag.trans hfs'

lemma wp_persist_after_rename (hreaches : ReachesRename faults)
    (hwrite : Writable fs path (temporaryPath path processId nanos) bytes) :
    wp (fun _ => World faults) (persistOwnerOnlyAtomic path bytes processId nanos)
      ⟨fun _ fs' _ => Renamed path bytes fs' ∧ faults .syncDir = .proceed,
        fun _ fs' _ => Renamed path bytes fs' ∧ LosesDirectorySync faults,
        fun fs' => Renamed path bytes fs' ∧
          ∃ k, faults .syncDir = .crash k ∨ faults .unlink = .crash k⟩ fs n := by
  have hne : pathOf (temporaryPath path processId nanos) ≠ pathOf path := pathOf_temporaryPath_ne
  obtain ⟨fs1, h1, hrep⟩ := hwrite
  obtain ⟨hdirs, hrest⟩ := List.forall_mem_cons.mp hreaches
  unfold persistOwnerOnlyAtomic makeDirsCall change changeWith
  refine wp_bind (wp_proceeds (World.go hdirs) ?_)
  simp only [h1, Option.getD_some]
  refine wp_bind (wp_attempt (wp_mono
    (wp_writeAndRename_after hrest hrep (agreesAt_makeDirs h1).2) ?_ ?_ ?_))
  · exact fun _ fs' _ h => wp_pure h
  · rintro e fs' _ ⟨hren, hfail⟩
    refine wp_removeTemporary hne (fun fs'' _ hag hunl => ⟨⟨hren.1, ?_⟩, hreaches, hfail, hunl⟩)
      (fun k hk => ⟨hren, k, .inr hk⟩)
    rw [hag.1, hren.2]
  · exact fun fs' ⟨hren, k, hk⟩ => ⟨hren, k, .inl hk⟩

end Replace

/-! ## The file of a complete ledger -/

def persistedAuditLedgerMagic : Bytes := utf8 "XENIA-AUDIT-LEDGER" ++ [0]

def persistedAuditLedgerSchemaV1 : Nat := 1

def persistedAuditLedgerHeaderLen : Nat := persistedAuditLedgerMagic.length + 2 + 8 + 32

def maxAuditLedgerBytes : Nat := 64 * 1024 * 1024

def maxAuditLedgerEntries : Nat := 100000

def headHash (entries : List LedgerEntry) : FixedBytes 32 :=
  (entries.getLast?.map LedgerEntry.entryHash).getD zeroHash

def validateEntryCount (count : Nat) : Except AuditLedgerStoreError Unit :=
  failIf (maxAuditLedgerEntries < count)
    (.limitExceeded (toString count ++ " entries exceeds maximum " ++
      toString maxAuditLedgerEntries))

def declaredBincodeVecLen (bytes : Bytes) : Except AuditLedgerStoreError Nat := do
  failIf (bytes.length < 8) (.metadataMismatch "truncated bincode vector length")
  let count := natOfLe (bytes.take 8)
  validateEntryCount count
  pure count

variable {C : Crypto}

section Complete

variable (bincode : VecFormat LedgerEntry)

def decodeEnvelope (bytes : Bytes) : Except AuditLedgerStoreError (List LedgerEntry) := do
  let offset := persistedAuditLedgerMagic.length
  failIf (bytes.length < persistedAuditLedgerHeaderLen) (.metadataMismatch "truncated header")
  let schemaVersion := natOfBe ((bytes.drop offset).take 2)
  failIf (schemaVersion ≠ persistedAuditLedgerSchemaV1) (.unsupportedSchema schemaVersion)
  let entryCount := natOfBe ((bytes.drop (offset + 2)).take 8)
  validateEntryCount entryCount
  let expectedHeadHash := (bytes.drop (offset + 10)).take 32
  let payload := bytes.drop (offset + 42)
  let encodedEntryCount ← declaredBincodeVecLen payload
  failIf (encodedEntryCount ≠ entryCount) (.metadataMismatch "encoded_entry_count")
  let entries ← okOr (bincode.deserialize payload) .codec
  failIf (entryCount ≠ entries.length) (.metadataMismatch "entry_count")
  failIf (expectedHeadHash ≠ (headHash entries).toList) (.metadataMismatch "head_hash")
  pure entries

def decodeLegacy (bytes : Bytes) : Except AuditLedgerStoreError (List LedgerEntry) := do
  let declaredEntryCount ← declaredBincodeVecLen bytes
  let entries ← okOr (bincode.deserialize bytes) .codec
  failIf (entries.length ≠ declaredEntryCount) (.metadataMismatch "legacy encoded_entry_count")
  pure entries

def decodeEntries (bytes : Bytes) : Except AuditLedgerStoreError (List LedgerEntry) :=
  if persistedAuditLedgerMagic <+: bytes then decodeEnvelope bincode bytes
  else decodeLegacy bincode bytes

def loadVerified (fs : FileSystem) (path : String) (signingKey : C.ed25519.SigningKey) :
    Except AuditLedgerStoreError (Chain C) :=
  if fs.pathExists path = false then .ok (Chain.new signingKey) else do
    let bytes ← okOr (fs.readFile? path) .io
    failIf (maxAuditLedgerBytes < bytes.length)
      (.limitExceeded (toString bytes.length ++ " bytes exceeds maximum " ++
        toString maxAuditLedgerBytes))
    let entries ← decodeEntries bincode bytes
    (verifyChain C entries (C.ed25519.verifyingKey signingKey)).mapError .verify
    pure (Chain.fromEntries entries signingKey)

def encodeEnvelope (entries : List LedgerEntry) : Except AuditLedgerStoreError Bytes := do
  validateEntryCount entries.length
  let payload ← okOr (bincode.serialize entries) .codec
  let bytes := persistedAuditLedgerMagic ++ (beBytes 2 persistedAuditLedgerSchemaV1 ++
    (beBytes 8 entries.length ++ ((headHash entries).toList ++ payload)))
  failIf (maxAuditLedgerBytes < bytes.length)
    (.limitExceeded (toString bytes.length ++ " serialized bytes exceeds maximum " ++
      toString maxAuditLedgerBytes))
  pure bytes

variable {bincode} in
lemma decodeEnvelope_of_encodeEnvelope {entries : List LedgerEntry} {bytes : Bytes}
    (h : encodeEnvelope bincode entries = .ok bytes) :
    entries.length ≤ maxAuditLedgerEntries ∧ bytes.length ≤ maxAuditLedgerBytes ∧
      persistedAuditLedgerMagic <+: bytes ∧ decodeEnvelope bincode bytes = .ok entries := by
  simp only [encodeEnvelope, validateEntryCount, guard_bind_ok, failIf_ok, Nat.not_lt] at h
  obtain ⟨hcount, h⟩ := h
  rw [bind_ok] at h
  simp only [guard_bind_ok, failIf_ok, Nat.not_lt, okOr_ok, pure_ok] at h
  obtain ⟨payload, hpay, hlen, rfl⟩ := h
  refine ⟨hcount, hlen, List.prefix_append _ _, ?_⟩
  have hsma : entries.length < 256 ^ 8 := by
    have : maxAuditLedgerEntries < 256 ^ 8 := by decide
    omega
  obtain ⟨rest, hrest⟩ := bincode.length_first hpay
  have hdec : declaredBincodeVecLen payload = .ok entries.length := by
    have hfirst : natOfLe (payload.take 8) = entries.length := by
      rw [hrest, List.take_left' (leBytes_length 8 _), natOfLe_leBytes, Nat.mod_eq_of_lt hsma]
    have hlong : ¬ payload.length < 8 := by
      rw [hrest, List.length_append, leBytes_length]
      omega
    simp only [declaredBincodeVecLen, validateEntryCount, guard_bind_ok, failIf_ok, pure_ok, hfirst]
    exact ⟨hlong, by omega, trivial⟩
  -- the fields of the header, each behind those before it
  have hfie2 : ∀ s : Bytes, (beBytes 2 persistedAuditLedgerSchemaV1 ++ s).drop 2 = s :=
    fun s => List.drop_left' (beBytes_length _ _)
  have hfie10 : ∀ s : Bytes, (beBytes 2 persistedAuditLedgerSchemaV1 ++
      (beBytes 8 entries.length ++ s)).drop 10 = s := by
    intro s
    rw [← List.append_assoc]
    exact List.drop_left' (by simp)
  have hfie42 : ∀ s : Bytes, (beBytes 2 persistedAuditLedgerSchemaV1 ++
      (beBytes 8 entries.length ++ ((headHash entries).toList ++ s))).drop 42 = s := by
    intro s
    rw [← List.append_assoc, ← List.append_assoc]
    exact List.drop_left' (by simp)
  have hschema : natOfBe (beBytes 2 persistedAuditLedgerSchemaV1) = persistedAuditLedgerSchemaV1 :=
    natOfBe_beBytes (by decide)
  simp only [decodeEnvelope, List.drop_length_add_append, List.drop_left, hfie2, hfie10,
    hfie42, List.take_left' (beBytes_length _ _), List.take_left' (List.Vector.toList_length _),
    hschema, natOfBe_beBytes hsma, hdec, bincode.deserialize_serialize hpay]
  have hhea : ¬ (persistedAuditLedgerMagic ++ (beBytes 2 persistedAuditLedgerSchemaV1 ++
      (beBytes 8 entries.length ++ ((headHash entries).toList ++ payload)))).length <
        persistedAuditLedgerHeaderLen := by
    simp only [List.length_append, beBytes_length, List.Vector.toList_length,
      persistedAuditLedgerHeaderLen]
    omega
  simp only [guard_bind_ok, failIf_ok, validateEntryCount]
  exact ⟨hhea, by simp, by omega, by simp [failIf, okOr, bind, Except.bind, pure, Except.pure]⟩

variable {bincode} in
lemma loadVerified_ok {fs : FileSystem} {path : String} {key : C.ed25519.SigningKey}
    {c : Chain C} (h : loadVerified bincode fs path key = .ok c) :
    c = Chain.fromEntries c.entries key ∧ c.entries.length ≤ maxAuditLedgerEntries ∧
      verifyChain C c.entries (C.ed25519.verifyingKey key) = .ok () := by
  unfold loadVerified at h
  split at h
  · cases h
    exact ⟨rfl, Nat.zero_le _, rfl⟩
  · simp only [bind_ok, okOr_ok, failIf_ok, mapError_ok, pure_ok] at h
    obtain ⟨bytes, -, -, -, entries, hent, ⟨⟩, hverify, rfl⟩ := h
    refine ⟨rfl, ?_, hverify⟩
    unfold decodeEntries at hent
    split at hent
    · simp only [decodeEnvelope, validateEntryCount, bind_ok, okOr_ok, failIf_ok,
        pure_ok, not_not, ne_eq] at hent
      obtain ⟨-, -, -, -, -, hcount, encoded, -, -, -, entries', -, -, hlen, -, -, rfl⟩ := hent
      have : entries'.length ≤ maxAuditLedgerEntries := by omega
      exact this
    · simp only [decodeLegacy, declaredBincodeVecLen, validateEntryCount, bind_ok, okOr_ok,
        failIf_ok, pure_ok, not_not, ne_eq] at hent
      obtain ⟨count, ⟨-, -, -, hcount, rfl⟩, entries', -, -, hlen, rfl⟩ := hent
      have : entries'.length ≤ maxAuditLedgerEntries := by omega
      exact this

variable {bincode} in
lemma loadVerified_of_renamed {fs : FileSystem} {path : String} {key : C.ed25519.SigningKey}
    {entries : List LedgerEntry} {bytes : Bytes} (h : encodeEnvelope bincode entries = .ok bytes)
    (hverify : verifyChain C entries (C.ed25519.verifyingKey key) = .ok ())
    (hrename : Renamed path bytes fs) :
    loadVerified bincode fs path key = .ok (Chain.fromEntries entries key) := by
  obtain ⟨hres, hnode⟩ := hrename
  obtain ⟨-, hlen, hmag, hdec⟩ := decodeEnvelope_of_encodeEnvelope h
  have hread : fs.readFile? path = some bytes := readFile?_eq_some.mpr ⟨hres, hnode⟩
  have hexi := pathExists_of_readFile? hread
  rw [loadVerified, if_neg (by simp [hexi])]
  simp only [bind_ok, okOr_ok, failIf_ok, mapError_ok, pure_ok]
  refine ⟨bytes, hread, (), by omega, entries, ?_, (), hverify, rfl⟩
  rw [decodeEntries, if_pos hmag]
  exact hdec

def persistEntriesAtomic (path : String) (entries : List LedgerEntry) (processId nanos : Nat) :
    Prog AuditLedgerStoreError Unit := do
  let bytes ← .ofExcept (encodeEnvelope bincode entries)
  persistOwnerOnlyAtomic path bytes processId nanos

end Complete

/-! ## The file of a compacted ledger -/

section Compacted

variable (json : TextFormat ConsentCompactedActiveStateV1)

def readBoundedJson {α : Type} (format : TextFormat α) (fs : FileSystem) (path : String)
    (maximumBytes : Nat) (label : String) : Except AuditLedgerStoreError α := do
  let bytes ← okOr (fs.readFile? path) .io
  failIf (maximumBytes < bytes.length)
    (.limitExceeded (label ++ " is larger than " ++ toString maximumBytes ++ " bytes"))
  okOr (format.fromSlice bytes) .continuityJson

section

variable {α : Type} {format : TextFormat α} {fs : FileSystem} {path : String} {maximumBytes : Nat}
  {label : String} {v : α}

lemma readBoundedJson_ok :
    readBoundedJson format fs path maximumBytes label = .ok v ↔ Named path ∧ ∃ bytes,
      fs.node? (pathOf path) = some (.file bytes) ∧ bytes.length ≤ maximumBytes ∧
      format.fromSlice bytes = some v := by
  simp only [readBoundedJson, bind_ok, okOr_ok, failIf_ok, not_lt, readFile?_eq_some,
    exists_const, and_assoc, exists_and_left]

lemma readBoundedJson_congr {fs' : FileSystem}
    (h : fs'.node? (pathOf path) = fs.node? (pathOf path)) :
    readBoundedJson format fs' path maximumBytes label =
      readBoundedJson format fs path maximumBytes label := by
  rw [readBoundedJson, readBoundedJson, readFile?_congr h]

end

def loadCompactedActiveState (fs : FileSystem) (path : String)
    (signingKey : C.ed25519.SigningKey) :
    Except AuditLedgerStoreError (ConsentCompactedActiveStateV1 × RestoredConsentStateV1 C) := do
  let state ← readBoundedJson json fs path maxAuditLedgerBytes "compacted consent active state"
  let restored ← (state.restoreState signingKey).mapError .compactedState
  pure (state, restored)

def encodeActiveState (state : ConsentCompactedActiveStateV1) :
    Except AuditLedgerStoreError Bytes := do
  let text ← okOr (json.toVec state) .continuityJson
  let bytes := text ++ [10]
  failIf (maxAuditLedgerBytes < bytes.length)
    (.limitExceeded (toString bytes.length ++ " serialized bytes exceeds maximum " ++
      toString maxAuditLedgerBytes))
  pure bytes

def persistCompactedActiveStateAtomic (path : String) (state : ConsentCompactedActiveStateV1)
    (processId nanos : Nat) : Prog AuditLedgerStoreError Unit := do
  let bytes ← .ofExcept (encodeActiveState json state)
  persistOwnerOnlyAtomic path bytes processId nanos

end Compacted

/-! ## Appending -/

structure AppendCall where
  event : ConsentEventRecord
  now : SystemTime
  unixNow : UInt64
  (processId nanos : Nat)

def worldEnv (faults : Call → Verdict) : Environment FileSystem Call := fun _ => ⟨id, faults⟩

section Append

variable {M : Type}

abbrev Persister (C : Crypto) (M : Type) :=
  AppendCall → M → Chain C → Prog AuditLedgerStoreError M

def completePersister (bincode : VecFormat LedgerEntry) (path : String) : Persister C Unit :=
  fun a _ chain => do
    .ofExcept (failIf (chain.baseCheckpoint.isSome = true)
      (.metadataMismatch "complete ledger persister received an anchored suffix"))
    persistEntriesAtomic bincode path chain.entries a.processId a.nanos

def compactedPersister (json : TextFormat ConsentCompactedActiveStateV1) (path : String) :
    Persister C ConsentCompactedActiveStateV1 :=
  fun a activation chain => do
    let next ← .ofExcept ((activation.advanceFromChain chain a.unixNow).mapError .compactedState)
    persistCompactedActiveStateAtomic json path next a.processId a.nanos
    pure next

def appendWith (persist : Persister C M) (a : AppendCall) (memory : M) (chain : Chain C) :
    Prog Empty
      (Except (TransactionalAppendError AuditLedgerStoreError) LedgerEntry × M × Chain C) :=
  match chain.append a.event a.now with
  | (.error e, chain') => pure (.error (.ledger e), memory, chain')
  | (.ok _, chain') => do
    match ← Program.attempt (persist a memory chain') with
    | .error err => pure (.error (.persist err), memory, chain'.pop)
    | .ok memory' =>
      pure (okOr chain'.entries.getLast? (.ledger .appendInvariant), memory', chain')

end Append

/-! ## What an append leaves in the store -/

/-- What is common to the two stores of a ledger, with their memory `M`: persisting encodes
memory and chain and replaces the file, and a load depends on the file alone and gives the
persisted memory and chain back. -/
structure LedgerStore (C : Crypto) (M : Type) where
  path : String
  load : FileSystem → Option (M × Chain C)
  encode : AppendCall → M → Chain C → Except AuditLedgerStoreError (Bytes × M)
  persist : Persister C M
  persist_eq : ∀ a m c, persist a m c = (do
    let encoded ← .ofExcept (encode a m c)
    persistOwnerOnlyAtomic path encoded.1 a.processId a.nanos
    pure encoded.2)
  load_congr : ∀ {fs fs'}, AgreesAt (pathOf path) fs fs' → load fs' = load fs
  load_renamed : ∀ {fs fs' a m c entry bytes m'}, load fs = some (m, c) →
    c.nextEntry a.event a.now = .ok entry → encode a m (c.push entry) = .ok (bytes, m') →
    Renamed path bytes fs' → load fs' = some (m', c.push entry)

variable {a : AppendCall} {c : Chain C} {entry : LedgerEntry}

namespace LedgerStore

variable {M : Type} (S : LedgerStore C M)

def append (a : AppendCall) (faults : Call → Verdict) (memory : M × Chain C) (fs : FileSystem) :
    Ending FileSystem Empty
      (Except (TransactionalAppendError AuditLedgerStoreError) LedgerEntry × M × Chain C) :=
  (appendWith S.persist a memory.1 memory.2).run (worldEnv faults) fs

structure Publishes (a : AppendCall) (memory : M × Chain C) (fs : FileSystem)
    (entry : LedgerEntry) (bytes : Bytes) (m' : M) : Prop where
  next : memory.2.nextEntry a.event a.now = .ok entry
  encoded : S.encode a memory.1 (memory.2.push entry) = .ok (bytes, m')
  writable : Writable fs S.path (temporaryPath S.path a.processId a.nanos) bytes

variable {S} {m m' : M} {n : Nat} {bytes : Bytes}

lemma wp_append_unpublished
    (h : ¬ (ReachesRename faults ∧ ∃ entry bytes m', S.Publishes a (m, c) fs entry bytes m')) :
    wp (fun _ => World faults) (appendWith S.persist a m c)
      ⟨fun r fs' _ => (∃ e, r = (.error e, m, c)) ∧ AgreesAt (pathOf S.path) fs fs',
        fun _ _ _ => False, AgreesAt (pathOf S.path) fs⟩ fs n := by
  unfold appendWith
  cases hnext : c.nextEntry a.event a.now with
  | error e =>
    rw [Chain.append_of_error hnext]
    exact wp_pure ⟨⟨_, rfl⟩, .refl⟩
  | ok entry =>
    rw [Chain.append_of_nextEntry hnext]
    refine wp_bind (wp_attempt ?_)
    rw [S.persist_eq]
    refine wp_bind (wp_ofExcept ?_)
    -- the rollback takes the pushed entry off again
    have hrol : ∀ e fs' k, AgreesAt (pathOf S.path) fs fs' →
        wp (fun _ => World faults) (pure (.error (.persist e), m, (c.push entry).pop) :
          Prog Empty (Except (TransactionalAppendError AuditLedgerStoreError) LedgerEntry × M ×
            Chain C)) ⟨fun r fs' _ => (∃ e, r = (.error e, m, c)) ∧ AgreesAt (pathOf S.path) fs fs',
            fun _ _ _ => False, AgreesAt (pathOf S.path) fs⟩ fs' k := by
      intro e fs' k hag
      rw [Chain.pop_push]
      exact wp_pure ⟨⟨_, rfl⟩, hag⟩
    cases henc : S.encode a m (c.push entry) with
    | error e => exact hrol e fs n .refl
    | ok encoded =>
      obtain ⟨bytes, m'⟩ := encoded
      refine wp_bind (wp_mono (wp_persist_before_rename ?_) ?_ ?_ ?_)
      · rintro ⟨hrea, hwri⟩
        exact h ⟨hrea, entry, bytes, m', hnext, henc, hwri⟩
      · exact fun _ _ _ => False.elim
      · exact fun e fs' k hag => hrol e fs' k hag
      · exact fun fs' hag => hag

lemma wp_append_published (hpublish : S.Publishes a (m, c) fs entry bytes m')
    (hreaches : ReachesRename faults) : wp (fun _ => World faults) (appendWith S.persist a m c)
      ⟨fun r fs' _ => Renamed S.path bytes fs' ∧
          ((r = (.ok entry, m', c.push entry) ∧ faults .syncDir = .proceed) ∨
            (∃ e, r = (.error e, m, c)) ∧ LosesDirectorySync faults), fun _ _ _ => False,
        fun fs' => Renamed S.path bytes fs' ∧
          ∃ k, faults .syncDir = .crash k ∨ faults .unlink = .crash k⟩ fs n := by
  obtain ⟨hnext, henc, hwri⟩ := hpublish
  unfold appendWith
  rw [Chain.append_of_nextEntry hnext]
  refine wp_bind (wp_attempt ?_)
  rw [S.persist_eq]
  refine wp_bind (wp_ofExcept ?_)
  rw [henc]
  refine wp_bind (wp_mono (wp_persist_after_rename hreaches hwri) ?_ ?_ ?_)
  · rintro _ fs' _ ⟨hren, hsync⟩
    refine wp_pure (wp_pure ⟨hren, .inl ⟨?_, hsync⟩⟩)
    simp [okOr]
  · rintro e fs' _ ⟨hren, hsync⟩
    refine wp_pure ⟨hren, .inr ⟨⟨.persist e, ?_⟩, hsync⟩⟩
    simp
  · exact fun fs' h => h

/-- A call that returns an error leaves the ledger in memory and on disk as it was. -/
def ErrorKeepsStore (S : LedgerStore C M) (a : AppendCall) (faults : Call → Verdict)
    (memory : M × Chain C) (fs : FileSystem) : Prop :=
  ∀ e memory', (S.append a faults memory fs).outcome = .done (.error e, memory') →
    memory' = memory ∧ S.load (S.append a faults memory fs).state = some memory

/-- Without a fault the call returns an entry. -/
def Succeeds (S : LedgerStore C M) (a : AppendCall) (memory : M × Chain C) (fs : FileSystem) :
    Prop :=
  ∃ entry memory', (S.append a (fun _ => .proceed) memory fs).outcome = .done (.ok entry, memory')

lemma push_ne (c : Chain C) (entry : LedgerEntry) : c.push entry ≠ c := by
  intro h
  have := congrArg (fun d => d.entries.length) h
  simp at this

lemma world_worldEnv (n : Nat) : World faults (worldEnv faults n) := rfl

lemma append_unpublished
    (h : ¬ (ReachesRename faults ∧ ∃ entry bytes m', S.Publishes a (m, c) fs entry bytes m')) :
    AgreesAt (pathOf S.path) fs (S.append a faults (m, c) fs).state ∧
      ((S.append a faults (m, c) fs).outcome = .crashed ∨
        ∃ e, (S.append a faults (m, c) fs).outcome = .done (.error e, m, c)) := by
  obtain ⟨_, hout, ⟨e, rfl⟩, hag⟩ | ⟨e, -⟩ | ⟨hout, hag⟩ :=
    cases_of_wp (wp_append_unpublished h) world_worldEnv
  · exact ⟨hag, .inr ⟨e, hout⟩⟩
  · exact e.elim
  · exact ⟨hag, .inl hout⟩

lemma append_published (hpublish : S.Publishes a (m, c) fs entry bytes m')
    (hreaches : ReachesRename faults) : Renamed S.path bytes (S.append a faults (m, c) fs).state ∧
      (((S.append a faults (m, c) fs).outcome = .crashed ∧
          ∃ k, faults .syncDir = .crash k ∨ faults .unlink = .crash k) ∨
        ((S.append a faults (m, c) fs).outcome = .done (.ok entry, m', c.push entry) ∧
          faults .syncDir = .proceed) ∨
        (∃ e, (S.append a faults (m, c) fs).outcome = .done (.error e, m, c)) ∧
          LosesDirectorySync faults) := by
  obtain ⟨_, hout, hren, ⟨rfl, hsync⟩ | ⟨⟨e, rfl⟩, hlos⟩⟩ | ⟨e, -⟩ | ⟨hout, hren, hcr⟩ :=
    cases_of_wp (wp_append_published hpublish hreaches) world_worldEnv
  · exact ⟨hren, .inr (.inl ⟨hout, hsync⟩)⟩
  · exact ⟨hren, .inr (.inr ⟨⟨e, hout⟩, hlos⟩)⟩
  · exact e.elim
  · exact ⟨hren, .inl ⟨hout, hcr⟩⟩

lemma succeeds_iff :
    S.Succeeds a (m, c) fs ↔ ∃ entry bytes m', S.Publishes a (m, c) fs entry bytes m' := by
  constructor
  · rintro ⟨entry, memory', hok⟩
    by_contra hnone
    have hunp : ¬ (ReachesRename (fun _ => .proceed) ∧
        ∃ entry bytes m', S.Publishes a (m, c) fs entry bytes m') := fun h => hnone h.2
    obtain ⟨-, hcr | ⟨e, herror⟩⟩ := append_unpublished hunp
    · rw [hok] at hcr
      cases hcr
    · rw [hok] at herror
      cases herror
  · rintro ⟨entry, bytes, m', hpub⟩
    have hrea : ReachesRename (fun _ => .proceed) := fun _ _ => rfl
    obtain ⟨-, ⟨-, k, hk | hk⟩ | ⟨hok, -⟩ | ⟨-, -, ⟨k, hk⟩, -⟩⟩ := append_published hpub hrea
    · cases hk
    · cases hk
    · exact ⟨entry, _, hok⟩
    · cases hk

lemma errorKeepsStore_iff (hload : S.load fs = some (m, c)) :
    S.ErrorKeepsStore a faults (m, c) fs ↔
      ¬ (LosesDirectorySync faults ∧ S.Succeeds a (m, c) fs) := by
  by_cases hcase : ReachesRename faults ∧ ∃ entry bytes m', S.Publishes a (m, c) fs entry bytes m'
  · obtain ⟨hrea, entry, bytes, m', hpub⟩ := hcase
    obtain ⟨hren, hend⟩ := append_published hpub hrea
    have hsto := S.load_renamed hload hpub.next hpub.encoded hren
    constructor
    · rintro hkee ⟨⟨-, ⟨k, hk⟩, hunl⟩, -⟩
      rcases hend with ⟨-, k', hcr | hcr⟩ | ⟨-, hpro⟩ | ⟨⟨e, herror⟩, -⟩
      · rw [hk] at hcr
        cases hcr
      · exact hunl k' hcr
      · rw [hk] at hpro
        cases hpro
      · have h := (hkee e _ herror).2
        rw [hsto] at h
        exact push_ne c entry (congrArg Prod.snd (Option.some.inj h))
    · intro hsafe e memory' herror
      rcases hend with ⟨hcr, -⟩ | ⟨hok, -⟩ | ⟨-, hlos⟩
      · rw [herror] at hcr
        cases hcr
      · rw [herror] at hok
        cases hok
      · exact absurd ⟨hlos, succeeds_iff.mpr ⟨entry, bytes, m', hpub⟩⟩ hsafe
  · obtain ⟨hag, hend⟩ := append_unpublished hcase
    constructor
    · rintro - ⟨hlos, hsuc⟩
      exact hcase ⟨hlos.1, succeeds_iff.mp hsuc⟩
    · intro _ e memory' herror
      rcases hend with hcr | ⟨e', herror'⟩
      · rw [herror] at hcr
        cases hcr
      · rw [herror] at herror'
        cases herror'
        exact ⟨rfl, (S.load_congr hag).trans hload⟩

/-! ## Runs with crashes and restarts -/

def process (S : LedgerStore C M) :
    Process FileSystem (M × Chain C) (AppendCall × (Call → Verdict)) where
  load := S.load
  call a memory fs :=
    match S.append a.1 a.2 memory fs with
    | ⟨.done (_, memory'), fs', _⟩ => (some memory', fs')
    | ⟨.failed e, _, _⟩ => e.elim
    | ⟨.crashed, fs', _⟩ => (none, fs')

lemma process_call {memory : M × Chain C} : S.process.call (a, faults) memory fs =
      (match (S.append a faults memory fs).outcome with
        | .done (_, memory') => some memory'
        | .failed e => e.elim
        | .crashed => none,
        (S.append a faults memory fs).state) := by
  simp only [process]
  rcases S.append a faults memory fs with ⟨_ | e | _, fs', n⟩
  · rfl
  · exact e.elim
  · rfl

lemma process_call_cases {alive : Option (M × Chain C)} {disk : FileSystem}
    (h : S.process.call (a, faults) (m, c) fs = (alive, disk)) :
    ((∀ memory ∈ alive, memory = (m, c)) ∧ AgreesAt (pathOf S.path) fs disk) ∨
      ∃ entry bytes m', S.Publishes a (m, c) fs entry bytes m' ∧ Renamed S.path bytes disk ∧
        ((∀ memory ∈ alive, memory = (m', c.push entry)) ∨
          alive = some (m, c) ∧ LosesDirectorySync faults) := by
  rw [process_call] at h
  by_cases hcase : ReachesRename faults ∧ ∃ entry bytes m', S.Publishes a (m, c) fs entry bytes m'
  · obtain ⟨hrea, entry, bytes, m', hpub⟩ := hcase
    obtain ⟨hren, hend⟩ := append_published hpub hrea
    refine .inr ⟨entry, bytes, m', hpub, ?_⟩
    rcases hend with ⟨hcr, -⟩ | ⟨hok, -⟩ | ⟨⟨e, herror⟩, hlos⟩
    · rw [hcr] at h
      cases h
      exact ⟨hren, .inl nofun⟩
    · rw [hok] at h
      cases h
      exact ⟨hren, .inl fun _ hmem => (Option.some.inj hmem).symm⟩
    · rw [herror] at h
      cases h
      exact ⟨hren, .inr ⟨rfl, hlos⟩⟩
  · obtain ⟨hag, hcr | ⟨e, herror⟩⟩ := append_unpublished hcase
    · rw [hcr] at h
      cases h
      exact .inl ⟨nofun, hag⟩
    · rw [herror] at h
      cases h
      exact .inl ⟨fun _ hmem => (Option.some.inj hmem).symm, hag⟩

lemma process_call_advances {version : M × Chain C → Nat}
    (hversion : ∀ {entry bytes m'}, S.Publishes a (m, c) fs entry bytes m' →
      version (m, c) < version (m', c.push entry))
    (hload : S.load fs = some (m, c)) (hsafe : ¬ LosesDirectorySync faults) :
    S.process.Advances version (m, c) (S.process.call (a, faults) (m, c) fs) := by
  rcases process_call_cases rfl with ⟨hsame, hag⟩ | ⟨entry, bytes, m', hpub, hren, hnew | hlost⟩
  · exact ⟨_, (S.load_congr hag).trans hload, .inl rfl, hsame⟩
  · exact ⟨_, S.load_renamed hload hpub.next hpub.encoded hren, .inr (hversion hpub), hnew⟩
  · exact absurd hlost.2 hsafe

lemma run_keeps {I : M × Chain C → Prop} (hload : ∀ fs memory, S.load fs = some memory → I memory)
    (h : ∀ {a memory fs entry bytes m'}, I memory → S.Publishes a memory fs entry bytes m' →
      I (m', memory.2.push entry))
    (fs : FileSystem) (moves : List (Process.Move (AppendCall × (Call → Verdict)))) :
    ∀ memory ∈ (S.process.run (none, fs) moves).1, I memory := by
  refine foldl_invariant
    (I := fun state : Option (M × Chain C) × FileSystem => ∀ memory ∈ state.1, I memory) ?_ moves
    nofun
  rintro ⟨alive, disk⟩ move hI memory hmem
  cases move with
  | restart => exact hload disk memory hmem
  | call call =>
    obtain ⟨a, faults⟩ := call
    cases alive with
    | none => cases hmem
    | some before =>
      have hbefore : I before := hI before rfl
      change memory ∈ (S.process.call (a, faults) before disk).1 at hmem
      rcases process_call_cases rfl with ⟨hsame, -⟩ | ⟨entry, bytes, m', hpub, -, hnew | hlost⟩
      · exact hsame memory hmem ▸ hbefore
      · exact hnew memory hmem ▸ h hbefore hpub
      · cases hlost.1.symm.trans hmem
        exact hbefore

end LedgerStore

/-! ## The two stores -/

variable {bincode : VecFormat LedgerEntry}

section Stores

lemma toOption_map_eq_some {ε α β : Type} {x : Except ε α} {f : α → β} {b : β} :
    x.toOption.map f = some b ↔ ∃ a, x = .ok a ∧ f a = b := by
  cases x <;> simp [Except.toOption]

def completeStore (hcorrect : C.ed25519.Correct) (bincode : VecFormat LedgerEntry) (path : String)
    (key : C.ed25519.SigningKey) : LedgerStore C Unit where
  path := path
  load fs := (loadVerified bincode fs path key).toOption.map (fun c => ((), c))
  encode _ _ c := do
    failIf (c.baseCheckpoint.isSome = true)
      (.metadataMismatch "complete ledger persister received an anchored suffix")
    let bytes ← encodeEnvelope bincode c.entries
    pure (bytes, ())
  persist := completePersister bincode path
  persist_eq := by
    intro a m c
    simp only [completePersister, persistEntriesAtomic, Program.ofExcept_bind,
      Program.ofExcept_pure, bind_assoc, pure_bind, bind_pure_unit]
  load_congr := by
    intro fs fs' h
    unfold loadVerified
    rw [h.pathExists_eq, readFile?_congr h.1]
  load_renamed := by
    intro fs fs' a m c entry bytes m' hload hnext hencode hrenamed
    obtain ⟨c', hc', hpair⟩ := toOption_map_eq_some.mp hload
    cases hpair
    obtain ⟨hgenesis, -, hverify⟩ := loadVerified_ok hc'
    simp only [bind_ok, pure_ok, Prod.mk.injEq] at hencode
    obtain ⟨-, -, bytes', hbytes, rfl, -⟩ := hencode
    -- the new entry is linked to the verified ones
    have hlinked : c.ResidentLinked := by
      rw [hgenesis]
      exact verifyChain_ok.mp hverify
    have hpushed := Chain.nextEntry_linked hcorrect hnext hlinked
    have hchain : c.push entry = Chain.fromEntries (c.push entry).entries key := by
      rw [hgenesis]
      rfl
    rw [hchain] at hpushed
    have hverified : verifyChain C (c.push entry).entries (C.ed25519.verifyingKey key) = .ok () :=
      verifyChain_ok.mpr hpushed
    refine toOption_map_eq_some.mpr ⟨c.push entry, ?_, rfl⟩
    rw [loadVerified_of_renamed hbytes hverified hrenamed, ← hchain]

lemma loadCompactedActiveState_ok {json : TextFormat ConsentCompactedActiveStateV1}
    {fs : FileSystem} {path : String} {key : C.ed25519.SigningKey}
    {state : ConsentCompactedActiveStateV1} {restored : RestoredConsentStateV1 C}
    (h : loadCompactedActiveState json fs path key = .ok (state, restored)) :
    StateAccepted C (C.ed25519.verifyingKey key) state ∧ restored.chain = .fromCheckpointSuffix
        state.activationSnapshot.recoverySummary.throughCheckpoint state.residentEntries key := by
  simp only [loadCompactedActiveState, bind_ok, mapError_ok, pure_ok, Prod.mk.injEq] at h
  obtain ⟨state', -, restored', hres, rfl, rfl⟩ := h
  obtain ⟨hverify, rfl⟩ := restoreState_ok.mp hres
  exact ⟨state_verify_ok.mp hverify, rfl⟩

def compactedStore (json : TextFormat ConsentCompactedActiveStateV1) (path : String)
    (key : C.ed25519.SigningKey) : LedgerStore C ConsentCompactedActiveStateV1 where
  path := path
  load fs := (loadCompactedActiveState json fs path key).toOption.map
    (fun loaded => (loaded.1, loaded.2.chain))
  encode a activation c := do
    let next ← (activation.advanceFromChain c a.unixNow).mapError .compactedState
    let bytes ← encodeActiveState json next
    pure (bytes, next)
  persist := compactedPersister json path
  persist_eq := by
    intro a m c
    simp only [compactedPersister, persistCompactedActiveStateAtomic, Program.ofExcept_bind,
      Program.ofExcept_pure, bind_assoc, pure_bind]
  load_congr := by
    intro fs fs' h
    rw [loadCompactedActiveState, loadCompactedActiveState, readBoundedJson_congr h.1]
  load_renamed := by
    intro fs fs' a m c entry bytes m' hload hnext hencode hrenamed
    obtain ⟨⟨state, restored⟩, hloaded, hpair⟩ := toOption_map_eq_some.mp hload
    cases hpair
    obtain ⟨haccepted, hchain⟩ := loadCompactedActiveState_ok hloaded
    simp only [bind_ok, mapError_ok, pure_ok, Prod.mk.injEq] at hencode
    obtain ⟨next, hadvance, bytes', hbytes, rfl, rfl⟩ := hencode
    obtain ⟨hsnapshot, -, -, hresident, -, -⟩ := advance_of_ok hadvance
    have hnextAccepted := haccepted.advance hadvance
    simp only [encodeActiveState, bind_ok, okOr_ok, failIf_ok, pure_ok, Nat.not_lt] at hbytes
    obtain ⟨text, htext, ⟨⟩, hlen, rfl⟩ := hbytes
    have hread : readBoundedJson json fs' path maxAuditLedgerBytes
        "compacted consent active state" = .ok next :=
      readBoundedJson_ok.mpr ⟨hrenamed.1, _, hrenamed.2, hlen, json.fromSlice_toVec htext⟩
    obtain ⟨restored', hrestored, hchain'⟩ : ∃ restored', next.restoreState key = .ok restored' ∧
        restored'.chain = restored.chain.push entry := by
      refine ⟨_, restoreState_ok.mpr ⟨state_verify_ok.mpr hnextAccepted, rfl⟩, ?_⟩
      simp only [hsnapshot, hresident, hchain]
      rfl
    refine toOption_map_eq_some.mpr ⟨(next, restored'), ?_, by rw [hchain']⟩
    simp only [loadCompactedActiveState, bind_ok, mapError_ok, pure_ok, Prod.mk.injEq]
    exact ⟨next, hread, restored', hrestored, rfl, rfl⟩

section Versions

variable {hcorrect : C.ed25519.Correct} {json : TextFormat ConsentCompactedActiveStateV1}
  {key : C.ed25519.SigningKey} {bytes : Bytes}

lemma fromEntries_entryCount {entries : List LedgerEntry}
    (h : entries.length ≤ maxAuditLedgerEntries) :
    (Chain.fromEntries entries key).entryCount.toNat = entries.length := by
  have hmax : maxAuditLedgerEntries < 2 ^ 64 := by decide
  have hfit : (0 : UInt64).toNat + entries.length < 2 ^ 64 := by
    rw [UInt64.toNat_zero]
    omega
  have hcount := toNat_saturatingAdd hfit
  rw [UInt64.toNat_zero, Nat.zero_add] at hcount
  exact hcount

lemma completeStore_count_lt (hload : (completeStore hcorrect bincode path key).load fs =
      some ((), c))
    (h : (completeStore hcorrect bincode path key).Publishes a ((), c) fs entry bytes ()) :
    c.entryCount.toNat < (c.push entry).entryCount.toNat := by
  obtain ⟨c', hc', hpair⟩ := toOption_map_eq_some.mp hload
  cases hpair
  obtain ⟨hgen, hlen, -⟩ := loadVerified_ok hc'
  obtain ⟨-, henc, -⟩ := h
  simp only [completeStore, bind_ok, pure_ok, Prod.mk.injEq] at henc
  obtain ⟨-, -, bytes', hbytes, -, -⟩ := henc
  have hlen' := (decodeEnvelope_of_encodeEnvelope hbytes).1
  have hpush : c.push entry = Chain.fromEntries (c.push entry).entries key := by
    rw [hgen]
    rfl
  rw [hgen, fromEntries_entryCount hlen, ← hgen, hpush, fromEntries_entryCount hlen']
  simp

lemma stateAccepted_count {pk : C.ed25519.VerifyingKey} {state : ConsentCompactedActiveStateV1}
    (key : C.ed25519.SigningKey) (h : StateAccepted C pk state) :
    (Chain.fromCheckpointSuffix state.activationSnapshot.recoverySummary.throughCheckpoint
      state.residentEntries key).entryCount.toNat =
      state.activationSnapshot.recoverySummary.throughCheckpoint.entryCount.toNat +
        state.residentEntries.length := by
  obtain ⟨-, -, -, -, hcount, -, -⟩ := verifyCheckpointExtension_ok.mp h.extends_
  have hlt := state.currentCheckpoint.entryCount.toNat_lt
  refine toNat_saturatingAdd ?_
  change state.activationSnapshot.recoverySummary.throughCheckpoint.entryCount.toNat +
    state.residentEntries.length < 2 ^ 64
  omega

lemma compactedStore_later {state next : ConsentCompactedActiveStateV1}
    (hload : (compactedStore json path key).load fs = some (state, c))
    (h : (compactedStore json path key).Publishes a (state, c) fs entry bytes next) :
    state.generation.toNat < next.generation.toNat ∧
      c.entryCount.toNat < (c.push entry).entryCount.toNat := by
  obtain ⟨⟨loaded, restored⟩, hloa, hpair⟩ := toOption_map_eq_some.mp hload
  simp only [Prod.mk.injEq] at hpair
  obtain ⟨rfl, rfl⟩ := hpair
  obtain ⟨hacc, hcha⟩ := loadCompactedActiveState_ok hloa
  obtain ⟨-, henc, -⟩ := h
  simp only [compactedStore, bind_ok, mapError_ok, pure_ok, Prod.mk.injEq] at henc
  obtain ⟨next', hadv, bytes', -, -, rfl⟩ := henc
  obtain ⟨hsna, -, hgen, hres, -, -⟩ := advance_of_ok hadv
  refine ⟨by omega, ?_⟩
  have hcount := stateAccepted_count key hacc
  have hcount' := stateAccepted_count key (hacc.advance hadv)
  rw [hsna, hres] at hcount'
  have hpush : (restored.chain.push entry) = Chain.fromCheckpointSuffix
      loaded.activationSnapshot.recoverySummary.throughCheckpoint
      (restored.chain.push entry).entries key := by
    rw [hcha]
    rfl
  rw [← hcha] at hcount
  rw [← hpush] at hcount'
  have hlen : (restored.chain.push entry).entries.length = loaded.residentEntries.length + 1 := by
    rw [hcha]
    simp [Chain.fromCheckpointSuffix]
  omega

end Versions

/-- **A failed append.** For both stores: an append that returns an error leaves the file for the
chain it rolled back to, whatever failed, except when the append would have succeeded and only the
flush of the directory behind the rename failed. In runs without that, with any other faults,
crashes and restarts, a living process holds what is in the file; under one count there is ever one
head, and under one generation one compacted state. -/
theorem failed_append_keeps_ledger (hcorrect : C.ed25519.Correct)
    (bincode : VecFormat LedgerEntry) (json : TextFormat ConsentCompactedActiveStateV1)
    (path : String) (key : C.ed25519.SigningKey) :
    (∀ a faults memory fs, (completeStore hcorrect bincode path key).load fs = some memory →
      ((completeStore hcorrect bincode path key).ErrorKeepsStore a faults memory fs ↔
        ¬ (LosesDirectorySync faults ∧
          (completeStore hcorrect bincode path key).Succeeds a memory fs))) ∧
    (∀ a faults memory fs, (compactedStore json path key).load fs = some memory →
      ((compactedStore json path key).ErrorKeepsStore a faults memory fs ↔
        ¬ (LosesDirectorySync faults ∧ (compactedStore json path key).Succeeds a memory fs))) ∧
    (∀ fs earlier later,
      (∀ a faults, .call (a, faults) ∈ earlier ++ later → ¬ LosesDirectorySync faults) →
      let P := (completeStore hcorrect bincode path key).process
      P.InStep (P.run (none, fs) (earlier ++ later)) ∧
      ∀ m m', P.load (P.run (none, fs) earlier).2 = some m →
        P.load (P.run (none, fs) (earlier ++ later)).2 = some m' →
        m.2.entryCount = m'.2.entryCount → m.2.lastHash = m'.2.lastHash) ∧
    (∀ fs earlier later,
      (∀ a faults, .call (a, faults) ∈ earlier ++ later → ¬ LosesDirectorySync faults) →
      let P := (compactedStore json path key).process
      P.InStep (P.run (none, fs) (earlier ++ later)) ∧
      ∀ m m', P.load (P.run (none, fs) earlier).2 = some m →
        P.load (P.run (none, fs) (earlier ++ later)).2 = some m' →
        (m.1.generation = m'.1.generation → m.1 = m'.1) ∧
        (m.2.entryCount = m'.2.entryCount → m.2.lastHash = m'.2.lastHash)) := by
  refine ⟨?_, ?_, ?_, ?_⟩
  · rintro a faults ⟨m, c⟩ fs hload
    exact LedgerStore.errorKeepsStore_iff hload
  · rintro a faults ⟨m, c⟩ fs hload
    exact LedgerStore.errorKeepsStore_iff hload
  · intro fs earlier later hsafe P
    have hcalls : P.CallsAdvance (fun m => m.2.entryCount.toNat) (earlier ++ later) := by
      rintro ⟨a, faults⟩ hmem ⟨⟨⟩, c⟩ fs hload
      exact LedgerStore.process_call_advances (fun h => completeStore_count_lt hload h) hload
        (hsafe a faults hmem)
    obtain ⟨hinstep, hone⟩ := Process.run_versions fs hcalls
    refine ⟨hinstep, fun m m' hm hm' hcount => ?_⟩
    rw [hone m m' hm hm' (congrArg UInt64.toNat hcount)]
  · intro fs earlier later hsafe P
    have hgenerations : P.CallsAdvance (fun m => m.1.generation.toNat) (earlier ++ later) := by
      rintro ⟨a, faults⟩ hmem ⟨state, c⟩ fs hload
      exact LedgerStore.process_call_advances (fun h => (compactedStore_later hload h).1) hload
        (hsafe a faults hmem)
    have hcounts : P.CallsAdvance (fun m => m.2.entryCount.toNat) (earlier ++ later) := by
      rintro ⟨a, faults⟩ hmem ⟨state, c⟩ fs hload
      exact LedgerStore.process_call_advances (fun h => (compactedStore_later hload h).2) hload
        (hsafe a faults hmem)
    obtain ⟨hinstep, honeState⟩ := Process.run_versions fs hgenerations
    obtain ⟨-, honeHead⟩ := Process.run_versions fs hcounts
    refine ⟨hinstep, fun m m' hm hm' => ⟨fun hgeneration => ?_, fun hcount => ?_⟩⟩
    · rw [honeState m m' hm hm' (congrArg UInt64.toNat hgeneration)]
    · rw [honeHead m m' hm hm' (congrArg UInt64.toNat hcount)]

end Stores

def emptyDisk : FileSystem :=
  { dirs := fun p => if p = [] then some ⟨0o755, fun _ => none⟩ else none
    removals := []
    root := rfl
    closed := by simp }

def sampleAppend (kind : ConsentKind) : AppendCall := ⟨sampleEvent kind, sampleTime, 60, 1, 2⟩

def failing (call : Call) : Call → Verdict := fun c => if c = call then .fail 0 else .proceed

def sampleBincode : VecFormat LedgerEntry :=
  .tabled [[], [sampleEntry (sampleKey 7) 0 zeroHash .approval],
    [sampleEntry (sampleKey 7) 0 zeroHash .denial]]

def sampleCompleteStore : LedgerStore sampleCrypto Unit :=
  completeStore (C := sampleCrypto) (keyedScheme_correct _) sampleBincode "/ledger"
    (sampleKey 7).val

def sampleMoves (call : Call) : List (Process.Move (AppendCall × (Call → Verdict))) :=
  [.restart, .call (sampleAppend .approval, failing call),
    .call (sampleAppend .denial, fun _ => .proceed)]

lemma not_losesDirectorySync_failing {call : Call} (h : call ≠ .syncDir) :
    ¬ LosesDirectorySync (failing call) := by
  rintro ⟨-, ⟨k, hk⟩, -⟩
  simp [failing, h.symm] at hk

/-- A rename that fails leaves the empty ledger, and the later denial is the only first entry. -/
theorem failed_append_keeps_ledger_sample :
    let P := sampleCompleteStore.process
    sampleCompleteStore.ErrorKeepsStore (sampleAppend .approval) (failing .rename)
      ((), Chain.new (C := sampleCrypto) (sampleKey 7).val) emptyDisk ∧
    P.InStep (P.run (none, emptyDisk) (sampleMoves .rename)) ∧
    (P.load (P.run (none, emptyDisk) (sampleMoves .rename)).2).map (fun m => m.2.entryCount) =
      some 1 := by
  have hall := failed_append_keeps_ledger (C := sampleCrypto) (keyedScheme_correct _) sampleBincode
    (.tabled []) "/ledger" (sampleKey 7).val
  have hsafe : ¬ LosesDirectorySync (failing .rename) := not_losesDirectorySync_failing (by decide)
  refine ⟨?_, ?_, by decide +kernel⟩
  · exact (hall.1 (sampleAppend .approval) (failing .rename) _ emptyDisk rfl).mpr
      (fun h => hsafe h.1)
  · refine (hall.2.2.1 emptyDisk (sampleMoves .rename) [] ?_).1
    intro a faults hmem
    simp only [List.append_nil, sampleMoves, List.mem_cons, List.not_mem_nil, or_false,
      reduceCtorEq, false_or, Process.Move.call.injEq, Prod.mk.injEq] at hmem
    rcases hmem with ⟨-, rfl⟩ | ⟨-, rfl⟩
    · exact hsafe
    · rintro ⟨-, ⟨k, hk⟩, -⟩
      cases hk

/-- When only the flush of the directory fails, the entry is off the chain and in the file, and
the next append puts another head in the file under the same count. -/
theorem unflushed_append_shows_two_heads :
    let P := sampleCompleteStore.process
    let failed := P.run (none, emptyDisk) ((sampleMoves .syncDir).take 2)
    let later := P.run (none, emptyDisk) (sampleMoves .syncDir)
    failed.1.map (fun m => m.2.entryCount) = some 0 ∧
      (P.load failed.2).map (fun m => m.2.entryCount) = some 1 ∧
      (P.load later.2).map (fun m => m.2.entryCount) = some 1 ∧
      (P.load failed.2).map (fun m => m.2.lastHash) ≠
        (P.load later.2).map (fun m => m.2.lastHash) := by
  decide +kernel

/-! ## Two formats of one file -/

section Formats

lemma decodeLegacy_of_magic {bytes : Bytes} (h : persistedAuditLedgerMagic <+: bytes)
    (entries : List LedgerEntry) : decodeLegacy bincode bytes ≠ .ok entries := by
  obtain ⟨rest, rfl⟩ := h
  have hfirst : (persistedAuditLedgerMagic ++ rest).take 8 = persistedAuditLedgerMagic.take 8 :=
    List.take_append_of_le_length (by decide)
  have hlar : maxAuditLedgerEntries < natOfLe (persistedAuditLedgerMagic.take 8) := by decide
  intro hleg
  simp only [decodeLegacy, declaredBincodeVecLen, validateEntryCount, bind_ok, failIf_ok,
    pure_ok, hfirst] at hleg
  obtain ⟨-, ⟨-, -, -, hcount, -⟩, -⟩ := hleg
  exact hcount hlar

lemma wp_persistEntriesAtomic {path : String} {entries : List LedgerEntry}
    {processId nanos : Nat} {faults : Call → Verdict} {fs : FileSystem} {n : Nat} :
    wp (fun _ => World faults) (persistEntriesAtomic bincode path entries processId nanos)
      ⟨fun _ fs' _ => ∃ bytes, encodeEnvelope bincode entries = .ok bytes ∧ Renamed path bytes fs',
        fun _ _ _ => True, fun _ => True⟩ fs n := by
  refine wp_bind (wp_ofExcept ?_)
  cases hbytes : encodeEnvelope bincode entries with
  | error e => trivial
  | ok bytes =>
    by_cases hpast : ReachesRename faults ∧
        Writable fs path (temporaryPath path processId nanos) bytes
    · exact wp_mono (wp_persist_after_rename hpast.1 hpast.2) (fun _ _ _ h => ⟨bytes, rfl, h.1⟩)
        (fun _ _ _ _ => trivial) (fun _ _ => trivial)
    · exact wp_mono (wp_persist_before_rename hpast) (fun _ _ _ => False.elim)
        (fun _ _ _ _ => trivial) (fun _ _ => trivial)

/-- **The file reads back.** Entries that verify and were written are the ledger that is loaded
from the written file. Of the two formats no bytes are read by both readers: what the reader of
the old format accepts has no magic and is read as old, and what has the magic is read as new and
refused by the reader of the old format. -/
theorem ledger_file_reads_back (bincode : VecFormat LedgerEntry) (path : String)
    (entries : List LedgerEntry) (key : C.ed25519.SigningKey) (processId nanos : Nat)
    (faults : Call → Verdict) (fs : FileSystem) :
    (verifyChain C entries (C.ed25519.verifyingKey key) = .ok () →
      ((persistEntriesAtomic bincode path entries processId nanos).run (worldEnv faults)
        fs).outcome = .done () →
      loadVerified bincode ((persistEntriesAtomic bincode path entries processId nanos).run
        (worldEnv faults) fs).state path key = .ok (Chain.fromEntries entries key)) ∧
    (∀ bytes old new, decodeLegacy bincode bytes = .ok old →
      persistedAuditLedgerMagic <+: bytes → decodeEnvelope bincode bytes = .ok new → old = new) ∧
    (∀ bytes old, decodeLegacy bincode bytes = .ok old →
      ¬ persistedAuditLedgerMagic <+: bytes ∧ decodeEntries bincode bytes = .ok old) ∧
    (∀ bytes, encodeEnvelope bincode entries = .ok bytes →
      decodeEntries bincode bytes = .ok entries ∧
        ∀ old, decodeLegacy bincode bytes ≠ .ok old) := by
  refine ⟨?_, ?_, ?_, ?_⟩
  · intro hverify hwritten
    obtain ⟨bytes, hbytes, hrenamed⟩ :=
      ending_of_wp wp_persistEntriesAtomic (fun _ => rfl) hwritten
    exact loadVerified_of_renamed hbytes hverify hrenamed
  · intro bytes old new hold hmagic _
    exact absurd hold (decodeLegacy_of_magic hmagic old)
  · intro bytes old hold
    have hmagic : ¬ persistedAuditLedgerMagic <+: bytes :=
      fun hmagic => decodeLegacy_of_magic hmagic old hold
    refine ⟨hmagic, ?_⟩
    rw [decodeEntries, if_neg hmagic]
    exact hold
  · intro bytes hbytes
    obtain ⟨-, -, hmagic, hdecode⟩ := decodeEnvelope_of_encodeEnvelope hbytes
    refine ⟨?_, decodeLegacy_of_magic hmagic⟩
    rw [decodeEntries, if_pos hmagic]
    exact hdecode

end Formats

/-- One approval, written to an empty disk and loaded again. -/
theorem ledger_file_reads_back_sample :
    let entries := [sampleEntry (sampleKey 7) 0 zeroHash .approval]
    let written := (persistEntriesAtomic sampleBincode "/ledger" entries 1 2).run
      (worldEnv fun _ => .proceed) emptyDisk
    loadVerified (C := sampleCrypto) sampleBincode written.state "/ledger" (sampleKey 7).val =
      .ok (Chain.fromEntries entries (sampleKey 7).val) := by
  intro entries written
  refine (ledger_file_reads_back (C := sampleCrypto) sampleBincode "/ledger" entries
    (sampleKey 7).val 1 2 (fun _ => .proceed) emptyDisk).1 ?_ ?_
  · decide +kernel
  · decide +kernel

end XeniaPeer.Consent
