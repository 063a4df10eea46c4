import XeniaPeer.Foundation.Text

/-!
# The registry of policy roots

A sealed-evidence trust policy is signed by a policy root, and a local registry
(`policy_roots.json`) says which roots are enrolled, for how long, and which were revoked
(`require_sealed_evidence_policy_root_at` in `m1_runtime.rs`).

Main result: `policy_root_verdict_iff`.
-/

namespace XeniaPeer.Evidence

open Foundation

/-! ## Errors and texts -/

inductive M1RuntimeError where
  | io
  | json
  | evidenceManifest (text : String)
  | trustedKeyFingerprintMismatch (surface : String) (trusted bundle : FixedBytes 32)

/-- The texts of the libraries: a string in quotes (`{:?}`), bytes in hexadecimal digits (`hex`), read
or with the error shown, a time read from an RFC 3339 text in nanoseconds since the epoch, or the
error, and a time shown. -/
structure TextLibrary where
  debug : String → String
  hexEncode : Bytes → String
  hexDecode : String → Except String Bytes
  parseFromRfc3339 : String → Except String Int
  showTime : Int → String

section Texts

variable (lib : TextLibrary)

def parseTrustPolicyFingerprintHex (surface value : String) :
    Except M1RuntimeError (FixedBytes 32) := do
  let bytes ← (lib.hexDecode value).mapError fun err => .evidenceManifest
    ("sealed evidence trust policy " ++ surface ++ " fingerprint is not valid hex: " ++ err)
  okOr (FixedBytes.ofBytes? 32 bytes) (.evidenceManifest
    ("sealed evidence trust policy " ++ surface ++
      " fingerprint must be exactly 32 bytes, found " ++ toString bytes.length))

def parseRfc3339 (document field value : String) : Except M1RuntimeError Int :=
  (lib.parseFromRfc3339 value).mapError fun err => .evidenceManifest
    ("sealed evidence " ++ document ++ " " ++ field ++ " is not RFC3339: " ++ err)

def requireValidity (document notYet expired : String) (validFrom validUntil : Option String)
    (now : Int) : Except M1RuntimeError Unit := do
  let start ← validFrom.mapM (parseRfc3339 lib document "valid_from")
  let stop ← validUntil.mapM (parseRfc3339 lib document "valid_until")
  failIf (∃ f ∈ start, ∃ u ∈ stop, u ≤ f) (.evidenceManifest
    ("sealed evidence " ++ document ++ " valid_from must be before valid_until"))
  start.forM fun f => failIf (now < f) (.evidenceManifest (notYet ++ lib.showTime f))
  stop.forM fun u => failIf (u ≤ now) (.evidenceManifest (expired ++ lib.showTime u))

end Texts

/-- The time is in the window that the two texts give. -/
structure Current (lib : TextLibrary) (validFrom validUntil : Option String) (now : Int) : Prop where
  reads_from : ∀ text ∈ validFrom, ∃ f, lib.parseFromRfc3339 text = .ok f ∧ f ≤ now
  reads_until : ∀ text ∈ validUntil, ∃ u, lib.parseFromRfc3339 text = .ok u ∧ now < u

variable {lib : TextLibrary} {document : String}

lemma parseRfc3339_ok {field value : String} {t : Int} :
    parseRfc3339 lib document field value = .ok t ↔ lib.parseFromRfc3339 value = .ok t :=
  mapError_ok

lemma requireValidity_ok {notYet expired : String} {validFrom validUntil : Option String}
    {now : Int} {u : Unit} :
    requireValidity lib document notYet expired validFrom validUntil now = .ok u ↔
      Current lib validFrom validUntil now := by
  have hpar : ∀ (field text : String) (t : Option Int),
      (some text).mapM (parseRfc3339 lib document field) = .ok t ↔
        ∃ u, lib.parseFromRfc3339 text = .ok u ∧ some u = t := by
    intro field text t
    rw [mapM_some_ok]
    simp only [parseRfc3339_ok]
  have hforM : ∀ (t : Option Int) (bad : Int → Prop) [DecidablePred bad] (e : Int → M1RuntimeError),
      (t.forM fun u => failIf (bad u) (e u)) = .ok () ↔ ∀ u ∈ t, ¬ bad u := by
    intro t bad _ e
    cases t <;> simp [Option.forM, pure, Except.pure]
  unfold requireValidity
  simp only [bind_ok, failIf_ok, hforM, not_lt, not_le]
  constructor
  · rintro ⟨start, hstart, stop, hstop, -, -, -, hfrom, hunt⟩
    constructor
    · rintro text rfl
      obtain ⟨f, hf, rfl⟩ := (hpar _ _ _).mp hstart
      exact ⟨f, hf, hfrom f rfl⟩
    · rintro text rfl
      obtain ⟨u, hu, rfl⟩ := (hpar _ _ _).mp hstop
      exact ⟨u, hu, hunt u rfl⟩
  · rintro ⟨hfrom, hunt⟩
    obtain ⟨start, hstart, hstr⟩ : ∃ start,
        validFrom.mapM (parseRfc3339 lib document "valid_from") = .ok start ∧
          ∀ f ∈ start, f ≤ now := by
      cases validFrom with
      | none => exact ⟨none, rfl, by simp⟩
      | some text =>
        obtain ⟨f, hf, hle⟩ := hfrom text rfl
        exact ⟨some f, (hpar _ _ _).mpr ⟨f, hf, rfl⟩, by simpa using hle⟩
    obtain ⟨stop, hstop, hopen⟩ : ∃ stop,
        validUntil.mapM (parseRfc3339 lib document "valid_until") = .ok stop ∧
          ∀ u ∈ stop, now < u := by
      cases validUntil with
      | none => exact ⟨none, rfl, by simp⟩
      | some text =>
        obtain ⟨u, hu, hlt⟩ := hunt text rfl
        exact ⟨some u, (hpar _ _ _).mpr ⟨u, hu, rfl⟩, by simpa using hlt⟩
    refine ⟨start, hstart, stop, hstop, (), ?_, (), hstr, hopen⟩
    rintro ⟨f, hf, u, hu, hle⟩
    have := hstr f hf
    have := hopen u hu
    omega

/-! ## The registry -/

structure SealedEvidencePolicyRoot where
  (rootId rootKeyFingerprintHex : String)
  (validFrom validUntil supersedesRootId : Option String)
deriving DecidableEq

structure SealedEvidencePolicyRoots where
  (schema profile signatureSuite : String)
  roots : List SealedEvidencePolicyRoot
  revokedRootIds : List String

def SealedEvidencePolicyRoot.carries (root : SealedEvidencePolicyRoot) (fingerprintHex : String) :
    Bool :=
  eqIgnoreAsciiCase root.rootKeyFingerprintHex.toList fingerprintHex.toList

section Registry

variable (lib : TextLibrary)

def checkRoot (before : List SealedEvidencePolicyRoot) (root : SealedEvidencePolicyRoot) :
    Except M1RuntimeError Unit := do
  failIf (trim root.rootId.toList = [])
    (.evidenceManifest "sealed evidence policy-root id must not be empty")
  failIf (root.rootId ∈ before.map SealedEvidencePolicyRoot.rootId)
    (.evidenceManifest ("duplicate sealed evidence policy-root id " ++ lib.debug root.rootId))
  let _ ← parseTrustPolicyFingerprintHex lib "policy-root" root.rootKeyFingerprintHex
  failIf (root.supersedesRootId = some root.rootId)
    (.evidenceManifest ("sealed evidence policy-root " ++ lib.debug root.rootId ++
      " cannot supersede itself"))

def scanRoots (fingerprintHex : String) : List SealedEvidencePolicyRoot →
    Option SealedEvidencePolicyRoot → List SealedEvidencePolicyRoot →
    Except M1RuntimeError (Option SealedEvidencePolicyRoot)
  | _, found, [] => .ok found
  | before, found, root :: rest => do
    checkRoot lib before root
    scanRoots fingerprintHex (root :: before)
      (if root.carries fingerprintHex then some root else found) rest

def requireSealedEvidencePolicyRootAt (roots : SealedEvidencePolicyRoots)
    (expectedSignatureSuite rootFingerprintHex : String) (requiredRootId : Option String)
    (now : Int) : Except M1RuntimeError SealedEvidencePolicyRoot := do
  failIf (roots.schema ≠ "xenia-sealed-evidence-policy-roots-v1")
    (.evidenceManifest ("unsupported sealed evidence policy-roots schema " ++
      lib.debug roots.schema))
  failIf (roots.profile ≠ "full-pqc-v1")
    (.evidenceManifest ("sealed evidence policy-roots must require profile full-pqc-v1, found " ++
        lib.debug roots.profile))
  failIf (roots.signatureSuite ≠ expectedSignatureSuite)
    (.evidenceManifest ("sealed evidence policy-roots signature suite " ++
      lib.debug roots.signatureSuite ++ " did not match selected verifier suite " ++
      lib.debug expectedSignatureSuite))
  failIf (roots.roots = [])
    (.evidenceManifest "sealed evidence policy-roots registry must contain at least one root")
  let found ← scanRoots lib rootFingerprintHex [] none roots.roots
  let root ← okOr found
    (.evidenceManifest ("sealed evidence policy-root fingerprint " ++ lib.debug rootFingerprintHex ++
      " is not enrolled"))
  requiredRootId.forM fun required => failIf (root.rootId ≠ required)
    (.evidenceManifest ("sealed evidence policy-root id " ++ lib.debug root.rootId ++
      " did not match required root id " ++ lib.debug required))
  failIf (root.rootId ∈ roots.revokedRootIds)
    (.evidenceManifest ("sealed evidence policy-root id " ++ lib.debug root.rootId ++
      " is revoked"))
  requireValidity lib "policy-root"
    ("sealed evidence policy-root " ++ lib.debug root.rootId ++ " is not valid until ")
    ("sealed evidence policy-root " ++ lib.debug root.rootId ++ " expired at ")
    root.validFrom root.validUntil now
  pure root

/-! ## What is accepted -/

structure WellFormedRoot (root : SealedEvidencePolicyRoot) : Prop where
  named : trim root.rootId.toList ≠ []
  fingerprint : ∃ key : FixedBytes 32, lib.hexDecode root.rootKeyFingerprintHex = .ok key.toList
  forward : root.supersedesRootId ≠ some root.rootId

/-- What a roots file has to be before any of its roots is looked at. -/
structure WellFormed (roots : SealedEvidencePolicyRoots) (suite : String) : Prop where
  schema : roots.schema = "xenia-sealed-evidence-policy-roots-v1"
  profile : roots.profile = "full-pqc-v1"
  suite : roots.signatureSuite = suite
  nonempty : roots.roots ≠ []
  each : ∀ root ∈ roots.roots, WellFormedRoot lib root
  ids : (roots.roots.map SealedEvidencePolicyRoot.rootId).Nodup

structure Usable (revokedRootIds : List String) (requiredRootId : Option String) (now : Int)
    (root : SealedEvidencePolicyRoot) : Prop where
  required : ∀ id ∈ requiredRootId, root.rootId = id
  unrevoked : root.rootId ∉ revokedRootIds
  current : Current lib root.validFrom root.validUntil now

variable {lib}

lemma parseTrustPolicyFingerprintHex_ok {surface value : String} {key : FixedBytes 32} :
    parseTrustPolicyFingerprintHex lib surface value = .ok key ↔
      lib.hexDecode value = .ok key.toList := by
  simp only [parseTrustPolicyFingerprintHex, bind_ok, mapError_ok, okOr_ok,
    FixedBytes.ofBytes?_eq_some, exists_eq_right']

variable {before : List SealedEvidencePolicyRoot} {root : SealedEvidencePolicyRoot}

lemma checkRoot_ok : checkRoot lib before root = .ok () ↔
      WellFormedRoot lib root ∧ root.rootId ∉ before.map SealedEvidencePolicyRoot.rootId := by
  simp only [checkRoot, bind_ok, failIf_ok, parseTrustPolicyFingerprintHex_ok]
  constructor
  · rintro ⟨-, hnam, -, hnew, key, hkey, hfor⟩
    exact ⟨⟨hnam, ⟨key, hkey⟩, hfor⟩, hnew⟩
  · rintro ⟨⟨hnam, ⟨key, hkey⟩, hfor⟩, hnew⟩
    exact ⟨(), hnam, (), hnew, key, hkey, hfor⟩

variable {fingerprintHex : String}

lemma scanRoots_ok {rest : List SealedEvidencePolicyRoot}
    {found result : Option SealedEvidencePolicyRoot} :
    scanRoots lib fingerprintHex before found rest = .ok result ↔
      checkEach (checkRoot lib) before rest = .ok () ∧
        (rest.filter (·.carries fingerprintHex)).getLast?.or found = result := by
  induction rest generalizing before found with
  | nil => simp [scanRoots, checkEach]
  | cons root rest ih =>
    rw [scanRoots, guard_bind_ok, ih, checkEach_cons, and_assoc, List.filter_cons]
    by_cases h : root.carries fingerprintHex = true
    · rw [if_pos h, if_pos h, List.getLast?_cons]
      cases (rest.filter (·.carries fingerprintHex)).getLast? <;> simp
    · rw [if_neg h, if_neg h]

lemma requireSealedEvidencePolicyRootAt_ok {roots : SealedEvidencePolicyRoots}
    {suite : String} {requiredRootId : Option String} {now : Int} :
    requireSealedEvidencePolicyRootAt lib roots suite fingerprintHex requiredRootId now = .ok root ↔
      WellFormed lib roots suite ∧
        (roots.roots.filter (·.carries fingerprintHex)).getLast? = some root ∧
        Usable lib roots.revokedRootIds requiredRootId now root := by
  have h : ∀ (r : SealedEvidencePolicyRoot) (e : String → M1RuntimeError),
      (requiredRootId.forM fun required => failIf (r.rootId ≠ required) (e required)) = .ok () ↔
        ∀ id ∈ requiredRootId, r.rootId = id := by
    intro r e
    cases requiredRootId <;> simp [Option.forM, pure, Except.pure]
  have hche : checkEach (checkRoot lib) [] roots.roots = .ok () ↔
      (∀ r ∈ roots.roots, WellFormedRoot lib r) ∧
        (roots.roots.map SealedEvidencePolicyRoot.rootId).Nodup := by
    rw [checkEach_distinct_ok SealedEvidencePolicyRoot.rootId (WellFormedRoot lib)
      (fun _ _ => checkRoot_ok)]
    simp
  simp only [requireSealedEvidencePolicyRootAt, bind_ok, failIf_ok, okOr_ok, pure_ok,
    scanRoots_ok, requireValidity_ok, h, Option.or_none, hche, ne_eq, not_not]
  constructor
  · rintro ⟨-, hschema, -, hpro, -, hsu, -, hnon, _, ⟨⟨heach, hids⟩, rfl⟩, r, hlast, -,
      hid, -, hunr, -, hcur, rfl⟩
    exact ⟨⟨hschema, hpro, hsu, hnon, heach, hids⟩, hlast, ⟨hid, hunr, hcur⟩⟩
  · rintro ⟨⟨hschema, hpro, hsu, hnon, heach, hids⟩, hlast, ⟨hid, hunr, hcur⟩⟩
    exact ⟨(), hschema, (), hpro, (), hsu, (), hnon, _, ⟨⟨heach, hids⟩, rfl⟩, root,
      hlast, (), hid, (), hunr, (), hcur, rfl⟩

/-! ## Order and repeated fingerprints -/

section Verdict

variable {roots : SealedEvidencePolicyRoots} {suite fingerprintHex : String}
  {requiredRootId : Option String} {now : Int}

lemma WellFormed.perm {entries : List SealedEvidencePolicyRoot} (h : WellFormed lib roots suite)
    (hperm : entries.Perm roots.roots) : WellFormed lib { roots with roots := entries } suite where
  schema := h.schema
  profile := h.profile
  suite := h.suite
  nonempty := fun hnil => h.nonempty (List.nil_perm.mp (hnil ▸ hperm))
  each := fun root hroot => h.each root (hperm.mem_iff.mp hroot)
  ids := (hperm.map _).nodup_iff.mpr h.ids

lemma exists_perm_last {root : SealedEvidencePolicyRoot} (hmem : root ∈ roots.roots)
    (h : root.carries fingerprintHex = true) :
    ∃ entries : List SealedEvidencePolicyRoot, entries.Perm roots.roots ∧
      (entries.filter (·.carries fingerprintHex)).getLast? = some root := by
  refine ⟨roots.roots.erase root ++ [root], ?_, ?_⟩
  · exact (List.perm_append_singleton _ _).trans (List.perm_cons_erase hmem).symm
  · rw [List.filter_append, List.filter_cons, if_pos h, List.filter_nil, List.getLast?_concat]

/-- Of two roots with the key in question both can be used or none. -/
def EntriesAgree (lib : TextLibrary) (roots : SealedEvidencePolicyRoots) (fingerprintHex : String)
    (requiredRootId : Option String) (now : Int) : Prop :=
  ∀ e ∈ roots.roots, ∀ e' ∈ roots.roots, e.carries fingerprintHex = true →
    e'.carries fingerprintHex = true → Usable lib roots.revokedRootIds requiredRootId now e →
    Usable lib roots.revokedRootIds requiredRootId now e'

lemma accepted_iff_of_agree (h : EntriesAgree lib roots fingerprintHex requiredRootId now) :
    (∃ root, requireSealedEvidencePolicyRootAt lib roots suite fingerprintHex requiredRootId now =
        .ok root) ↔ WellFormed lib roots suite ∧ ∃ e ∈ roots.roots, e.carries fingerprintHex = true ∧
        Usable lib roots.revokedRootIds requiredRootId now e := by
  constructor
  · rintro ⟨root, hroot⟩
    obtain ⟨hwf, hlast, husa⟩ := requireSealedEvidencePolicyRootAt_ok.mp hroot
    obtain ⟨hmem, hcar⟩ := List.mem_filter.mp (List.mem_of_getLast? hlast)
    exact ⟨hwf, root, hmem, hcar, husa⟩
  · rintro ⟨hwf, e, he, hcar, husa⟩
    have hmem : e ∈ roots.roots.filter (·.carries fingerprintHex) := List.mem_filter.mpr ⟨he, hcar⟩
    obtain ⟨root, hlast⟩ : ∃ root,
        (roots.roots.filter (·.carries fingerprintHex)).getLast? = some root :=
      ⟨_, List.getLast?_eq_some_getLast (List.ne_nil_of_mem hmem)⟩
    obtain ⟨hroot, hcar'⟩ := List.mem_filter.mp (List.mem_of_getLast? hlast)
    exact ⟨root, requireSealedEvidencePolicyRootAt_ok.mpr
      ⟨hwf, hlast, h e he root hroot hcar hcar' husa⟩⟩

end Verdict

/-- **The verdict on a policy root.** For every registry, key fingerprint, required id and time: no
accepted key is carried by an entry that is revoked or not in its period, and no order of the
entries changes whether it is accepted, exactly when in a well-formed registry the entries that
carry the fingerprint are all usable or none is. -/
theorem policy_root_verdict_iff (lib : TextLibrary) (roots : SealedEvidencePolicyRoots)
    (suite fingerprintHex : String) (requiredRootId : Option String) (now : Int) :
    ((∀ root, requireSealedEvidencePolicyRootAt lib roots suite fingerprintHex requiredRootId now =
          .ok root →
        ∀ e ∈ roots.roots, e.carries fingerprintHex = true →
          e.rootId ∉ roots.revokedRootIds ∧ Current lib e.validFrom e.validUntil now) ∧
      ∀ entries : List SealedEvidencePolicyRoot, entries.Perm roots.roots →
        ((∃ root, requireSealedEvidencePolicyRootAt lib { roots with roots := entries } suite
            fingerprintHex requiredRootId now = .ok root) ↔
          ∃ root, requireSealedEvidencePolicyRootAt lib roots suite fingerprintHex requiredRootId
            now = .ok root)) ↔
      (WellFormed lib roots suite → EntriesAgree lib roots fingerprintHex requiredRootId now) := by
  constructor
  · rintro ⟨-, horder⟩ hwf e he e' he' hcarries hcarries' husable
    -- with `e` last the key is accepted, so it is with `e'` last
    obtain ⟨entries, hperm, hlast⟩ := exists_perm_last he hcarries
    obtain ⟨entries', hperm', hlast'⟩ := exists_perm_last he' hcarries'
    have haccepted := (horder entries hperm).mp
      ⟨e, requireSealedEvidencePolicyRootAt_ok.mpr ⟨hwf.perm hperm, hlast, husable⟩⟩
    obtain ⟨root, hroot⟩ := (horder entries' hperm').mpr haccepted
    obtain ⟨-, hroot_last, hroot_usable⟩ := requireSealedEvidencePolicyRootAt_ok.mp hroot
    obtain rfl : root = e' := Option.some.inj (hroot_last.symm.trans hlast')
    exact hroot_usable
  · intro hagree
    refine ⟨fun root hroot e he hcarries => ?_, fun entries hperm => ?_⟩
    · obtain ⟨hwf, hlast, husable⟩ := requireSealedEvidencePolicyRootAt_ok.mp hroot
      obtain ⟨hmem, hcarries'⟩ := List.mem_filter.mp (List.mem_of_getLast? hlast)
      have he_usable := hagree hwf root hmem e he hcarries' hcarries husable
      exact ⟨he_usable.unrevoked, he_usable.current⟩
    · by_cases hwf : WellFormed lib roots suite
      · have hagree' : EntriesAgree lib { roots with roots := entries } fingerprintHex
            requiredRootId now := fun e he e' he' =>
          hagree hwf e (hperm.mem_iff.mp he) e' (hperm.mem_iff.mp he')
        rw [accepted_iff_of_agree hagree', accepted_iff_of_agree (hagree hwf)]
        simp [hwf, hwf.perm hperm, hperm.mem_iff]
      · -- the order does not matter for a registry that is not well formed
        have hwf' : ¬ WellFormed lib { roots with roots := entries } suite :=
          fun h => hwf (h.perm hperm.symm)
        simp [requireSealedEvidencePolicyRootAt_ok, hwf, hwf']

end Registry

def sampleRegistry (ids : List String) : SealedEvidencePolicyRoots where
  schema := "xenia-sealed-evidence-policy-roots-v1"
  profile := "full-pqc-v1"
  signatureSuite := "ml-dsa-65-fips204"
  roots := ids.map fun id => ⟨id, lowerHex (List.replicate 32 171), none, none, none⟩
  revokedRootIds := ["root-1"]

def sampleLibrary : TextLibrary where
  debug s := "\"" ++ s ++ "\""
  hexEncode := lowerHex
  hexDecode s := okOr (([5, 17, 18, 33, 34, 171].map (List.replicate 32)).find? (lowerHex · = s))
    "Odd number of digits"
  parseFromRfc3339 _ := .error "input contains invalid characters"
  showTime t := toString t

/-- The key of a revoked entry is accepted where an entry that is not revoked comes after it, and
refused in the other order. -/
theorem revoked_key_accepted_in_one_order :
    let accepts := fun ids => (requireSealedEvidencePolicyRootAt sampleLibrary (sampleRegistry ids)
      "ml-dsa-65-fips204" (lowerHex (List.replicate 32 171)) none 0).toOption
    (accepts ["root-1", "root-2"]).map SealedEvidencePolicyRoot.rootId = some "root-2" ∧
      accepts ["root-2", "root-1"] = none ∧
      (sampleRegistry ["root-1", "root-2"]).roots.any (fun root =>
        root.carries (lowerHex (List.replicate 32 171)) &&
          (sampleRegistry []).revokedRootIds.contains root.rootId) = true := by
  decide +kernel

end XeniaPeer.Evidence
