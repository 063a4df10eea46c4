import XeniaPeer.Foundation.Runs
import XeniaPeer.Foundation.Signing
import XeniaPeer.Foundation.Traces
import XeniaPeer.Foundation.Words
import XeniaPeer.Session.KeySchedule

/-!
# Rekeying a session

A running session goes through key epochs. The host seals a proposal for the next epoch, goes over
to it and waits for the acknowledgement (`perform_rekey` and `perform_rekey_split` of `xenia-peer`);
the viewer checks the proposal, goes over and seals the acknowledgement.

Main result: `epochs_agree`.
-/

namespace XeniaPeer.Session

open Foundation

/-! ## Epoch bookkeeping -/

structure RekeyPolicy where
  (maxFramesPerEpoch maxBytesPerEpoch minFramesBetweenRekeys : UInt64)
  manualRekeyAllowed : Bool

inductive EpochError where
  | signatureVerificationFailed

structure SessionEpochState where
  currentEpoch : UInt64
  (baseTranscriptHash previousEpochHash : FixedBytes 32)
  (framesInEpoch bytesInEpoch audioFramesInEpoch rejectedRekeys : UInt64)
  lastRekeyReason : Option RekeyReason
  policy : RekeyPolicy

variable (P : KeyPrimitives)

namespace SessionEpochState

def new (baseTranscriptHash : FixedBytes 32) (policy : RekeyPolicy) : SessionEpochState :=
  ⟨0, baseTranscriptHash, baseTranscriptHash, 0, 0, 0, 0, none, policy⟩

def recordVideoFrame (st : SessionEpochState) (bytes : Nat) : SessionEpochState :=
  { st with
    framesInEpoch := saturatingAdd st.framesInEpoch 1
    bytesInEpoch := saturatingAdd st.bytesInEpoch bytes }

def recordAudioFrame (st : SessionEpochState) (bytes : Nat) : SessionEpochState :=
  { st with
    audioFramesInEpoch := saturatingAdd st.audioFramesInEpoch 1
    bytesInEpoch := saturatingAdd st.bytesInEpoch bytes }

/-- The number of the next epoch wraps, as it does in a release build. -/
def nextRekeyContext (st : SessionEpochState) (reason : RekeyReason) : RekeyEpochContextV1 :=
  .new (st.currentEpoch + 1) st.baseTranscriptHash st.previousEpochHash reason

def nextRekeyDue (st : SessionEpochState) : Option RekeyEpochContextV1 :=
  if st.policy.minFramesBetweenRekeys ≤ st.framesInEpoch then
    if st.policy.maxFramesPerEpoch ≠ 0 ∧ st.policy.maxFramesPerEpoch ≤ st.framesInEpoch then
      some (st.nextRekeyContext .frameCount)
    else if st.policy.maxBytesPerEpoch ≠ 0 ∧ st.policy.maxBytesPerEpoch ≤ st.bytesInEpoch then
      some (st.nextRekeyContext .byteCount)
    else none
  else none

def countRejected (st : SessionEpochState) : SessionEpochState :=
  { st with rejectedRekeys := saturatingAdd st.rejectedRekeys 1 }

def Continues (st : SessionEpochState) (context : RekeyEpochContextV1) : Prop :=
  context.keyEpoch = st.currentEpoch + 1 ∧
    context.baseTranscriptHash = st.baseTranscriptHash ∧
    context.previousEpochHash = st.previousEpochHash

instance (st : SessionEpochState) (context : RekeyEpochContextV1) :
    Decidable (st.Continues context) :=
  inferInstanceAs (Decidable (_ ∧ _ ∧ _))

def installEpoch (st : SessionEpochState) (context : RekeyEpochContextV1) :
    Except EpochError Unit × SessionEpochState :=
  if st.Continues context then
    (.ok (), { st with
      currentEpoch := context.keyEpoch
      previousEpochHash := context.epochHash P
      framesInEpoch := 0
      bytesInEpoch := 0
      audioFramesInEpoch := 0
      lastRekeyReason := some context.reason })
  else (.error .signatureVerificationFailed, st.countRejected)

def validateProposal (st : SessionEpochState) (keyEpoch : UInt64)
    (baseTranscriptHash previousEpochHash : FixedBytes 32) (reason : RekeyReason)
    (epochHash : FixedBytes 32) : Except EpochError RekeyEpochContextV1 × SessionEpochState :=
  let context := RekeyEpochContextV1.new keyEpoch baseTranscriptHash previousEpochHash reason
  if st.Continues context ∧ context.epochHash P = epochHash then (.ok context, st)
  else (.error .signatureVerificationFailed, st.countRejected)

def deriveAndInstall (st : SessionEpochState) (schedule : SessionKeySchedule)
    (context : RekeyEpochContextV1) : Except EpochError RekeyEpochKeys × SessionEpochState :=
  let keys := deriveRekeyEpochKeys P schedule context
  match st.installEpoch P context with
  | (.ok (), st') => (.ok keys, st')
  | (.error e, st') => (.error e, st')

end SessionEpochState

/-! ## The two sides -/

inductive RawRekey where
  | proposal (keyEpoch : UInt64) (baseTranscriptHash previousEpochHash : FixedBytes 32)
      (reason : RekeyReason) (epochHash : FixedBytes 32)
  | ack (keyEpoch : UInt64) (epochHash : FixedBytes 32)

inductive Payload where
  | rekey (message : RawRekey)
  | other

structure InstalledEpoch where
  keyEpoch : UInt64
  epochHash : FixedBytes 32
  keys : RekeyEpochKeys

inductive HostPhase where
  | idle
  | proposed (context : RekeyEpochContextV1)
  | sent (context : RekeyEpochContextV1)
  | derived (context : RekeyEpochContextV1) (keys : RekeyEpochKeys)
  | waiting (context : RekeyEpochContextV1)
  | ended
deriving DecidableEq

structure Host where
  epochState : SessionEpochState
  outbox : List Payload
  installed : List InstalledEpoch
  phase : HostPhase

inductive ViewerPhase where
  | idle
  | accepted (epochHash : FixedBytes 32) (keys : RekeyEpochKeys)
  | installed (epochHash : FixedBytes 32)
  | acked
  | ended

structure Viewer where
  epochState : SessionEpochState
  outbox : List Payload
  installed : List InstalledEpoch
  phase : ViewerPhase

/-- A turn of the host. What it receives is named by its place among what the viewer sealed;
`none` is what does not open, or a transport or channel that failed. -/
inductive HostEvent where
  | rekey (keyEpoch : UInt64) (baseTranscriptHash previousEpochHash : FixedBytes 32)
      (reason : RekeyReason)
  | sendReturns (ok : Bool)
  | derive
  | install
  | receive (opened : Option Nat)
  | traffic (audio : Bool) (bytes : Nat)
  | stop

inductive ViewerEvent where
  | receive (opened : Option Nat)
  | install
  | sealAck
  | sendReturns (ok : Bool)
  | traffic
  | stop

def RekeyEpochContextV1.proposal (context : RekeyEpochContextV1) : RawRekey :=
  .proposal context.keyEpoch context.baseTranscriptHash context.previousEpochHash context.reason
    (context.epochHash P)

def SessionEpochState.installedEpoch (st : SessionEpochState) (keys : RekeyEpochKeys) :
    InstalledEpoch :=
  ⟨st.currentEpoch, st.previousEpochHash, keys⟩

def isAckOf (st : SessionEpochState) (context : RekeyEpochContextV1) (opened : Option Payload) :
    Bool :=
  match opened with
  | some (.rekey (.ack keyEpoch epochHash)) =>
    keyEpoch = st.currentEpoch ∧ epochHash = context.epochHash P
  | _ => false

def Host.step (schedule : SessionKeySchedule) (host : Host) (fromViewer : List Payload) :
    HostEvent → Host
  | .rekey keyEpoch baseTranscriptHash previousEpochHash reason =>
    let context := RekeyEpochContextV1.new keyEpoch baseTranscriptHash previousEpochHash reason
    match host.phase with
    | .idle =>
      { host with
        outbox := host.outbox ++ [.rekey (context.proposal P)]
        phase := .proposed context }
    | _ => host
  | .sendReturns ok =>
    match host.phase with
    | .proposed context => { host with phase := if ok then .sent context else .ended }
    | _ => host
  | .derive =>
    match host.phase with
    | .sent context =>
      match host.epochState.deriveAndInstall P schedule context with
      | (.ok keys, st) => { host with epochState := st, phase := .derived context keys }
      | (.error _, st) => { host with epochState := st, phase := .ended }
    | _ => host
  | .install =>
    match host.phase with
    | .derived context keys =>
      { host with
        installed := host.installed ++ [host.epochState.installedEpoch keys]
        phase := .waiting context }
    | _ => host
  | .receive opened =>
    match host.phase with
    | .waiting context =>
      { host with
        phase :=
          if isAckOf P host.epochState context (opened.bind (fromViewer[·]?)) then .idle
          else .ended }
    | _ => host
  | .traffic audio bytes =>
    { host with
      epochState := if audio then host.epochState.recordAudioFrame bytes
        else host.epochState.recordVideoFrame bytes
      outbox := host.outbox ++ [.other] }
  | .stop => { host with phase := .ended }

def Viewer.answer (schedule : SessionKeySchedule) (viewer : Viewer) : Payload → Viewer
  | .other => viewer
  | .rekey (.ack _ _) => { viewer with phase := .ended }
  | .rekey (.proposal keyEpoch baseTranscriptHash previousEpochHash reason epochHash) =>
    match viewer.epochState.validateProposal P keyEpoch baseTranscriptHash previousEpochHash reason
      epochHash with
    | (.error _, st) => { viewer with epochState := st, phase := .ended }
    | (.ok context, st) =>
      match st.deriveAndInstall P schedule context with
      | (.ok keys, st') => { viewer with epochState := st', phase := .accepted epochHash keys }
      | (.error _, st') => { viewer with epochState := st', phase := .ended }

def Viewer.step (schedule : SessionKeySchedule) (viewer : Viewer) (fromHost : List Payload) :
    ViewerEvent → Viewer
  | .receive opened =>
    match viewer.phase, opened.bind (fromHost[·]?) with
    | .idle, some payload => viewer.answer P schedule payload
    | _, _ => viewer
  | .install =>
    match viewer.phase with
    | .accepted epochHash keys =>
      { viewer with
        installed := viewer.installed ++ [viewer.epochState.installedEpoch keys]
        phase := .installed epochHash }
    | _ => viewer
  | .sealAck =>
    match viewer.phase with
    | .installed epochHash =>
      { viewer with
        outbox := viewer.outbox ++ [.rekey (.ack viewer.epochState.currentEpoch epochHash)]
        phase := .acked }
    | _ => viewer
  | .sendReturns ok =>
    match viewer.phase with
    | .acked => { viewer with phase := if ok then .idle else .ended }
    | _ => viewer
  | .traffic => { viewer with outbox := viewer.outbox ++ [.other] }
  | .stop => { viewer with phase := .ended }

/-! ## Lists of epochs -/

section Epochs

variable {P} {base : FixedBytes 32} {epochs : List RekeyEpochContextV1} {c : RekeyEpochContextV1}
  {st st' : SessionEpochState} {schedule : SessionKeySchedule}

variable (P) in
def epochLinks : Links RekeyEpochContextV1 (FixedBytes 32) :=
  ⟨fun c => c.keyEpoch.toNat, RekeyEpochContextV1.previousEpochHash, RekeyEpochContextV1.epochHash P⟩

variable (P) in
structure Next (base : FixedBytes 32) (epochs : List RekeyEpochContextV1)
    (c : RekeyEpochContextV1) : Prop where
  keyEpoch : c.keyEpoch = UInt64.ofNat (epochs.length + 1)
  transcript : c.baseTranscriptHash = base
  previous : c.previousEpochHash = (epochLinks P).headAfter base epochs

variable (P) in
structure After (base : FixedBytes 32) (st : SessionEpochState)
    (epochs : List RekeyEpochContextV1) : Prop where
  current : st.currentEpoch = UInt64.ofNat epochs.length
  transcript : st.baseTranscriptHash = base
  previous : st.previousEpochHash = (epochLinks P).headAfter base epochs

variable (P) in
def RekeyEpochContextV1.installed (schedule : SessionKeySchedule) (c : RekeyEpochContextV1) :
    InstalledEpoch :=
  ⟨c.keyEpoch, c.epochHash P, deriveRekeyEpochKeys P schedule c⟩

lemma After.continues_iff (h : After P base st epochs) :
    st.Continues c ↔ Next P base epochs c := by
  have hnext : st.currentEpoch + 1 = UInt64.ofNat (epochs.length + 1) := by
    rw [h.current, UInt64.ofNat_add]
    rfl
  unfold SessionEpochState.Continues
  rw [hnext, h.transcript, h.previous]
  constructor
  · intro hc
    exact ⟨hc.1, hc.2.1, hc.2.2⟩
  · intro hc
    exact ⟨hc.keyEpoch, hc.transcript, hc.previous⟩

lemma After.of_eq (h : After P base st epochs) (hcur : st'.currentEpoch = st.currentEpoch)
    (hbase : st'.baseTranscriptHash = st.baseTranscriptHash)
    (hhash : st'.previousEpochHash = st.previousEpochHash) : After P base st' epochs :=
  ⟨hcur.trans h.current, hbase.trans h.transcript, hhash.trans h.previous⟩

lemma After.installedEpoch (h : After P base st (epochs ++ [c])) (hnext : Next P base epochs c) :
    st.installedEpoch (deriveRekeyEpochKeys P schedule c) = c.installed P schedule := by
  unfold SessionEpochState.installedEpoch RekeyEpochContextV1.installed
  rw [h.current, h.previous, Links.headAfter_concat, hnext.keyEpoch, List.length_append,
    List.length_singleton]
  rfl

lemma After.deriveAndInstall (h : After P base st epochs) (schedule : SessionKeySchedule)
    (c : RekeyEpochContextV1) : (Next P base epochs c ∧ ∃ st', st.deriveAndInstall P schedule c =
        (.ok (deriveRekeyEpochKeys P schedule c), st') ∧ After P base st' (epochs ++ [c])) ∨
      ∃ e st', st.deriveAndInstall P schedule c = (.error e, st') ∧ After P base st' epochs := by
  unfold SessionEpochState.deriveAndInstall SessionEpochState.installEpoch
  by_cases hc : st.Continues c
  · rw [if_pos hc]
    left
    have hnext := h.continues_iff.mp hc
    refine ⟨hnext, _, rfl, ?_, h.transcript, ?_⟩
    · rw [List.length_append, List.length_singleton]
      exact hnext.keyEpoch
    · exact (Links.headAfter_concat (L := epochLinks P) base epochs c).symm
  · rw [if_neg hc]
    right
    exact ⟨_, _, rfl, h.of_eq rfl rfl rfl⟩

end Epochs

/-! ## Sessions -/

structure RekeySession where
  host : Host
  viewer : Viewer

inductive SessionEvent where
  | host (event : HostEvent)
  | viewer (event : ViewerEvent)

namespace RekeySession

def start (baseTranscriptHash : FixedBytes 32) (hostPolicy viewerPolicy : RekeyPolicy) :
    RekeySession :=
  ⟨⟨.new baseTranscriptHash hostPolicy, [], [], .idle⟩,
    ⟨.new baseTranscriptHash viewerPolicy, [], [], .idle⟩⟩

section

variable (schedule : SessionKeySchedule) (s : RekeySession)

def step : SessionEvent → RekeySession
  | .host event => { s with host := s.host.step P schedule s.viewer.outbox event }
  | .viewer event => { s with viewer := s.viewer.step P schedule s.host.outbox event }

def run (events : List SessionEvent) : RekeySession :=
  events.foldl (step P schedule) s

/-- The step ends a rekey of the host with success. -/
def ReturnsOk (event : SessionEvent) : Prop :=
  (∃ context, s.host.phase = .waiting context) ∧ (s.step P schedule event).host.phase = .idle

end

end RekeySession

open RekeySession

/-! ## How the epochs of the two sides relate -/

/-- The epoch hashes of these contexts are different, also from the base. -/
structure CollisionFree (base : FixedBytes 32) (contexts : Set RekeyEpochContextV1) : Prop where
  injective : ∀ c ∈ contexts, ∀ c' ∈ contexts, c.epochHash P = c'.epochHash P → c = c'
  base_ne : ∀ c ∈ contexts, c.epochHash P ≠ base

def proposedIn (events : List SessionEvent) : Set RekeyEpochContextV1 :=
  {c | ∃ keyEpoch base previous reason,
    .host (.rekey keyEpoch base previous reason) ∈ events ∧ c = .new keyEpoch base previous reason}

def MadeByNew (contexts : Set RekeyEpochContextV1) : Prop :=
  ∀ c ∈ contexts,
    c = .new c.keyEpoch c.baseTranscriptHash c.previousEpochHash c.reason

section Synced

variable {P} {schedule : SessionKeySchedule} {base : FixedBytes 32}
  {contexts : Set RekeyEpochContextV1} {s : RekeySession}
  {common hostEpochs viewerEpochs epochs : List RekeyEpochContextV1}
  {pending : Option RekeyEpochContextV1} {c : RekeyEpochContextV1}

variable (P base contexts) in
def EpochChain (epochs : List RekeyEpochContextV1) : Prop :=
  EachAfter (fun before c => c ∈ contexts ∧ Next P base before c) epochs

variable (P base) in
def Reaches (common : List RekeyEpochContextV1) (pending : Option RekeyEpochContextV1)
    (epochs : List RekeyEpochContextV1) : Prop :=
  epochs = common ∨ ∃ c ∈ pending, Next P base common c ∧ epochs = common ++ [c]

variable (P schedule base) in
def HostPhase.Fits (st : SessionEpochState) (common epochs : List RekeyEpochContextV1)
    (pending : Option RekeyEpochContextV1) : HostPhase → Prop
  | .idle => pending = none ∧ After P base st epochs
  | .proposed c => pending = some c ∧ epochs = common ∧ After P base st common
  | .sent c => pending = some c ∧ epochs = common ∧ After P base st common
  | .derived c keys =>
    (pending = some c ∧ epochs = common) ∧ Next P base common c ∧
      After P base st (common ++ [c]) ∧ keys = deriveRekeyEpochKeys P schedule c
  | .waiting c => pending = some c ∧ epochs = common ++ [c] ∧ After P base st epochs
  | .ended => True

variable (P schedule base) in
def ViewerPhase.Fits (st : SessionEpochState) (installed : List InstalledEpoch)
    (common epochs : List RekeyEpochContextV1)
    (pending : Option RekeyEpochContextV1) : ViewerPhase → Prop
  | .idle => After P base st epochs
  | .accepted epochHash keys =>
    epochs = common ∧ ∃ c ∈ pending, Next P base common c ∧
      After P base st (common ++ [c]) ∧ epochHash = c.epochHash P ∧
      keys = deriveRekeyEpochKeys P schedule c
  | .installed epochHash =>
    After P base st epochs ∧ ∃ a ∈ installed, a.epochHash = epochHash
  | .acked => After P base st epochs
  -- it can have ended between the two parts of the installation
  | .ended =>
    After P base st epochs ∨
      epochs = common ∧ ∃ c ∈ pending, Next P base common c ∧ After P base st (common ++ [c])

variable (P schedule base contexts) in
/-- The host's side: what it installed, where it stands, and that its proposals are the pending one
or for epochs of `common`. -/
structure Host.Stands (host : Host) (common epochs : List RekeyEpochContextV1)
    (pending : Option RekeyEpochContextV1) : Prop where
  reaches : Reaches P base common pending epochs
  installs : host.installed = epochs.map (RekeyEpochContextV1.installed P schedule)
  inPhase : host.phase.Fits P schedule base host.epochState common epochs pending
  proposals : ∀ m, Payload.rekey m ∈ host.outbox →
    ∃ c ∈ contexts, m = c.proposal P ∧ (c ∈ pending ∨ ∃ before, before ++ [c] <+: common)

variable (P schedule base) in
/-- The viewer's side: what it installed, where it stands, and that it acknowledged only what it
installed. -/
structure Viewer.Stands (viewer : Viewer) (common epochs : List RekeyEpochContextV1)
    (pending : Option RekeyEpochContextV1) : Prop where
  reaches : Reaches P base common pending epochs
  installs : viewer.installed = epochs.map (RekeyEpochContextV1.installed P schedule)
  inPhase : viewer.phase.Fits P schedule base viewer.epochState viewer.installed common epochs
    pending
  acks : ∀ keyEpoch epochHash, Payload.rekey (.ack keyEpoch epochHash) ∈ viewer.outbox →
    ∃ a ∈ viewer.installed, a.epochHash = epochHash

variable (P schedule base contexts) in
/-- Both sides installed the epochs of `common`, and each of them possibly the pending epoch as
well. -/
structure RekeySession.Synced (s : RekeySession)
    (common hostEpochs viewerEpochs : List RekeyEpochContextV1)
    (pending : Option RekeyEpochContextV1) : Prop where
  chain : EpochChain P base contexts common
  proposed : ∀ c ∈ pending, c ∈ contexts
  host : s.host.Stands P schedule base contexts common hostEpochs pending
  viewer : s.viewer.Stands P schedule base common viewerEpochs pending

lemma EpochChain.eq_of_headAfter (hfree : CollisionFree P base contexts)
    (h : EpochChain P base contexts epochs) {front : List RekeyEpochContextV1}
    (hfront : front <+: epochs)
    (hhead : (epochLinks P).headAfter base front = (epochLinks P).headAfter base epochs) :
    front = epochs := by
  refine EachAfter.eq_of_headAfter (L := epochLinks P) ?_ ?_ ?_ h hfront hhead
  · intro before c hc
    exact hc.2.previous
  · intro before before' c c' hc hc' hdigest
    rw [hfree.injective c hc.1 c' hc'.1 hdigest]
  · intro before c hc
    exact hfree.base_ne c hc.1

lemma EpochChain.hash_ne (hfree : CollisionFree P base contexts) (h : EpochChain P base contexts
    epochs)
    (hc : c ∈ contexts) (hnext : Next P base epochs c) {c' : RekeyEpochContextV1}
    (hmem : c' ∈ epochs) : c'.epochHash P ≠ c.epochHash P := by
  intro heq
  obtain ⟨before, after, rfl⟩ := List.append_of_mem hmem
  have hwho : EpochChain P base contexts ((before ++ c' :: after) ++ [c]) := h.concat ⟨hc, hnext⟩
  have hfr : before ++ [c'] <+: (before ++ c' :: after) ++ [c] := ⟨after ++ [c], by simp⟩
  have hends : before ++ [c'] = (before ++ c' :: after) ++ [c] := by
    apply hwho.eq_of_headAfter hfree hfr
    rw [Links.headAfter_concat, Links.headAfter_concat]
    exact heq
  have hlen := congrArg List.length hends
  simp at hlen

lemma Reaches.chain (h : Reaches P base common pending epochs)
    (hcommon : EpochChain P base contexts common) (hproposed : ∀ c ∈ pending, c ∈ contexts) :
    EpochChain P base contexts epochs := by
  rcases h with heq | ⟨c, hc, hnext, heq⟩
  · rw [heq]
    exact hcommon
  · rw [heq]
    exact EachAfter.concat hcommon ⟨hproposed c hc, hnext⟩

lemma Reaches.common_prefix (h : Reaches P base common pending epochs) : common <+: epochs := by
  rcases h with heq | ⟨c, _, _, heq⟩
  · exact heq ▸ List.prefix_rfl
  · rw [heq]
    exact List.prefix_append common [c]

lemma Reaches.of_none (h : Reaches P base common none epochs) : epochs = common := by
  rcases h with heq | ⟨c, hc, _⟩
  · exact heq
  · cases hc

variable {epochs' : List RekeyEpochContextV1}

section

variable (h : Reaches P base common pending epochs)

include h

lemma Reaches.length_le (h' : Reaches P base common pending epochs') :
    epochs.length ≤ epochs'.length + 1 := by
  have hcom := h'.common_prefix.length_le
  rcases h with heq | ⟨c, _, _, heq⟩
  · rw [heq]
    omega
  · rw [heq, List.length_append, List.length_singleton]
    omega

lemma Reaches.prefix_or (h' : Reaches P base common pending epochs') :
    epochs <+: epochs' ∨ epochs' <+: epochs := by
  rcases h with heq | ⟨c, hc, _, heq⟩
  · left
    rw [heq]
    exact h'.common_prefix
  · rcases h' with heq' | ⟨c', hc', _, heq'⟩
    · right
      rw [heq, heq']
      exact List.prefix_append common [c]
    · left
      obtain rfl : c = c' := Option.some.inj (hc.symm.trans hc')
      exact heq ▸ heq' ▸ List.prefix_rfl

lemma Reaches.pending_of_next (hfree : CollisionFree P base contexts)
    (hcommon : EpochChain P base contexts common) (hproposed : ∀ c ∈ pending, c ∈ contexts)
    (hc : c ∈ pending ∨ ∃ before, before ++ [c] <+: common) (hnext : Next P base epochs c) :
    c ∈ pending ∧ epochs = common := by
  -- the epochs before an earlier place of `c` end with the hash that all the epochs end with
  have hpl : ∀ before, before ++ [c] <+: epochs → Next P base before c → False := by
    intro before hbefore hnextBefore
    have hfr : before <+: epochs := (List.prefix_append before [c]).trans hbefore
    have heq := (h.chain hcommon hproposed).eq_of_headAfter hfree hfr
      (hnextBefore.previous.symm.trans hnext.previous)
    have hlen := hbefore.length_le
    rw [heq, List.length_append, List.length_singleton] at hlen
    omega
  rcases hc with hc | ⟨before, hbefore⟩
  · refine ⟨hc, ?_⟩
    rcases h with heq | ⟨c', hc', hnext', heq⟩
    · exact heq
    · exfalso
      obtain rfl : c = c' := Option.some.inj (hc.symm.trans hc')
      exact hpl common (heq ▸ List.prefix_rfl) hnext'
  · exfalso
    exact hpl before (hbefore.trans h.common_prefix) (EachAfter.of_prefix hcommon hbefore).last.2

end

/-! ## The steps -/

variable {viewer : Viewer}

lemma Viewer.Stands.answer {payload : Payload} (hfree : CollisionFree P base contexts)
    (hnew : MadeByNew contexts) (hcommon : EpochChain P base contexts common)
    (hproposed : ∀ c ∈ pending, c ∈ contexts) (hpayload : ∀ m, payload = .rekey m →
      ∃ c ∈ contexts, m = c.proposal P ∧ (c ∈ pending ∨ ∃ before, before ++ [c] <+: common))
    (h : viewer.Stands P schedule base common epochs pending) (hidle : viewer.phase = .idle) :
    (viewer.answer P schedule payload).Stands P schedule base common epochs pending := by
  cases payload with
  | other => exact h
  | rekey m =>
    obtain ⟨c, hc, rfl, hpl⟩ := hpayload m rfl
    have hafter : After P base viewer.epochState epochs := by
      have hphase := h.inPhase
      rw [hidle] at hphase
      exact hphase
    have hcount := hnew c hc
    unfold Viewer.answer RekeyEpochContextV1.proposal SessionEpochState.validateProposal
    simp only [← hcount, and_true]
    by_cases hcon : viewer.epochState.Continues c
    · rw [if_pos hcon]
      have hnext := hafter.continues_iff.mp hcon
      obtain ⟨hpen, rfl⟩ := h.reaches.pending_of_next hfree hcommon hproposed hpl hnext
      rcases hafter.deriveAndInstall schedule c with ⟨_, st, hst, hafter'⟩ | ⟨e, st, hst, hafter'⟩
      · simp only [hst]
        exact ⟨h.reaches, h.installs, ⟨rfl, c, hpen, hnext, hafter', rfl, rfl⟩, h.acks⟩
      · simp only [hst]
        exact ⟨h.reaches, h.installs, .inl hafter', h.acks⟩
    · rw [if_neg hcon]
      exact ⟨h.reaches, h.installs, .inl (hafter.of_eq rfl rfl rfl), h.acks⟩

variable {st : SessionEpochState} {installed : List InstalledEpoch} {phase : ViewerPhase}

lemma ViewerPhase.Fits.end (h : phase.Fits P schedule base st installed common epochs pending) :
    ViewerPhase.ended.Fits P schedule base st installed common epochs pending := by
  cases phase with
  | idle => exact .inl h
  | accepted epochHash keys =>
    obtain ⟨hepo, c, hc, hnext, hafter, _⟩ := h
    exact .inr ⟨hepo, c, hc, hnext, hafter⟩
  | installed epochHash => exact .inl h.1
  | acked => exact .inl h
  | ended => exact h

lemma ViewerPhase.Fits.after (h : phase.Fits P schedule base st installed common epochs pending)
    (hdone : pending = none ∨ epochs ≠ common) : After P base st epochs := by
  rcases h.end with hafter | ⟨hepo, c, hc, _⟩
  · exact hafter
  · exfalso
    rcases hdone with rfl | hne
    · cases hc
    · exact hne hepo

lemma Viewer.Stands.step {fromHost : List Payload} (hfree : CollisionFree P base contexts)
    (hnew : MadeByNew contexts) (hcommon : EpochChain P base contexts common)
    (hproposed : ∀ c ∈ pending, c ∈ contexts) (hmessages : ∀ m, Payload.rekey m ∈ fromHost →
      ∃ c ∈ contexts, m = c.proposal P ∧ (c ∈ pending ∨ ∃ before, before ++ [c] <+: common))
    (h : viewer.Stands P schedule base common epochs pending) (event : ViewerEvent) :
    ∃ epochs', (viewer.step P schedule fromHost event).Stands P schedule base common epochs'
      pending := by
  have hphase := h.inPhase
  cases event with
  | receive opened =>
    refine ⟨epochs, ?_⟩
    simp only [Viewer.step]
    split
    · rename_i payload hidle hope
      obtain ⟨i, _, hi⟩ := Option.bind_eq_some_iff.mp hope
      refine h.answer hfree hnew hcommon hproposed ?_ hidle
      rintro m rfl
      exact hmessages m (List.mem_of_getElem? hi)
    · exact h
  | install =>
    simp only [Viewer.step]
    split
    · rename_i epochHash keys hacc
      rw [hacc] at hphase
      obtain ⟨rfl, c, hc, hnext, hafter, rfl, rfl⟩ := hphase
      have hent : viewer.epochState.installedEpoch (deriveRekeyEpochKeys P schedule c) =
          c.installed P schedule := hafter.installedEpoch hnext
      refine ⟨epochs ++ [c], .inr ⟨c, hc, hnext, rfl⟩, ?_, ⟨hafter, _,
        List.mem_append_right _ (List.mem_singleton_self _), by rw [hent]; rfl⟩, ?_⟩
      · rw [hent, h.installs, List.map_append, List.map_singleton]
      · intro keyEpoch epochHash hmem
        obtain ⟨a, ha, hhash⟩ := h.acks keyEpoch epochHash hmem
        exact ⟨a, List.mem_append_left _ ha, hhash⟩
    · exact ⟨epochs, h⟩
  | sealAck =>
    refine ⟨epochs, ?_⟩
    simp only [Viewer.step]
    split
    · rename_i epochHash hinstalled
      rw [hinstalled] at hphase
      refine ⟨h.reaches, h.installs, hphase.1, ?_⟩
      intro keyEpoch epochHash' hmem
      rcases List.mem_append.mp hmem with hold | hlast
      · exact h.acks keyEpoch epochHash' hold
      · obtain ⟨-, rfl⟩ : keyEpoch = viewer.epochState.currentEpoch ∧ epochHash' = epochHash := by
          simpa using hlast
        exact hphase.2
    · exact h
  | sendReturns ok =>
    refine ⟨epochs, ?_⟩
    simp only [Viewer.step]
    split
    · rename_i hack
      rw [hack] at hphase
      cases ok with
      | true => exact ⟨h.reaches, h.installs, hphase, h.acks⟩
      | false => exact ⟨h.reaches, h.installs, hphase.end, h.acks⟩
    · exact h
  | traffic =>
    refine ⟨epochs, h.reaches, h.installs, hphase, ?_⟩
    intro keyEpoch epochHash hmem
    rcases List.mem_append.mp hmem with hold | hlast
    · exact h.acks keyEpoch epochHash hold
    · simp at hlast
  | stop => exact ⟨epochs, h.reaches, h.installs, hphase.end, h.acks⟩

lemma HostPhase.Fits.of_eq {st' : SessionEpochState} {phase : HostPhase}
    (h : phase.Fits P schedule base st common epochs pending)
    (hcur : st'.currentEpoch = st.currentEpoch)
    (hbase : st'.baseTranscriptHash = st.baseTranscriptHash)
    (hhash : st'.previousEpochHash = st.previousEpochHash) :
    phase.Fits P schedule base st' common epochs pending := by
  cases phase with
  | idle => exact ⟨h.1, h.2.of_eq hcur hbase hhash⟩
  | proposed c => exact ⟨h.1, h.2.1, h.2.2.of_eq hcur hbase hhash⟩
  | sent c => exact ⟨h.1, h.2.1, h.2.2.of_eq hcur hbase hhash⟩
  | derived c keys => exact ⟨h.1, h.2.1, h.2.2.1.of_eq hcur hbase hhash, h.2.2.2⟩
  | waiting c => exact ⟨h.1, h.2.1, h.2.2.of_eq hcur hbase hhash⟩
  | ended => trivial

lemma Host.Stands.step {host : Host} {fromViewer : List Payload} {event : HostEvent}
    (h : host.Stands P schedule base contexts common epochs pending)
    (hstart : ∀ keyEpoch base previous reason, event ≠ .rekey keyEpoch base previous reason)
    (hreceive : ∀ opened c, event = .receive opened → host.phase = .waiting c →
      isAckOf P host.epochState c (opened.bind (fromViewer[·]?)) = false) :
    ∃ epochs', (host.step P schedule fromViewer event).Stands P schedule base contexts common
      epochs' pending := by
  have hphase := h.inPhase
  cases event with
  | rekey keyEpoch base previous reason => exact absurd rfl (hstart keyEpoch base previous reason)
  | sendReturns ok =>
    refine ⟨epochs, ?_⟩
    simp only [Host.step]
    split
    · rename_i c hpro
      rw [hpro] at hphase
      cases ok with
      | true => exact ⟨h.reaches, h.installs, hphase, h.proposals⟩
      | false => exact ⟨h.reaches, h.installs, trivial, h.proposals⟩
    · exact h
  | derive =>
    refine ⟨epochs, ?_⟩
    simp only [Host.step]
    split
    · rename_i c hsent
      rw [hsent] at hphase
      obtain ⟨hpen, hepo, hafter⟩ := hphase
      rcases hafter.deriveAndInstall schedule c with ⟨hnext, st, hst, hafter'⟩ | ⟨e, st, hst, _⟩
      · simp only [hst]
        exact ⟨h.reaches, h.installs, ⟨⟨hpen, hepo⟩, hnext, hafter', rfl⟩, h.proposals⟩
      · simp only [hst]
        exact ⟨h.reaches, h.installs, trivial, h.proposals⟩
    · exact h
  | install =>
    simp only [Host.step]
    split
    · rename_i c keys hderived
      rw [hderived] at hphase
      obtain ⟨⟨hpen, rfl⟩, hnext, hafter, rfl⟩ := hphase
      refine ⟨epochs ++ [c], .inr ⟨c, hpen, hnext, rfl⟩, ?_, ⟨hpen, rfl, hafter⟩, h.proposals⟩
      rw [hafter.installedEpoch hnext, h.installs, List.map_append, List.map_singleton]
    · exact ⟨epochs, h⟩
  | receive opened =>
    refine ⟨epochs, ?_⟩
    simp only [Host.step]
    split
    · rename_i c hwaiting
      rw [hreceive opened c rfl hwaiting]
      exact ⟨h.reaches, h.installs, trivial, h.proposals⟩
    · exact h
  | traffic audio bytes =>
    refine ⟨epochs, h.reaches, h.installs, ?_, ?_⟩
    · cases audio with
      | true => exact hphase.of_eq rfl rfl rfl
      | false => exact hphase.of_eq rfl rfl rfl
    · intro m hmem
      rcases List.mem_append.mp hmem with hold | hlast
      · exact h.proposals m hold
      · simp at hlast
  | stop => exact ⟨epochs, h.reaches, h.installs, trivial, h.proposals⟩

namespace RekeySession.Synced

variable (hfree : CollisionFree P base contexts)
  (h : s.Synced P schedule base contexts common hostEpochs viewerEpochs pending)

include h

lemma start {keyEpoch : UInt64} {transcript previous : FixedBytes 32} {reason : RekeyReason}
    (hcontext : .new keyEpoch transcript previous reason ∈ contexts) (hidle : s.host.phase = .idle) :
    (s.step P schedule (.host (.rekey keyEpoch transcript previous reason))).Synced P schedule base
      contexts common hostEpochs viewerEpochs (some (.new keyEpoch transcript previous reason)) := by
  have hphase := h.host.inPhase
  rw [hidle] at hphase
  obtain ⟨rfl, hafter⟩ := hphase
  have hhost := h.host.reaches.of_none
  have hvie := h.viewer.reaches.of_none
  refine ⟨h.chain, ?_, ?_, ?_⟩
  · intro c hc
    cases hc
    exact hcontext
  · simp only [step, Host.step, hidle]
    refine ⟨.inl hhost, h.host.installs, ⟨rfl, hhost, hhost ▸ hafter⟩, ?_⟩
    intro m hmem
    rcases List.mem_append.mp hmem with hold | hlast
    · obtain ⟨c, hc, hm, hpl⟩ := h.host.proposals m hold
      exact ⟨c, hc, hm, .inr (hpl.resolve_left (by simp))⟩
    · exact ⟨_, hcontext, by simpa using hlast, .inl rfl⟩
  · refine ⟨.inl hvie, h.viewer.installs, ?_, h.viewer.acks⟩
    have hphase := h.viewer.inPhase
    have hafter := hphase.after (.inl rfl)
    show s.viewer.phase.Fits P schedule base s.viewer.epochState s.viewer.installed common
      viewerEpochs _
    cases hp : s.viewer.phase with
    | accepted epochHash keys =>
      rw [hp] at hphase
      obtain ⟨_, c, hc, _⟩ := hphase
      cases hc
    | ended => exact .inl hafter
    | idle | installed epochHash | acked =>
      rw [hp] at hphase
      exact hphase

lemma host_after (hidle : s.host.phase = .idle) : After P base s.host.epochState hostEpochs := by
  have hphase := h.host.inPhase
  rw [hidle] at hphase
  exact hphase.2

lemma viewer_after (hpending : pending = none) : After P base s.viewer.epochState viewerEpochs :=
  h.viewer.inPhase.after (.inl hpending)

include hfree

variable {opened : Option Nat}

section

variable (hwaiting : s.host.phase = .waiting c)
  (hack : isAckOf P s.host.epochState c (opened.bind (s.viewer.outbox[·]?)) = true)

include hwaiting hack

lemma viewerEpochs_of_ack :
    pending = some c ∧ hostEpochs = common ++ [c] ∧ viewerEpochs = common ++ [c] ∧
      Next P base common c ∧ After P base s.host.epochState hostEpochs := by
  have hphase := h.host.inPhase
  rw [hwaiting] at hphase
  obtain ⟨hpen, hhost, hafter⟩ := hphase
  have hnext : Next P base common c := by
    rcases h.host.reaches with heq | ⟨c', _, hnext, heq⟩
    · rw [hhost] at heq
      simp at heq
    · obtain ⟨-, hlast⟩ := List.append_inj' (hhost.symm.trans heq) rfl
      cases hlast
      exact hnext
  refine ⟨hpen, hhost, ?_, hnext, hafter⟩
  -- the acknowledged epoch is among those that the viewer installed
  unfold isAckOf at hack
  split at hack
  · rename_i keyEpoch epochHash hope
    obtain ⟨i, _, hi⟩ := Option.bind_eq_some_iff.mp hope
    obtain ⟨a, ha, hhash⟩ := h.viewer.acks keyEpoch epochHash (List.mem_of_getElem? hi)
    rw [h.viewer.installs] at ha
    obtain ⟨c', hc', rfl⟩ := List.mem_map.mp ha
    have heq : c'.epochHash P = c.epochHash P := hhash.trans (of_decide_eq_true hack).2
    rcases h.viewer.reaches with hvie | ⟨c'', hc'', _, hvie⟩
    · exfalso
      rw [hvie] at hc'
      exact h.chain.hash_ne hfree (h.proposed c hpen) hnext hc' heq
    · obtain rfl : c = c'' := Option.some.inj (hpen.symm.trans hc'')
      exact hvie
  · cases hack

lemma complete :
    (s.step P schedule (.host (.receive opened))).Synced P schedule base contexts (common ++ [c])
      (common ++ [c]) (common ++ [c]) none := by
  obtain ⟨rfl, rfl, rfl, hnext, hafter⟩ := h.viewerEpochs_of_ack hfree hwaiting hack
  refine ⟨EachAfter.concat h.chain ⟨h.proposed c rfl, hnext⟩, by simp, ?_, ?_⟩
  · simp only [step, Host.step, hwaiting, hack, if_true]
    refine ⟨.inl rfl, h.host.installs, ⟨rfl, hafter⟩, ?_⟩
    intro m hmem
    obtain ⟨c', hc', hm, hpl⟩ := h.host.proposals m hmem
    refine ⟨c', hc', hm, .inr ?_⟩
    rcases hpl with hpen | ⟨before, hbefore⟩
    · cases hpen
      exact ⟨common, List.prefix_rfl⟩
    · exact ⟨before, hbefore.trans (List.prefix_append common [c])⟩
  · refine ⟨.inl rfl, h.viewer.installs, ?_, h.viewer.acks⟩
    have hphase := h.viewer.inPhase
    have hne : common ++ [c] ≠ common := by simp
    have hafter' := hphase.after (.inr hne)
    show s.viewer.phase.Fits P schedule base s.viewer.epochState s.viewer.installed _ _ _
    cases hp : s.viewer.phase with
    | accepted epochHash keys =>
      rw [hp] at hphase
      exact absurd hphase.1 hne
    | ended => exact .inl hafter'
    | idle | installed epochHash | acked =>
      rw [hp] at hphase
      exact hphase

end

lemma step (hnew : MadeByNew contexts) {event : SessionEvent}
    (hevent : proposedIn [event] ⊆ contexts) :
    ∃ common' hostEpochs' viewerEpochs' pending', (s.step P schedule event).Synced P schedule base
      contexts common' hostEpochs' viewerEpochs' pending' := by
  cases event with
  | viewer event =>
    obtain ⟨viewerEpochs', hvie⟩ := h.viewer.step hfree hnew h.chain h.proposed
      h.host.proposals event
    exact ⟨common, hostEpochs, viewerEpochs', pending, h.chain, h.proposed, h.host, hvie⟩
  | host event =>
    by_cases hstart : ∃ keyEpoch transcript previous reason,
        event = .rekey keyEpoch transcript previous reason ∧ s.host.phase = .idle
    · obtain ⟨keyEpoch, transcript, previous, reason, rfl, hidle⟩ := hstart
      have hcon : .new keyEpoch transcript previous reason ∈ contexts :=
        hevent ⟨keyEpoch, transcript, previous, reason, List.mem_singleton_self _, rfl⟩
      exact ⟨_, _, _, _, h.start hcon hidle⟩
    by_cases hcom : ∃ opened c, event = .receive opened ∧ s.host.phase = .waiting c ∧
        isAckOf P s.host.epochState c (opened.bind (s.viewer.outbox[·]?)) = true
    · obtain ⟨opened, c, rfl, hwaiting, hack⟩ := hcom
      exact ⟨_, _, _, _, h.complete hfree hwaiting hack⟩
    obtain ⟨hostEpochs', hhost⟩ : ∃ hostEpochs',
        (s.host.step P schedule s.viewer.outbox event).Stands P schedule base contexts common
          hostEpochs' pending := by
      by_cases hrek : ∃ keyEpoch transcript previous reason,
          event = .rekey keyEpoch transcript previous reason
      · obtain ⟨keyEpoch, transcript, previous, reason, rfl⟩ := hrek
        refine ⟨hostEpochs, ?_⟩
        simp only [Host.step]
        split
        · rename_i hidle
          exact absurd ⟨keyEpoch, transcript, previous, reason, rfl, hidle⟩ hstart
        · exact h.host
      · apply h.host.step
        · intro keyEpoch transcript previous reason heq
          exact hrek ⟨keyEpoch, transcript, previous, reason, heq⟩
        · intro opened c heq hwaiting
          by_contra hack
          exact hcom ⟨opened, c, heq, hwaiting, by simpa using hack⟩
    exact ⟨common, hostEpochs', viewerEpochs, pending, h.chain, h.proposed, hhost, h.viewer⟩

end RekeySession.Synced

/-! ## Whole runs -/

lemma madeByNew_proposedIn (events : List SessionEvent) : MadeByNew (proposedIn events) := by
  rintro c ⟨keyEpoch, transcript, previous, reason, _, rfl⟩
  rfl

lemma run_synced (host viewerPolicy : RekeyPolicy) (events : List SessionEvent)
    (hfree : CollisionFree P base (proposedIn events)) : ∃ common hostEpochs viewerEpochs pending,
      ((start base host viewerPolicy).run P schedule events).Synced P schedule
        base (proposedIn events) common hostEpochs viewerEpochs pending := by
  have hstart : After P base (SessionEpochState.new base host) [] := ⟨rfl, rfl, rfl⟩
  have hstart' : After P base (SessionEpochState.new base viewerPolicy) [] := ⟨rfl, rfl, rfl⟩
  refine List.foldlRecOn (motive := fun s : RekeySession => ∃ common hostEpochs viewerEpochs pending,
    s.Synced P schedule base (proposedIn events) common hostEpochs viewerEpochs pending) events
    (step P schedule) ?_ ?_
  · refine ⟨[], [], [], none, eachAfter_nil, by simp, ?_, ?_⟩
    · exact ⟨.inl rfl, rfl, ⟨rfl, hstart⟩, nofun⟩
    · exact ⟨.inl rfl, rfl, hstart', nofun⟩
  · rintro s ⟨common, hostEpochs, viewerEpochs, pending, h⟩ event hmem
    apply h.step hfree (madeByNew_proposedIn events)
    rintro c ⟨keyEpoch, transcript, previous, reason, hevent, rfl⟩
    rw [List.mem_singleton] at hevent
    exact ⟨keyEpoch, transcript, previous, reason, hevent ▸ hmem, rfl⟩

variable {i : Nat} {a : InstalledEpoch}

lemma EpochChain.keyEpoch_of_getElem? (h : EpochChain P base contexts epochs)
    (ha : (epochs.map (RekeyEpochContextV1.installed P schedule))[i]? = some a) :
    a.keyEpoch = UInt64.ofNat (i + 1) := by
  rw [List.getElem?_map, Option.map_eq_some_iff] at ha
  obtain ⟨c, hc, rfl⟩ := ha
  obtain ⟨hlt, hget⟩ := List.getElem?_eq_some_iff.mp hc
  have hspl : epochs = epochs.take i ++ c :: epochs.drop (i + 1) := by
    rw [← hget, List.cons_getElem_drop_succ, List.take_append_drop]
  have hnext := (h (epochs.take i) c (epochs.drop (i + 1)) hspl).2
  rw [show (c.installed P schedule).keyEpoch = c.keyEpoch from rfl, hnext.keyEpoch,
    List.length_take_of_le (Nat.le_of_lt hlt)]

lemma getElem?_of_isPrefix {xs ys : List InstalledEpoch} (h : xs <+: ys) (ha : xs[i]? = some a) :
    ys[i]? = some a := by
  obtain ⟨rest, rfl⟩ := h
  obtain ⟨hlt, _⟩ := List.getElem?_eq_some_iff.mp ha
  rw [List.getElem?_append_left hlt, ha]

lemma ack_of_returnsOk {event : SessionEvent} (h : s.ReturnsOk P schedule event) :
    ∃ opened c, event = .host (.receive opened) ∧ s.host.phase = .waiting c ∧
      isAckOf P s.host.epochState c (opened.bind (s.viewer.outbox[·]?)) = true := by
  obtain ⟨⟨c, hwaiting⟩, hidle⟩ := h
  cases event with
  | viewer event =>
    have hsame : s.host.phase = .idle := hidle
    rw [hwaiting] at hsame
    cases hsame
  | host event =>
    cases event with
    | receive opened =>
      refine ⟨opened, c, rfl, hwaiting, ?_⟩
      simp only [step, Host.step, hwaiting] at hidle
      by_contra hack
      rw [if_neg hack] at hidle
      cases hidle
    | rekey keyEpoch transcript previous reason =>
      simp [step, Host.step, hwaiting] at hidle
    | sendReturns ok => simp [step, Host.step, hwaiting] at hidle
    | derive => simp [step, Host.step, hwaiting] at hidle
    | install => simp [step, Host.step, hwaiting] at hidle
    | traffic audio bytes => simp [step, Host.step, hwaiting] at hidle
    | stop => simp [step, Host.step] at hidle

end Synced

/-- In every state of every run the epochs that one side installed are the first of those of the
other side, with at most one missing; they have the numbers from `1` on (as 64-bit numbers) and the
same hashes and keys on both sides, whether they are told apart by their place or, until the
numbers start again, by their number. When a rekey of the host returns, both sides are in the same
epoch. -/
theorem epochs_agree (schedule : SessionKeySchedule) (base : FixedBytes 32)
    (hostPolicy viewerPolicy : RekeyPolicy) (events : List SessionEvent)
    (hfree : CollisionFree P base (proposedIn events)) (s : RekeySession)
    (hs : s = (start base hostPolicy viewerPolicy).run P schedule events) :
    (s.host.installed <+: s.viewer.installed ∨ s.viewer.installed <+: s.host.installed) ∧
    s.host.installed.length ≤ s.viewer.installed.length + 1 ∧
    s.viewer.installed.length ≤ s.host.installed.length + 1 ∧
    (∀ (i : Nat) (a : InstalledEpoch), s.host.installed[i]? = some a →
      a.keyEpoch = UInt64.ofNat (i + 1)) ∧
    (∀ (i : Nat) (a : InstalledEpoch), s.viewer.installed[i]? = some a →
      a.keyEpoch = UInt64.ofNat (i + 1)) ∧
    (∀ (i : Nat) (a b : InstalledEpoch), s.host.installed[i]? = some a →
      s.viewer.installed[i]? = some b → a = b) ∧
    (s.host.installed.length < 2 ^ 64 → s.viewer.installed.length < 2 ^ 64 →
      ∀ a ∈ s.host.installed, ∀ b ∈ s.viewer.installed, a.keyEpoch = b.keyEpoch → a = b) ∧
    ∀ event, s.ReturnsOk P schedule event →
      (s.step P schedule event).host.installed = (s.step P schedule event).viewer.installed ∧
      (s.step P schedule event).host.epochState.currentEpoch =
        UInt64.ofNat (s.step P schedule event).host.installed.length ∧
      (s.step P schedule event).viewer.epochState.currentEpoch =
        UInt64.ofNat (s.step P schedule event).viewer.installed.length := by
  subst hs
  obtain ⟨common, hostEpochs, viewerEpochs, pending, h⟩ :=
    @run_synced P schedule base hostPolicy viewerPolicy events hfree
  generalize (start base hostPolicy viewerPolicy).run P schedule events = s at h ⊢
  rw [h.host.installs, h.viewer.installs]
  have hhost := h.host.reaches.chain h.chain h.proposed
  have hviewer := h.viewer.reaches.chain h.chain h.proposed
  have hpre : hostEpochs <+: viewerEpochs ∨ viewerEpochs <+: hostEpochs :=
    h.host.reaches.prefix_or h.viewer.reaches
  have hplace : ∀ (i : Nat) (a b : InstalledEpoch),
      (hostEpochs.map (RekeyEpochContextV1.installed P schedule))[i]? = some a →
      (viewerEpochs.map (RekeyEpochContextV1.installed P schedule))[i]? = some b → a = b := by
    intro i a b ha hb
    rcases hpre with hp | hp
    · exact Option.some.inj ((getElem?_of_isPrefix (hp.map _) ha).symm.trans hb)
    · exact Option.some.inj (ha.symm.trans (getElem?_of_isPrefix (hp.map _) hb))
  refine ⟨?_, ?_, ?_, ?_, ?_, hplace, ?_, ?_⟩
  · exact hpre.imp (fun hp => hp.map _) (fun hp => hp.map _)
  · rw [List.length_map, List.length_map]
    exact h.host.reaches.length_le h.viewer.reaches
  · rw [List.length_map, List.length_map]
    exact h.viewer.reaches.length_le h.host.reaches
  · intro i a ha
    exact hhost.keyEpoch_of_getElem? ha
  · intro i a ha
    exact hviewer.keyEpoch_of_getElem? ha
  · intro hhostLen hviewerLen a ha b hb heq
    obtain ⟨i, hi⟩ := List.mem_iff_getElem?.mp ha
    obtain ⟨j, hj⟩ := List.mem_iff_getElem?.mp hb
    have hiLt := (List.getElem?_eq_some_iff.mp hi).1
    have hjLt := (List.getElem?_eq_some_iff.mp hj).1
    rw [hhost.keyEpoch_of_getElem? hi, hviewer.keyEpoch_of_getElem? hj] at heq
    obtain rfl : i = j := by
      have hnat := congrArg UInt64.toNat heq
      rw [UInt64.toNat_ofNat', UInt64.toNat_ofNat', Nat.mod_eq_of_lt (by omega),
        Nat.mod_eq_of_lt (by omega)] at hnat
      omega
    exact hplace i a b hi hj
  · intro event hok
    obtain ⟨opened, c, rfl, hwaiting, hack⟩ := ack_of_returnsOk hok
    have hdone := h.complete hfree hwaiting hack
    refine ⟨hdone.host.installs.trans hdone.viewer.installs.symm, ?_, ?_⟩
    · rw [(hdone.host_after hok.2).current, hdone.host.installs, List.length_map]
    · rw [(hdone.viewer_after rfl).current, hdone.viewer.installs, List.length_map]

namespace SampleRekey

def reasonIndex : RekeyReason → UInt32
  | .manual => 0
  | .frameCount => 1
  | .byteCount => 2
  | .time => 3
  | .transportChange => 4

def primitives : KeyPrimitives where
  blake3 := sumDigest 32
  hkdfSha256 _ key info := sumDigest 32 (key ++ info)
  canonicalBytes context :=
    u64Le (UInt64.ofNat (utf8 context.schema).length) ++ utf8 context.schema ++
      u64Le context.keyEpoch ++ context.baseTranscriptHash.toList ++
      context.previousEpochHash.toList ++ u32Le (reasonIndex context.reason)

def base : FixedBytes 32 := .replicate 32 7

def schedule : SessionKeySchedule := deriveSessionKeySchedule primitives base base

def policy : RekeyPolicy := ⟨4, 0, 1, true⟩

def events : List SessionEvent :=
  [.host (.rekey 1 base base .frameCount), .viewer (.receive (some 0)), .viewer .traffic,
    .host (.sendReturns true), .viewer .install, .host .derive, .viewer .sealAck, .host .install]

lemma hashes_differ : CollisionFree primitives base (proposedIn events) := by
  have h : ∀ c ∈ proposedIn events, c = .new 1 base base .frameCount := by
    rintro c ⟨keyEpoch, transcript, previous, reason, hmem, rfl⟩
    simp only [events, List.mem_cons, SessionEvent.host.injEq, HostEvent.rekey.injEq, reduceCtorEq,
      List.not_mem_nil, or_false] at hmem
    obtain ⟨rfl, rfl, rfl, rfl⟩ := hmem
    rfl
  refine ⟨?_, ?_⟩
  · intro c hc c' hc' _
    rw [h c hc, h c' hc']
  · intro c hc
    rw [h c hc]
    decide +kernel

def waiting : RekeySession := (start base policy policy).run primitives schedule events

def acknowledged : RekeySession := waiting.step primitives schedule (.host (.receive (some 1)))

theorem epochs_agree_first_rekey :
    acknowledged.host.installed = acknowledged.viewer.installed ∧
      acknowledged.host.epochState.currentEpoch = 1 ∧
      acknowledged.viewer.epochState.currentEpoch = 1 := by
  have hok : waiting.ReturnsOk primitives schedule (.host (.receive (some 1))) :=
    ⟨⟨.new 1 base base .frameCount, by decide +kernel⟩, by decide +kernel⟩
  obtain ⟨_, _, _, _, _, _, _, hdone⟩ :=
    epochs_agree primitives schedule base policy policy events hashes_differ waiting rfl
  obtain ⟨hsame, hhost, hviewer⟩ := hdone _ hok
  have hone : UInt64.ofNat acknowledged.host.installed.length = 1 := by decide +kernel
  have hone' : UInt64.ofNat acknowledged.viewer.installed.length = 1 := by decide +kernel
  unfold acknowledged at hone hone' ⊢
  exact ⟨hsame, hhost.trans hone, hviewer.trans hone'⟩

end SampleRekey

end XeniaPeer.Session
