import Mathlib.Data.List.Induction
import XeniaPeer.Foundation.Codes
import XeniaPeer.Foundation.Runs

/-!
# Lanes and their nonces

`LaneSession` (`session.rs`) is four wire sessions under one source id, one for each lane, each with
its own traffic key. Host and viewer of one session hold one `LaneSession` each, with the same
source id, epoch byte and key schedule; only their counters are their own.

Main result: `nonces_unique_iff`.
-/

namespace XeniaPeer.Session

open Foundation

inductive SessionRole where
  | host
  | viewer
deriving DecidableEq

instance (p : SessionRole → Prop) [DecidablePred p] : Decidable (∀ role, p role) :=
  decidable_of_iff (p .host ∧ p .viewer)
    ⟨fun h role => by cases role; exacts [h.1, h.2], fun h => ⟨h .host, h .viewer⟩⟩

inductive FrameLane where
  | control
  | video
  | audio
  | telemetry
deriving DecidableEq

inductive PixelFormat where
  | rgba8
  | bgra8
  | h264
  | vp9
  | passthrough
  | hdc
  | telemetry
  | audio
  | capabilities
  | rekey
  | clipboard
deriving DecidableEq

structure RawFrame where
  frameId : UInt64
  pixelFormat : PixelFormat
  pixels : Bytes
deriving DecidableEq

def FrameLane.forFrame (frame : RawFrame) : FrameLane :=
  match frame.pixelFormat with
  | .capabilities => .control
  | .rekey => .control
  | .clipboard => .control
  | .audio => .audio
  | .telemetry => .telemetry
  | _ => .video

/-- What the wire library decides: its own payload types, where those of the application start at
`0x30`, and what `install_key` makes of the counter of a session. -/
structure WireLibrary where
  (frame input : UInt8)
  frame_lt : frame < 0x30
  input_lt : input < 0x30
  frame_ne_input : frame ≠ input
  counterAfterInstall : Nat → Nat
  counterAfterInstall_le : ∀ counter, counterAfterInstall counter ≤ counter

def payloadTypeClipboard : UInt8 := 0x30

def payloadTypeFileTransferFromHost : UInt8 := 0x31

def payloadTypeFileTransferFromViewer : UInt8 := 0x32

/-! ## Wire sessions -/

structure WireSession where
  sourceId : FixedBytes 8
  epoch : UInt8
  (keyEpoch counter : Nat)

inductive Message where
  | frame (frame : RawFrame)
  | input (sequence : UInt64) (payload : Bytes)
  | clipboard (sequence : UInt64) (content : Bytes)
  | fileTransfer (message : Bytes)
deriving DecidableEq

/-- A sealed envelope: who sealed what, on which lane, under which key, and the parts of its
nonce. -/
structure Envelope where
  role : SessionRole
  lane : FrameLane
  keyEpoch : Nat
  sourceId : FixedBytes 8
  (payloadType epoch : UInt8)
  counter : Nat
  message : Message

def Envelope.laneKey (e : Envelope) : FrameLane × Nat := (e.lane, e.keyEpoch)

def Envelope.nonce (e : Envelope) : Bytes :=
  e.sourceId.toList.take 6 ++ [e.payloadType, e.epoch] ++ leBytes 4 e.counter

/-! ## Lane sessions -/

structure LaneSession where
  (control video audio telemetry : WireSession)
  (nextInputSeq nextClipboardSeq : UInt64)

namespace LaneSession

def withFixture (sourceId : FixedBytes 8) (epoch : UInt8) : LaneSession :=
  let wire : WireSession := ⟨sourceId, epoch, 0, 0⟩
  ⟨wire, wire, wire, wire, 0, 0⟩

section

variable (s : LaneSession) (lib : WireLibrary) (role : SessionRole)

def lane : FrameLane → WireSession
  | .control => s.control
  | .video => s.video
  | .audio => s.audio
  | .telemetry => s.telemetry

def setLane (wire : WireSession) : FrameLane → LaneSession
  | .control => { s with control := wire }
  | .video => { s with video := wire }
  | .audio => { s with audio := wire }
  | .telemetry => { s with telemetry := wire }

def installRekeyKeys (s : LaneSession) : LaneSession :=
  let install (w : WireSession) : WireSession :=
    { w with keyEpoch := w.keyEpoch + 1, counter := lib.counterAfterInstall w.counter }
  { s with control := install s.control, video := install s.video, audio := install s.audio,
           telemetry := install s.telemetry }

def sealOn (lane : FrameLane) (payloadType : UInt8) (message : Message) : Envelope × LaneSession :=
  let wire := s.lane lane
  (⟨role, lane, wire.keyEpoch, wire.sourceId, payloadType, wire.epoch, wire.counter, message⟩,
    s.setLane { wire with counter := wire.counter + 1 } lane)

def sealFrame (s : LaneSession) (role : SessionRole) (frame : RawFrame) : Envelope × LaneSession :=
  s.sealOn role (.forFrame frame) lib.frame (.frame frame)

def sealControlFrame (s : LaneSession) (role : SessionRole) (frame : RawFrame) :
    Option (Envelope × LaneSession) :=
  if FrameLane.forFrame frame ≠ .control then none else some (s.sealFrame lib role frame)

def sealInputEvent (s : LaneSession) (role : SessionRole) (payload : Bytes) :
    Envelope × LaneSession :=
  { s with nextInputSeq := s.nextInputSeq + 1 }.sealOn role .control lib.input
    (.input s.nextInputSeq payload)

def sealClipboardEvent (content : Bytes) : Envelope × LaneSession :=
  { s with nextClipboardSeq := s.nextClipboardSeq + 1 }.sealOn role .control
    payloadTypeClipboard (.clipboard s.nextClipboardSeq content)

def sealFileTransferMessage (message : Bytes) : Envelope × LaneSession :=
  let payloadType := if role = .host then payloadTypeFileTransferFromHost
    else payloadTypeFileTransferFromViewer
  s.sealOn role .control payloadType (.fileTransfer message)

end

end LaneSession

/-! ## The two sides -/

structure World where
  (host viewer : LaneSession)
  log : List Envelope

namespace World

def start (sourceId : FixedBytes 8) (epoch : UInt8) : World :=
  ⟨.withFixture sourceId epoch, .withFixture sourceId epoch, []⟩

def session (w : World) : SessionRole → LaneSession
  | .host => w.host
  | .viewer => w.viewer

def setSession (w : World) (s : LaneSession) : SessionRole → World
  | .host => { w with host := s }
  | .viewer => { w with viewer := s }

end World

/-- What the two programs do with their sessions. The host seals frames of every kind; both
sides seal control frames (rekey proposals and their acknowledgements) and file-transfer
messages; input and the reverse clipboard are the viewer's. -/
inductive LaneOp where
  | frame (frame : RawFrame)
  | controlFrame (role : SessionRole) (frame : RawFrame)
  | input (payload : Bytes)
  | clipboard (content : Bytes)
  | fileTransfer (role : SessionRole) (message : Bytes)
  | installRekeyKeys (role : SessionRole)

namespace World

def record (w : World) (role : SessionRole) (sealed : Envelope × LaneSession) : World :=
  { w.setSession sealed.2 role with log := w.log ++ [sealed.1] }

def step (lib : WireLibrary) (w : World) : LaneOp → World
  | .frame frame => w.record .host (w.host.sealFrame lib .host frame)
  | .controlFrame role frame =>
    match (w.session role).sealControlFrame lib role frame with
    | some sealed => w.record role sealed
    | none => w
  | .input payload => w.record .viewer (w.viewer.sealInputEvent lib .viewer payload)
  | .clipboard content => w.record .viewer (w.viewer.sealClipboardEvent .viewer content)
  | .fileTransfer role message =>
    w.record role ((w.session role).sealFileTransferMessage role message)
  | .installRekeyKeys role => w.setSession ((w.session role).installRekeyKeys lib) role

def run (lib : WireLibrary) (w : World) (ops : List LaneOp) : World :=
  ops.foldl (step lib) w

def wire (w : World) (role : SessionRole) (lane : FrameLane) : WireSession :=
  (w.session role).lane lane

end World

/-! ## What a step seals -/

def LaneOp.sealing (lib : WireLibrary) :
    LaneOp → Option (SessionRole × FrameLane × UInt8)
  | .frame f => some (.host, .forFrame f, lib.frame)
  | .controlFrame role f =>
    if FrameLane.forFrame f ≠ .control then none else some (role, .control, lib.frame)
  | .input _ => some (.viewer, .control, lib.input)
  | .clipboard _ => some (.viewer, .control, payloadTypeClipboard)
  | .fileTransfer .host _ => some (.host, .control, payloadTypeFileTransferFromHost)
  | .fileTransfer .viewer _ => some (.viewer, .control, payloadTypeFileTransferFromViewer)
  | .installRekeyKeys _ => none

inductive Permitted (lib : WireLibrary) : SessionRole → FrameLane → UInt8 → Prop
  | hostFrame (lane : FrameLane) : Permitted lib .host lane lib.frame
  | viewerFrame : Permitted lib .viewer .control lib.frame
  | input : Permitted lib .viewer .control lib.input
  | clipboard : Permitted lib .viewer .control payloadTypeClipboard
  | fileFromHost : Permitted lib .host .control payloadTypeFileTransferFromHost
  | fileFromViewer : Permitted lib .viewer .control payloadTypeFileTransferFromViewer

variable {lib : WireLibrary} {lane : FrameLane} {type : UInt8}

lemma LaneOp.permitted {op : LaneOp} {role : SessionRole}
    (h : op.sealing lib = some (role, lane, type)) : Permitted lib role lane type := by
  cases op with
  | frame frame => cases h; exact .hostFrame _
  | controlFrame role' frame =>
    simp only [sealing] at h
    split at h
    · cases h
    · cases h
      cases role with
      | host => exact .hostFrame _
      | viewer => exact .viewerFrame
  | input payload => cases h; exact .input
  | clipboard content => cases h; exact .clipboard
  | fileTransfer role' message =>
    cases role' with
    | host => cases h; exact .fileFromHost
    | viewer => cases h; exact .fileFromViewer
  | installRekeyKeys role' => cases h

lemma Permitted.shared (hhost : Permitted lib .host lane type)
    (h : Permitted lib .viewer lane type) : lane = .control ∧ type = lib.frame := by
  have hf := UInt8.lt_iff_toNat_lt.mp lib.frame_lt
  have hi := UInt8.lt_iff_toNat_lt.mp lib.input_lt
  cases h with
  | viewerFrame => exact ⟨rfl, rfl⟩
  | input =>
    generalize htype : lib.input = type at hhost
    cases hhost with
    | hostFrame => exact absurd htype.symm lib.frame_ne_input
    | fileFromHost => rw [htype] at hi; exact absurd hi (by decide)
  | clipboard =>
    generalize htype : payloadTypeClipboard = type at hhost
    cases hhost with
    | hostFrame => rw [← htype] at hf; exact absurd hf (by decide)
    | fileFromHost => exact absurd htype (by decide)
  | fileFromViewer =>
    generalize htype : payloadTypeFileTransferFromViewer = type at hhost
    cases hhost with
    | hostFrame => rw [← htype] at hf; exact absurd hf (by decide)
    | fileFromHost => exact absurd htype (by decide)

lemma Permitted.shared_of_ne {r r' : SessionRole} (hr : r ≠ r')
    (h : Permitted lib r lane type) (h' : Permitted lib r' lane type) :
    lane = .control ∧ type = lib.frame := by
  cases r with
  | host =>
    cases r' with
    | host => exact absurd rfl hr
    | viewer => exact h.shared h'
  | viewer =>
    cases r' with
    | host => exact h'.shared h
    | viewer => exact absurd rfl hr

lemma LaneSession.lane_setLane (s : LaneSession) (wire : WireSession) (l l' : FrameLane) :
    (s.setLane wire l).lane l' = if l' = l then wire else s.lane l' := by
  cases l <;> cases l' <;> rfl

namespace World

variable {s : LaneSession}

lemma wire_record_sealOn (w : World) (role : SessionRole) (hs : ∀ l, s.lane l = w.wire role l)
    (lane : FrameLane) (type : UInt8) (message : Message) (r : SessionRole) (l : FrameLane) :
    (w.record role (s.sealOn role lane type message)).wire r l =
      if r = role ∧ l = lane then { w.wire r l with counter := (w.wire r l).counter + 1 }
      else w.wire r l := by
  by_cases hr : r = role
  · subst hr
    have h : (w.record r (s.sealOn r lane type message)).session r =
        s.setLane { s.lane lane with counter := (s.lane lane).counter + 1 } lane := by
      cases r <;> rfl
    rw [wire, h, LaneSession.lane_setLane]
    by_cases hl : l = lane
    · subst hl
      simp [hs]
    · simp [hl, hs]
  · have h : (w.record role (s.sealOn role lane type message)).session r = w.session r := by
      cases r <;> cases role <;> first | rfl | exact absurd rfl hr
    rw [wire, h]
    simp [hr, wire]

def sealedEnvelope (w : World) (role : SessionRole) (lane : FrameLane) (type : UInt8)
    (message : Message) : Envelope :=
  let wire := w.wire role lane
  ⟨role, lane, wire.keyEpoch, wire.sourceId, type, wire.epoch, wire.counter, message⟩

def Seals (w : World) (role : SessionRole) (lane : FrameLane) (type : UInt8) (w' : World) :
    Prop :=
  (∃ message, w'.log = w.log ++ [w.sealedEnvelope role lane type message]) ∧
    ∀ r l, w'.wire r l =
      if r = role ∧ l = lane then { w.wire r l with counter := (w.wire r l).counter + 1 }
      else w.wire r l

lemma seals_record (w : World) (role : SessionRole) (hs : ∀ l, s.lane l = w.wire role l)
    (lane : FrameLane) (type : UInt8) (message : Message) :
    w.Seals role lane type (w.record role (s.sealOn role lane type message)) := by
  refine ⟨⟨message, ?_⟩, w.wire_record_sealOn role hs lane type message⟩
  simp [record, LaneSession.sealOn, sealedEnvelope, hs]

variable {frame : RawFrame}

lemma step_controlFrame (w : World) (role : SessionRole)
    (h : FrameLane.forFrame frame = .control) : w.step lib (.controlFrame role frame) =
      w.record role ((w.session role).sealFrame lib role frame) := by
  simp [step, LaneSession.sealControlFrame, h]

lemma step_controlFrame_refused (w : World) (role : SessionRole)
    (h : FrameLane.forFrame frame ≠ .control) : w.step lib (.controlFrame role frame) = w := by
  simp [step, LaneSession.sealControlFrame, h]

variable {op : LaneOp}

lemma step_seals (w : World) {role : SessionRole} {lane : FrameLane} {type : UInt8}
    (h : op.sealing lib = some (role, lane, type)) :
    w.Seals role lane type (w.step lib op) := by
  cases op with
  | frame frame =>
    cases h
    exact w.seals_record .host (fun _ => rfl) _ _ _
  | controlFrame role' frame =>
    simp only [LaneOp.sealing] at h
    split at h
    · cases h
    · rename_i hlane
      cases h
      have hcon : FrameLane.forFrame frame = .control := not_not.mp hlane
      rw [w.step_controlFrame role hcon, LaneSession.sealFrame, hcon]
      exact w.seals_record role (fun _ => rfl) _ _ _
  | input payload =>
    cases h
    exact w.seals_record .viewer (fun l => by cases l <;> rfl) _ _ _
  | clipboard content =>
    cases h
    exact w.seals_record .viewer (fun l => by cases l <;> rfl) _ _ _
  | fileTransfer role' message =>
    cases role' with
    | host =>
      cases h
      exact w.seals_record .host (fun _ => rfl) _ _ _
    | viewer =>
      cases h
      exact w.seals_record .viewer (fun _ => rfl) _ _ _
  | installRekeyKeys role' => cases h

lemma step_silent (w : World) (h : op.sealing lib = none) :
    (w.step lib op).log = w.log ∧ ∀ r l,
      ((w.step lib op).wire r l).sourceId = (w.wire r l).sourceId ∧
      ((w.step lib op).wire r l).epoch = (w.wire r l).epoch ∧
      ((w.step lib op).wire r l).counter ≤ (w.wire r l).counter ∧
      ((w.step lib op).wire r l = w.wire r l ∨
        (w.wire r l).keyEpoch < ((w.step lib op).wire r l).keyEpoch) := by
  cases op with
  | controlFrame role frame =>
    simp only [LaneOp.sealing] at h
    split at h
    · rename_i hlane
      rw [w.step_controlFrame_refused role hlane]
      exact ⟨rfl, fun _ _ => ⟨rfl, rfl, Nat.le_refl _, .inl rfl⟩⟩
    · cases h
  | installRekeyKeys role =>
    refine ⟨by cases role <;> rfl, fun r l => ?_⟩
    by_cases hrole : r = role
    · subst hrole
      cases r <;> cases l <;>
        exact ⟨rfl, rfl, lib.counterAfterInstall_le _, .inr (Nat.lt_succ_self _)⟩
    · have hother : (w.step lib (.installRekeyKeys role)).wire r l = w.wire r l := by
        cases r <;> cases role <;> first | rfl | exact absurd rfl hrole
      rw [hother]
      exact ⟨rfl, rfl, Nat.le_refl _, .inl rfl⟩
  | fileTransfer role message => cases role <;> cases h
  | _ => cases h

end World

/-! ## Repeated nonces -/

def Envelope.Clash (a b : Envelope) : Prop := a.laneKey = b.laneKey ∧ a.nonce = b.nonce

instance (a b : Envelope) : Decidable (a.Clash b) :=
  inferInstanceAs (Decidable (a.laneKey = b.laneKey ∧ a.nonce = b.nonce))

/-- No two envelopes have one nonce under one key. -/
def NoncesUnique (log : List Envelope) : Prop := log.Pairwise (fun a b => ¬ a.Clash b)

lemma Envelope.nonce_eq_iff {a b : Envelope} (hsource : a.sourceId = b.sourceId)
    (hepoch : a.epoch = b.epoch) (ha : a.counter < 2 ^ 32) (hb : b.counter < 2 ^ 32) :
    a.nonce = b.nonce ↔ a.payloadType = b.payloadType ∧ a.counter = b.counter := by
  unfold nonce
  rw [hsource, hepoch, List.append_assoc, List.append_assoc, List.append_cancel_left_eq]
  simp only [List.cons_append, List.nil_append, List.cons.injEq, true_and]
  constructor
  · rintro ⟨htype, h⟩
    exact ⟨htype, leBytes_injOn 4 (by simpa using ha) (by simpa using hb) h⟩
  · rintro ⟨htype, h⟩
    exact ⟨htype, by rw [h]⟩

namespace World

def seals (w : World) (role : SessionRole) : Nat := w.log.countP (fun a => a.role = role)

/-- What holds in every reachable world: both sides share source id and epoch, a lane's counter is
at most the number of seals on it, and the log is made of permitted seals, those under the current
key below the counters. -/
structure Consistent (lib : WireLibrary) (sourceId : FixedBytes 8) (epoch : UInt8)
    (w : World) : Prop where
  sourceId_eq : ∀ r l, (w.wire r l).sourceId = sourceId
  epoch_eq : ∀ r l, (w.wire r l).epoch = epoch
  counter_le : ∀ r l, (w.wire r l).counter ≤ w.log.countP (fun a => a.role = r ∧ a.lane = l)
  log_sourceId : ∀ a ∈ w.log, a.sourceId = sourceId
  log_epoch : ∀ a ∈ w.log, a.epoch = epoch
  log_permitted : ∀ a ∈ w.log, Permitted lib a.role a.lane a.payloadType
  log_seals : ∀ a ∈ w.log, a.counter < w.seals a.role
  log_keyEpoch : ∀ a ∈ w.log, a.keyEpoch ≤ (w.wire a.role a.lane).keyEpoch
  log_lt : ∀ a ∈ w.log, a.keyEpoch = (w.wire a.role a.lane).keyEpoch →
    a.counter < (w.wire a.role a.lane).counter

variable {sourceId : FixedBytes 8} {epoch : UInt8}

lemma start_consistent : Consistent lib sourceId epoch (start sourceId epoch) := by
  refine ⟨?_, ?_, ?_, ?_, ?_, ?_, ?_, ?_, ?_⟩
  · intro r l
    cases r <;> cases l <;> rfl
  · intro r l
    cases r <;> cases l <;> rfl
  · intro r l
    cases r <;> cases l <;> exact Nat.le_refl 0
  all_goals nofun

variable {w w' : World} {role : SessionRole} {lane : FrameLane} {type : UInt8}

lemma counter_lt_seals (h : Consistent lib sourceId epoch w) (hseals : w.Seals role lane type w') :
    (w.wire role lane).counter < w'.seals role := by
  obtain ⟨⟨message, hlog⟩, -⟩ := hseals
  have hcounter := h.counter_le role lane
  have hle : w.log.countP (fun a => a.role = role ∧ a.lane = lane) ≤
      w.log.countP (fun a => a.role = role) := List.countP_mono_left (fun a _ ha => by simp_all)
  rw [seals, hlog, List.countP_append]
  simp only [sealedEnvelope, List.countP_singleton, decide_true, if_true]
  omega

lemma seals_consistent (h : Consistent lib sourceId epoch w)
    (hpermit : Permitted lib role lane type) (hseals : w.Seals role lane type w') :
    Consistent lib sourceId epoch w' := by
  obtain ⟨⟨message, hlog⟩, hwire⟩ := hseals
  have hsame : ∀ r l, (w'.wire r l).sourceId = (w.wire r l).sourceId ∧
      (w'.wire r l).epoch = (w.wire r l).epoch ∧
      (w'.wire r l).keyEpoch = (w.wire r l).keyEpoch := by
    intro r l
    rw [hwire]
    split <;> exact ⟨rfl, rfl, rfl⟩
  have hctr : ∀ r l, (w'.wire r l).counter =
      (w.wire r l).counter + if role = r ∧ lane = l then 1 else 0 := by
    intro r l
    rw [hwire]
    by_cases hrl : r = role ∧ l = lane
    · rw [if_pos hrl, if_pos ⟨hrl.1.symm, hrl.2.symm⟩]
    · rw [if_neg hrl, if_neg (fun hne => hrl ⟨hne.1.symm, hne.2.symm⟩)]
      rfl
  refine ⟨?_, ?_, ?_, ?_, ?_, ?_, ?_, ?_, ?_⟩
  · intro r l
    rw [(hsame r l).1]
    exact h.sourceId_eq r l
  · intro r l
    rw [(hsame r l).2.1]
    exact h.epoch_eq r l
  · intro r l
    have hle := h.counter_le r l
    rw [hctr, hlog, List.countP_append]
    simp only [sealedEnvelope, List.countP_singleton, decide_eq_true_eq]
    omega
  all_goals
    intro a ha
    rw [hlog, List.mem_append, List.mem_singleton] at ha
    rcases ha with hold | rfl
  · exact h.log_sourceId a hold
  · exact h.sourceId_eq role lane
  · exact h.log_epoch a hold
  · exact h.epoch_eq role lane
  · exact h.log_permitted a hold
  · exact hpermit
  · have hlt := h.log_seals a hold
    simp only [seals, hlog, List.countP_append] at hlt ⊢
    omega
  · exact counter_lt_seals h ⟨⟨message, hlog⟩, hwire⟩
  · rw [(hsame a.role a.lane).2.2]
    exact h.log_keyEpoch a hold
  · exact (hsame role lane).2.2.ge
  · intro hkey
    rw [(hsame a.role a.lane).2.2] at hkey
    have hlt := h.log_lt a hold hkey
    rw [hctr]
    omega
  · intro _
    rw [hctr]
    simp [sealedEnvelope]

lemma step_consistent (h : Consistent lib sourceId epoch w) (op : LaneOp) :
    Consistent lib sourceId epoch (w.step lib op) := by
  cases hop : op.sealing lib with
  | some made =>
    obtain ⟨role, lane, type⟩ := made
    exact seals_consistent h (LaneOp.permitted hop) (w.step_seals hop)
  | none =>
    obtain ⟨hlog, hwire⟩ := w.step_silent hop
    refine ⟨?_, ?_, ?_, ?_, ?_, ?_, ?_, ?_, ?_⟩
    · intro r l
      rw [(hwire r l).1]
      exact h.sourceId_eq r l
    · intro r l
      rw [(hwire r l).2.1]
      exact h.epoch_eq r l
    · intro r l
      rw [hlog]
      exact Nat.le_trans (hwire r l).2.2.1 (h.counter_le r l)
    all_goals
      intro a ha
      rw [hlog] at ha
    · exact h.log_sourceId a ha
    · exact h.log_epoch a ha
    · exact h.log_permitted a ha
    · rw [seals, hlog]
      exact h.log_seals a ha
    · rcases (hwire a.role a.lane).2.2.2 with hsame | hnewer
      · rw [hsame]
        exact h.log_keyEpoch a ha
      · exact Nat.le_trans (h.log_keyEpoch a ha) (Nat.le_of_lt hnewer)
    · -- under a newer key nothing has been sealed yet
      intro hkey
      rcases (hwire a.role a.lane).2.2.2 with hsame | hnewer
      · rw [hsame] at hkey ⊢
        exact h.log_lt a ha hkey
      · have hle := h.log_keyEpoch a ha
        omega

lemma run_consistent (ops : List LaneOp) :
    Consistent lib sourceId epoch ((start sourceId epoch).run lib ops) :=
  foldl_invariant (I := Consistent lib sourceId epoch)
    (fun _ op h => step_consistent h op) ops start_consistent

/-- A side that seals a frame on the control lane does so at a counter at which the other side
has not sealed a control-lane frame in this key epoch. -/
def FreshControlFrame (lib : WireLibrary) (w : World) (op : LaneOp) : Prop :=
  ∀ role, op.sealing lib = some (role, .control, lib.frame) →
    ∀ a ∈ w.log, a.role ≠ role → a.lane = .control → a.payloadType = lib.frame →
      a.keyEpoch = (w.wire role .control).keyEpoch →
      a.counter ≠ (w.wire role .control).counter

instance (lib : WireLibrary) (w : World) (op : LaneOp) :
    Decidable (w.FreshControlFrame lib op) :=
  inferInstanceAs (Decidable (∀ role, op.sealing lib = some (role, .control, lib.frame) →
    ∀ a ∈ w.log, a.role ≠ role → a.lane = .control → a.payloadType = lib.frame →
      a.keyEpoch = (w.wire role .control).keyEpoch →
      a.counter ≠ (w.wire role .control).counter))

lemma seals_mono (lib : WireLibrary) (w : World) (op : LaneOp) (role : SessionRole) :
    w.seals role ≤ (w.step lib op).seals role := by
  unfold seals
  cases hop : op.sealing lib with
  | none => rw [(w.step_silent hop).1]
  | some made =>
    obtain ⟨⟨message, hlog⟩, -⟩ := w.step_seals hop
    rw [hlog, List.countP_append]
    omega

section

variable (h : Consistent lib sourceId epoch w)

include h

lemma fresh_iff_no_clash {op : LaneOp} (hop : op.sealing lib = some (role, lane, type))
    (hbound : ∀ r, (w.step lib op).seals r < 2 ^ 32) (message : Message) :
    (∀ a ∈ w.log, ¬ a.Clash (w.sealedEnvelope role lane type message)) ↔
      w.FreshControlFrame lib op := by
  have hnew : (w.wire role lane).counter < 2 ^ 32 :=
    Nat.lt_trans (counter_lt_seals h (w.step_seals hop)) (hbound role)
  have hcla : ∀ a ∈ w.log, a.Clash (w.sealedEnvelope role lane type message) ↔
      (a.lane = lane ∧ a.keyEpoch = (w.wire role lane).keyEpoch) ∧
        a.payloadType = type ∧ a.counter = (w.wire role lane).counter := by
    intro a ha
    have hold : a.counter < 2 ^ 32 := Nat.lt_of_lt_of_le (h.log_seals a ha)
        (Nat.le_trans (seals_mono lib w op a.role) (Nat.le_of_lt (hbound a.role)))
    have hsrc : a.sourceId = (w.sealedEnvelope role lane type message).sourceId :=
      (h.log_sourceId a ha).trans (h.sourceId_eq role lane).symm
    have hepo : a.epoch = (w.sealedEnvelope role lane type message).epoch :=
      (h.log_epoch a ha).trans (h.epoch_eq role lane).symm
    unfold Envelope.Clash
    rw [Envelope.nonce_eq_iff hsrc hepo hold hnew]
    simp [Envelope.laneKey, sealedEnvelope]
  constructor
  · intro hnone role' hop' a ha hrole hlane htype hkey hctr
    rw [hop] at hop'
    cases hop'
    exact hnone a ha ((hcla a ha).mpr ⟨⟨hlane, hkey⟩, htype, hctr⟩)
  · intro hfre a ha hab
    obtain ⟨⟨hlane, hkey⟩, htype, hctr⟩ := (hcla a ha).mp hab
    have hper := h.log_permitted a ha
    by_cases hrole : a.role = role
    · -- one side's counter on a lane only grows under one key
      have hlt := h.log_lt a ha
      rw [hrole, hlane] at hlt
      exact absurd hctr (hlt hkey).ne
    · rw [hlane, htype] at hper
      obtain ⟨rfl, rfl⟩ := Permitted.shared_of_ne hrole hper (LaneOp.permitted hop)
      exact hfre role hop a ha hrole hlane htype hkey hctr

lemma step_unique_iff (op : LaneOp) (hbound : ∀ r, (w.step lib op).seals r < 2 ^ 32) :
    NoncesUnique (w.step lib op).log ↔ NoncesUnique w.log ∧ w.FreshControlFrame lib op := by
  cases hop : op.sealing lib with
  | none =>
    rw [(w.step_silent hop).1]
    refine ⟨fun huni => ⟨huni, ?_⟩, fun huni => huni.1⟩
    intro role hrole
    rw [hop] at hrole
    cases hrole
  | some made =>
    obtain ⟨role, lane, type⟩ := made
    obtain ⟨⟨message, hlog⟩, -⟩ := w.step_seals hop
    rw [hlog, NoncesUnique, List.pairwise_append, ← fresh_iff_no_clash h hop hbound message]
    simp [NoncesUnique]

end

lemma run_log_extends (lib : WireLibrary) (w : World) (ops : List LaneOp) :
    ∃ new, (w.run lib ops).log = w.log ++ new := by
  induction ops generalizing w with
  | nil => exact ⟨[], by simp [run]⟩
  | cons op ops ih =>
    obtain ⟨new, hnew⟩ := ih (w.step lib op)
    cases hop : op.sealing lib with
    | none =>
      rw [(w.step_silent hop).1] at hnew
      exact ⟨new, hnew⟩
    | some made =>
      obtain ⟨⟨message, hlog⟩, -⟩ := w.step_seals hop
      rw [hlog, List.append_assoc] at hnew
      exact ⟨_, hnew⟩

lemma run_unique_iff (ops : List LaneOp)
    (h : ∀ r, ((start sourceId epoch).run lib ops).seals r < 2 ^ 32) :
    NoncesUnique ((start sourceId epoch).run lib ops).log ↔
      StepsMeet (step lib) (FreshControlFrame lib) (start sourceId epoch) ops := by
  induction ops using List.reverseRecOn with
  | nil => simp [run, start, NoncesUnique, StepsMeet]
  | append_singleton ops op ih =>
    have hrun : (start sourceId epoch).run lib (ops ++ [op]) =
        ((start sourceId epoch).run lib ops).step lib op := by
      simp [run]
    rw [hrun] at h ⊢
    have h' : ∀ r, ((start sourceId epoch).run lib ops).seals r < 2 ^ 32 := by
      intro r
      exact Nat.lt_of_le_of_lt (seals_mono lib _ op r) (h r)
    rw [step_unique_iff (run_consistent ops) op h, ih h', stepsMeet_append]
    simp [StepsMeet, run]

end World

/-- **Nonces.** For every interleaving of what host and viewer do, with fewer than `2 ^ 32`
seals on each side: the nonces under each lane key stay unique in every world reached exactly
when no side seals a control-lane frame at a counter at which the other has sealed one in the
same key epoch. -/
theorem nonces_unique_iff (lib : WireLibrary) (sourceId : FixedBytes 8) (epoch : UInt8)
    (ops : List LaneOp)
    (hseals : ∀ role, ((World.start sourceId epoch).run lib ops).seals role < 2 ^ 32) :
    (∀ done, done <+: ops → NoncesUnique ((World.start sourceId epoch).run lib done).log) ↔
      StepsMeet (World.step lib) (World.FreshControlFrame lib)
        (World.start sourceId epoch) ops := by
  rw [← World.run_unique_iff ops hseals]
  constructor
  · intro hall
    exact hall ops List.prefix_rfl
  · rintro hunique done ⟨rest, rfl⟩
    -- the log of a run starts with the log of each of its prefixes
    obtain ⟨new, hnew⟩ := ((World.start sourceId epoch).run lib done).run_log_extends lib rest
    have hrun : (World.start sourceId epoch).run lib (done ++ rest) =
        ((World.start sourceId epoch).run lib done).run lib rest := by
      simp [World.run]
    rw [hrun, hnew] at hunique
    exact (List.pairwise_append.mp hunique).1

/-! ## A session with a rekey -/

/-- A library that starts to count again under a new key. -/
def sampleLibrary : WireLibrary where
  frame := 0x10
  input := 0x11
  frame_lt := by decide
  input_lt := by decide
  frame_ne_input := by decide
  counterAfterInstall _ := 0
  counterAfterInstall_le := Nat.zero_le

/-- The same library, if it keeps its counters. -/
def countingLibrary : WireLibrary :=
  { sampleLibrary with counterAfterInstall := id, counterAfterInstall_le := Nat.le_refl }

def sampleSource : FixedBytes 8 := .replicate 8 5

/-- A rekey proposal of the host and an input of the viewer, then both install the new keys. -/
def sampleRekey : List LaneOp :=
  [.controlFrame .host ⟨0, .rekey, [1]⟩, .input [1], .installRekeyKeys .host,
    .installRekeyKeys .viewer]

/-- After the rekey the viewer sends an input before its acknowledgement, and the host a clipboard
frame, a file-transfer message and a picture: every nonce is fresh. -/
theorem nonces_unique_iff_sample :
    let ops := sampleRekey ++ [.input [2], .controlFrame .viewer ⟨0, .rekey, [2]⟩,
      .controlFrame .host ⟨1, .clipboard, [7]⟩, .fileTransfer .host [3], .frame ⟨2, .hdc, [4]⟩]
    (∀ role, ((World.start sampleSource 1).run sampleLibrary ops).seals role < 2 ^ 32) ∧
      ∀ done, done <+: ops →
        NoncesUnique ((World.start sampleSource 1).run sampleLibrary done).log := by
  intro ops
  have hseals : ∀ role, ((World.start sampleSource 1).run sampleLibrary ops).seals role < 2 ^ 32 := by
    decide +kernel
  exact ⟨hseals, (nonces_unique_iff sampleLibrary sampleSource 1 ops hseals).mpr
    (by decide +kernel)⟩

/-- The two sides have sealed different messages under one key and one nonce. -/
abbrev World.RepeatsNonce (w : World) : Prop :=
  ∃ a ∈ w.log, ∃ b ∈ w.log, a.role = .viewer ∧ b.role = .host ∧ a.message ≠ b.message ∧
    a.laneKey = b.laneKey ∧ a.nonce = b.nonce

/-- The viewer's acknowledgement and the host's next clipboard frame have one key and one nonce,
whether the library starts to count again under the new key or not. -/
theorem clipboard_frame_repeats_ack_nonce :
    let ops := sampleRekey ++ [.controlFrame .viewer ⟨0, .rekey, [2]⟩,
      .controlFrame .host ⟨1, .clipboard, [7]⟩]
    let w := (World.start sampleSource 1).run sampleLibrary ops
    let w' := (World.start sampleSource 1).run countingLibrary ops
    (w.RepeatsNonce ∧ (∀ role, w.seals role < 2 ^ 32) ∧ ¬ NoncesUnique w.log) ∧
      w'.RepeatsNonce ∧ (∀ role, w'.seals role < 2 ^ 32) ∧ ¬ NoncesUnique w'.log := by
  unfold NoncesUnique
  decide +kernel

end XeniaPeer.Session
