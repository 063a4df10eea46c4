import XeniaPeer.Video.Hdc

/-!
# How far a delta may be from its keyframe

The HDC encoder makes a keyframe of the first frame and of each frame whose time has moved by the
interval since the last keyframe. The difference of the two times saturates at zero, so a time
before that of the last keyframe counts as no time at all: such a frame is a delta, where the
comment beside the code promises a keyframe.

Main result: `delta_in_interval_iff`.
-/

namespace XeniaPeer.Video

open Foundation

variable {Φ : Type} (bincode : PacketFormat) (zero : Φ)

structure FrameCall (Φ : Type) where
  analysis : Analysis Φ
  raw : Bytes
  ptsMs : UInt64

def FrameCall.input (call : FrameCall Φ) : Input Φ := .frame call.analysis call.raw call.ptsMs

/-- An encoder with the interval set at its start, after the calls. -/
def encoding (params : EncodeParams) (interval : UInt64) (calls : List (FrameCall Φ)) : Sender Φ :=
  (.start params :: .interval interval :: calls.map FrameCall.input).foldl
    (Sender.step bincode zero) ⟨none, []⟩

def lastKeyframe (shots : List Shot) : Option UInt64 :=
  ((shots.filter (·.packet.isKeyframe)).getLast?).map (·.packet.ptsMs)

structure Timed (interval : UInt64) (s : Sender Φ) (e : HdcEncoder Φ) : Prop where
  encoder : s.encoder = some e
  interval : e.keyframeIntervalMs = interval
  count : e.frameCount = UInt64.ofNat s.shots.length
  last : s.shots ≠ [] → lastKeyframe s.shots = some e.lastKeyframePtsMs

variable {bincode zero} {interval : UInt64} {s : Sender Φ} {e : HdcEncoder Φ}

lemma lastKeyframe_concat (shots : List Shot) (shot : Shot) : lastKeyframe (shots ++ [shot]) =
      if shot.packet.isKeyframe then some shot.packet.ptsMs else lastKeyframe shots := by
  unfold lastKeyframe
  cases hkey : shot.packet.isKeyframe <;> simp [List.filter_append, hkey]

lemma isKeyframe_eq_false_iff (hpos : 0 < interval) (h : Timed interval s e) (ptsMs : UInt64) :
    e.isKeyframe ptsMs = false ↔ s.shots.length % 2 ^ 64 ≠ 0 ∧
      ptsMs.toNat < e.lastKeyframePtsMs.toNat + interval.toNat := by
  have hpos' := UInt64.lt_iff_toNat_lt.mp hpos
  have hcount : e.frameCount = 0 ↔ s.shots.length % 2 ^ 64 = 0 := by
    rw [h.count, ← UInt64.toNat_inj, UInt64.toNat_ofNat']
    rfl
  have hzero : UInt64.toNat 0 = 0 := rfl
  simp only [HdcEncoder.isKeyframe, h.interval, Bool.or_eq_false_iff, beq_eq_false_iff_ne,
    Bool.and_eq_false_iff, decide_eq_false_iff_not, ne_eq, hcount]
  omega

lemma Timed.step (h : Timed interval s e) (hpos : 0 < interval) (call : FrameCall Φ) :
    ∃ e', Timed interval (s.step bincode zero call.input) e' := by
  by_cases hsize : call.raw.length = e.params.frameSize
  · -- the frame is sent: a keyframe is the last one from now on, a delta leaves the last one
    have hsent : s.step bincode zero call.input = ⟨some (e.next call.analysis call.raw call.ptsMs),
          s.shots ++ [e.shot bincode call.analysis call.raw call.ptsMs]⟩ := by
      obtain ⟨_, shots⟩ := s
      obtain rfl := h.encoder
      exact Sender.step_frame bincode zero hsize shots call.analysis call.ptsMs
    rw [hsent]
    refine ⟨_, rfl, h.interval, ?_, fun _ => ?_⟩
    · rw [List.length_append, List.length_singleton, UInt64.ofNat_add, ← h.count]
      rfl
    · rw [lastKeyframe_concat]
      by_cases hkey : e.isKeyframe call.ptsMs = true
      · simp [HdcEncoder.next, HdcEncoder.shot, hkey]
      · have hcount := ((isKeyframe_eq_false_iff hpos h _).mp (Bool.eq_false_iff.mpr hkey)).1
        have hne : s.shots ≠ [] := by
          rintro hnil
          simp [hnil] at hcount
        simp [HdcEncoder.next, HdcEncoder.shot, hkey, h.last hne]
  · have hrefused : s.step bincode zero call.input = ⟨some e, s.shots⟩ := by
      simp [FrameCall.input, Sender.step, h.encoder, HdcEncoder.encode, hsize]
    rw [hrefused]
    exact ⟨e, rfl, h.interval, h.count, h.last⟩

variable (bincode zero) in
lemma timed_encoding (hpos : 0 < interval) (params : EncodeParams) (calls : List (FrameCall Φ)) :
    ∃ e, Timed interval (encoding bincode zero params interval calls) e := by
  have hrun : ∀ (calls : List (FrameCall Φ)) (s : Sender Φ), (∃ e, Timed interval s e) →
      ∃ e, Timed interval ((calls.map FrameCall.input).foldl (Sender.step bincode zero) s) e := by
    intro calls
    induction calls with
    | nil => exact fun _ h => h
    | cons call calls ih => exact fun _ ⟨_, h⟩ => ih _ (h.step hpos call)
  exact hrun calls _ ⟨_, rfl, rfl, rfl, fun h => absurd rfl h⟩

/-- A delta stands less than the interval after the last keyframe; it does not stand before it
either exactly when the frame is the first one (the count of frames wraps) or its time is not before
that of the last keyframe. -/
theorem delta_in_interval_iff (bincode : PacketFormat) (zero : Φ) (params : EncodeParams)
    {interval : UInt64} (hpos : 0 < interval) (calls : List (FrameCall Φ)) :
    let s := encoding bincode zero params interval calls
    ∃ e, s.encoder = some e ∧ ∀ (call : FrameCall Φ) packets e',
      e.encode bincode call.analysis call.raw call.ptsMs = (.ok packets, e') → ∀ p ∈ packets,
        (p.isKeyframe = false → ∃ last, lastKeyframe s.shots = some last ∧
          p.ptsMs.toNat < last.toNat + interval.toNat) ∧
        ((p.isKeyframe = false → ∃ last, lastKeyframe s.shots = some last ∧
            last ≤ p.ptsMs ∧ p.ptsMs.toNat < last.toNat + interval.toNat) ↔
          s.shots.length % 2 ^ 64 = 0 ∨ ∃ last, lastKeyframe s.shots = some last ∧
            last ≤ p.ptsMs) := by
  intro s
  obtain ⟨e, he⟩ := timed_encoding bincode zero hpos params calls
  refine ⟨e, he.encoder, ?_⟩
  rintro ⟨a, raw, ptsMs⟩ packets e' henc p hp
  have hpacket : p = ⟨bincode.serialize (e.packet a raw ptsMs), ptsMs, e.isKeyframe ptsMs⟩ := by
    simp only [HdcEncoder.encode] at henc
    split at henc
    · cases henc
    · cases henc
      exact List.mem_singleton.mp hp
  subst hpacket
  have hdelta : e.isKeyframe ptsMs = false ↔ s.shots.length % 2 ^ 64 ≠ 0 ∧
      ptsMs.toNat < e.lastKeyframePtsMs.toNat + interval.toNat :=
    isKeyframe_eq_false_iff hpos he ptsMs
  by_cases hcount : s.shots.length % 2 ^ 64 = 0
  · have hkey : ¬ e.isKeyframe ptsMs = false := fun h => (hdelta.mp h).1 hcount
    exact ⟨fun h => absurd h hkey, ⟨fun _ => .inl hcount, fun _ h => absurd h hkey⟩⟩
  · have hlast : lastKeyframe s.shots = some e.lastKeyframePtsMs :=
      he.last fun hnil => hcount (by simp [s, hnil])
    simp only [hlast, Option.some.injEq, exists_eq_left', hcount, false_or, hdelta,
      UInt64.le_iff_toNat_le]
    omega

/-- The encoder after a keyframe at one second. -/
def afterSecond : HdcEncoder Unit :=
  ((HdcEncoder.new () sampleParams).setKeyframeIntervalMs 10000).next sampleAnalysis
    (sampleFrame [10, 20, 30, 40]) 1000

lemma encode_afterSecond {pixel : Bytes} (h : pixel.length = 4) (ptsMs : UInt64) :
    afterSecond.encode unaryFormat sampleAnalysis (sampleFrame pixel) ptsMs =
      (.ok [⟨unaryFormat.serialize (afterSecond.packet sampleAnalysis (sampleFrame pixel) ptsMs),
      ptsMs,
        afterSecond.isKeyframe ptsMs⟩], afterSecond.next sampleAnalysis (sampleFrame pixel) ptsMs) :=
  if_neg (not_not.mpr (length_sampleFrame h))

lemma encoding_afterSecond :
    let s := encoding unaryFormat () sampleParams 10000
      [⟨sampleAnalysis, sampleFrame [10, 20, 30, 40], 1000⟩]
    s.encoder = some afterSecond ∧ lastKeyframe s.shots = some 1000 := by
  have hstart : Sender.step unaryFormat () (Sender.step unaryFormat () ⟨none, []⟩
      (.start sampleParams)) (.interval 10000) =
      ⟨some ((HdcEncoder.new () sampleParams).setKeyframeIntervalMs 10000), []⟩ := rfl
  simp only [encoding, List.map_cons, List.map_nil, List.foldl_cons, List.foldl_nil, hstart,
    FrameCall.input]
  rw [Sender.step_frame unaryFormat () (length_sampleFrame rfl)]
  exact ⟨rfl, rfl⟩

/-- Half a second later comes a delta. -/
theorem delta_in_interval_after_second :
    let s := encoding unaryFormat () sampleParams 10000
      [⟨sampleAnalysis, sampleFrame [10, 20, 30, 40], 1000⟩]
    ∃ e p e', s.encoder = some e ∧
      e.encode unaryFormat sampleAnalysis (sampleFrame [50, 60, 70, 80]) 1500 = (.ok [p], e') ∧
      p.isKeyframe = false ∧ ∃ last, lastKeyframe s.shots = some last ∧ last ≤ p.ptsMs ∧
        p.ptsMs.toNat < last.toNat + 10000 := by
  intro s
  obtain ⟨hencoder, hlast⟩ := encoding_afterSecond
  obtain ⟨e, he, h⟩ := delta_in_interval_iff unaryFormat () sampleParams
    (show (0 : UInt64) < 10000 by decide) [⟨sampleAnalysis, sampleFrame [10, 20, 30, 40], 1000⟩]
  obtain rfl : afterSecond = e := Option.some.inj (hencoder.symm.trans he)
  have henc := @encode_afterSecond [50, 60, 70, 80] rfl 1500
  obtain ⟨-, hiff⟩ := h ⟨sampleAnalysis, _, 1500⟩ _ _ henc _ (List.mem_singleton_self _)
  exact ⟨_, _, _, he, henc, rfl, hiff.mpr (.inr ⟨1000, hlast, by decide⟩) rfl⟩

/-- A frame a second before the last keyframe is a delta. -/
theorem earlier_frame_is_delta :
    let s := encoding unaryFormat () sampleParams 10000
      [⟨sampleAnalysis, sampleFrame [10, 20, 30, 40], 1000⟩]
    lastKeyframe s.shots = some 1000 ∧ ∃ e p e', s.encoder = some e ∧
      e.encode unaryFormat sampleAnalysis (sampleFrame [50, 60, 70, 80]) 0 = (.ok [p], e') ∧
        p.ptsMs = 0 ∧ p.isKeyframe = false :=
  ⟨encoding_afterSecond.2, _, _, _, encoding_afterSecond.1, encode_afterSecond rfl 0, rfl, rfl⟩

end XeniaPeer.Video
