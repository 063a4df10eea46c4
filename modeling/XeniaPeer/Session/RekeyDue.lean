import XeniaPeer.Session.Rekey

/-!
# When a rekey is due

The epoch state counts the media of the current key epoch with saturating counters, and
`next_rekey_due` compares them with the policy. Here the counters are compared with the frames that
were really recorded since the epoch was installed, for any order of calls.

The policy asks for a minimum of media frames between two rekeys, but the code counts only the video
frames against it: an epoch of audio alone is never due, however many bytes it carries.

Main result: `rekey_due_iff`.
-/

namespace XeniaPeer.Session

open Foundation

inductive MediaFrame where
  | video (bytes : Nat)
  | audio (bytes : Nat)

namespace MediaFrame

def bytes : MediaFrame → Nat
  | video n | audio n => n

def isVideo : MediaFrame → Bool
  | video _ => true
  | audio _ => false

end MediaFrame

inductive EpochCall where
  | record (frame : MediaFrame)
  | install (context : RekeyEpochContextV1)

/-- A state together with the frames recorded since its epoch began. -/
structure Metered where
  st : SessionEpochState
  frames : List MediaFrame

namespace Metered

def start (base : FixedBytes 32) (policy : RekeyPolicy) : Metered := ⟨.new base policy, []⟩

def call (P : KeyPrimitives) (m : Metered) : EpochCall → Metered
  | .record (.video n) => ⟨m.st.recordVideoFrame n, m.frames ++ [.video n]⟩
  | .record (.audio n) => ⟨m.st.recordAudioFrame n, m.frames ++ [.audio n]⟩
  | .install context =>
    match m.st.installEpoch P context with
    | (.ok (), st) => ⟨st, []⟩
    | (.error _, st) => ⟨st, m.frames⟩

def videoFrames (m : Metered) : Nat := m.frames.countP MediaFrame.isVideo

def bytes (m : Metered) : Nat := (m.frames.map MediaFrame.bytes).sum

/-- As many video frames, or as many bytes, as the policy allows in an epoch. -/
def LimitReached (policy : RekeyPolicy) (m : Metered) : Prop :=
  policy.maxFramesPerEpoch ≠ 0 ∧ policy.maxFramesPerEpoch.toNat ≤ m.videoFrames ∨
    policy.maxBytesPerEpoch ≠ 0 ∧ policy.maxBytesPerEpoch.toNat ≤ m.bytes

/-- A counter shows a number when it is that number, or stands at its end. -/
def Shows (counter : UInt64) (n : Nat) : Prop := counter.toNat = min n (2 ^ 64 - 1)

lemma Shows.add {counter : UInt64} {m : Nat} (h : Shows counter m) (n : Nat) :
    Shows (saturatingAdd counter n) (m + n) := by
  unfold Shows at h ⊢
  rw [toNat_saturatingAdd_eq_min, h]
  omega

lemma Shows.of_eq {counter : UInt64} {m n : Nat} (h : Shows counter m) (heq : m = n) :
    Shows counter n := heq ▸ h

lemma Shows.le_iff {counter : UInt64} {m : Nat} (h : Shows counter m) (limit : UInt64) :
    limit ≤ counter ↔ limit.toNat ≤ m := by
  have hlt := limit.toNat_lt
  unfold Shows at h
  rw [UInt64.le_iff_toNat_le, h]
  omega

structure Counts (policy : RekeyPolicy) (m : Metered) : Prop where
  policy : m.st.policy = policy
  video : Shows m.st.framesInEpoch m.videoFrames
  bytes : Shows m.st.bytesInEpoch m.bytes

variable {P : KeyPrimitives} {policy : RekeyPolicy} {m : Metered}

lemma Counts.call (h : m.Counts policy) (c : EpochCall) : (m.call P c).Counts policy := by
  obtain ⟨hpolicy, hvideo, hbytes⟩ := h
  cases c with
  | record frame =>
    -- both kinds add to the bytes; only a video frame adds to the frames
    cases frame with
    | video n =>
      exact ⟨hpolicy, (hvideo.add 1).of_eq (by simp [Metered.call, videoFrames, MediaFrame.isVideo]),
        (hbytes.add n).of_eq (by simp [Metered.call, Metered.bytes, MediaFrame.bytes])⟩
    | audio n =>
      exact ⟨hpolicy, hvideo.of_eq (by simp [Metered.call, videoFrames, MediaFrame.isVideo]),
        (hbytes.add n).of_eq (by simp [Metered.call, Metered.bytes, MediaFrame.bytes])⟩
  | install context =>
    simp only [Metered.call, SessionEpochState.installEpoch]
    split_ifs
    · exact ⟨hpolicy, rfl, rfl⟩
    · exact ⟨hpolicy, hvideo, hbytes⟩

lemma counts_run (base : FixedBytes 32) (policy : RekeyPolicy) (calls : List EpochCall) :
    (calls.foldl (call P) (start base policy)).Counts policy :=
  foldl_invariant (I := Counts policy) (fun _ c h => h.call c) calls ⟨rfl, rfl, rfl⟩

lemma Counts.due_iff (h : m.Counts policy) : m.st.nextRekeyDue.isSome ↔
      policy.minFramesBetweenRekeys.toNat ≤ m.videoFrames ∧ m.LimitReached policy := by
  rw [LimitReached, ← h.video.le_iff, ← h.video.le_iff, ← h.bytes.le_iff, ← h.policy]
  unfold SessionEpochState.nextRekeyDue
  split_ifs <;> simp_all

end Metered

open Metered

/-- After any calls a rekey is due exactly when the video frames of the epoch reach the minimum and
one of the limits is reached; the minimum over all media makes it due exactly when the video frames
reach that minimum by themselves. -/
theorem rekey_due_iff (P : KeyPrimitives) (base : FixedBytes 32) (policy : RekeyPolicy)
    (calls : List EpochCall) :
    let m := calls.foldl (Metered.call P) (Metered.start base policy)
    (m.st.nextRekeyDue.isSome ↔
      policy.minFramesBetweenRekeys.toNat ≤ m.videoFrames ∧ m.LimitReached policy) ∧
    ((policy.minFramesBetweenRekeys.toNat ≤ m.frames.length ∧ m.LimitReached policy →
        m.st.nextRekeyDue.isSome) ↔
      (policy.minFramesBetweenRekeys.toNat ≤ m.frames.length ∧ m.LimitReached policy →
        policy.minFramesBetweenRekeys.toNat ≤ m.videoFrames)) := by
  intro m
  have hdue := (counts_run (P := P) base policy calls).due_iff
  refine ⟨hdue, ?_⟩
  rw [hdue]
  exact ⟨fun h hmet => (h hmet).1, fun h hmet => ⟨h hmet, hmet.2⟩⟩

/-- Ten audio frames of a hundred bytes under a limit of a hundred bytes: nothing is due. -/
theorem audio_alone_never_due :
    let policy : RekeyPolicy := ⟨0, 100, 1, true⟩
    let m := (List.replicate 10 (EpochCall.record (.audio 100))).foldl
      (Metered.call SampleRekey.primitives) (Metered.start SampleRekey.base policy)
    policy.minFramesBetweenRekeys.toNat ≤ m.frames.length ∧ m.LimitReached policy ∧
      m.st.nextRekeyDue = none := by
  intro policy m
  exact ⟨by decide, .inr (by decide), rfl⟩

end XeniaPeer.Session
