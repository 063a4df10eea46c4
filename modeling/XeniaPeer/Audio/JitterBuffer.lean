import Mathlib.Data.List.Sort
import XeniaPeer.Foundation.Codes
import XeniaPeer.Foundation.Runs
import XeniaPeer.Foundation.Tables

/-!
# The audio jitter buffer

`AudioJitterBuffer` (`frame.rs`) puts audio frames back into the order of their sequence numbers. A
cursor says which frame is played next, and beyond its depth the buffer drops the frame that comes
first. The cursor passes over a dropped frame only if it stands on it.

Main results: `jitter_buffer_in_order`, `plays_on_iff`.
-/

namespace XeniaPeer.Audio

open Foundation

/-! ## The buffer -/

structure RawAudio where
  sequence : UInt64
  payload : Bytes

inductive JitterInsert where
  | inserted
  | duplicate
  | late
deriving DecidableEq

structure JitterStats where
  (inserted emitted duplicates late dropped underruns gaps : UInt64)

structure AudioJitterBuffer where
  expectedSequence : UInt64
  (maxDepth targetDelayFrames : Nat)
  frames : List RawAudio
  stats : JitterStats

namespace AudioJitterBuffer

def new (initialSequence : UInt64) (maxDepth : Nat) : AudioJitterBuffer :=
  ⟨initialSequence, max maxDepth 1, 0, [], ⟨0, 0, 0, 0, 0, 0, 0⟩⟩

def withPlayoutDelay (initialSequence : UInt64) (maxDepth targetDelayFrames : Nat) :
    AudioJitterBuffer :=
  let maxDepth := max maxDepth 1
  ⟨initialSequence, maxDepth, min targetDelayFrames (maxDepth - 1), [], ⟨0, 0, 0, 0, 0, 0, 0⟩⟩

def evict (maxDepth : Nat) : UInt64 → JitterStats → List RawAudio →
    UInt64 × JitterStats × List RawAudio
  | expected, stats, [] => (expected, stats, [])
  | expected, stats, first :: rest =>
    if maxDepth < (first :: rest).length then
      let stats := { stats with dropped := stats.dropped + 1 }
      if first.sequence = expected then
        evict maxDepth (expected + 1) { stats with underruns := stats.underruns + 1 } rest
      else evict maxDepth expected stats rest
    else (expected, stats, first :: rest)

def insertFrame (frame : RawAudio) (frames : List RawAudio) : List RawAudio :=
  frames.orderedInsert (fun a b => a.sequence ≤ b.sequence) frame

def push (b : AudioJitterBuffer) (frame : RawAudio) : JitterInsert × AudioJitterBuffer :=
  if frame.sequence < b.expectedSequence then
    (.late, { b with stats := { b.stats with late := b.stats.late + 1 } })
  else if frame.sequence ∈ b.frames.map RawAudio.sequence then
    (.duplicate, { b with stats := { b.stats with duplicates := b.stats.duplicates + 1 } })
  else
    let gap : UInt64 := if b.expectedSequence < frame.sequence ∧
      b.expectedSequence ∉ b.frames.map RawAudio.sequence then 1 else 0
    let stats := { b.stats with gaps := b.stats.gaps + gap, inserted := b.stats.inserted + 1 }
    let (expected, stats, frames) :=
      evict b.maxDepth b.expectedSequence stats (insertFrame frame b.frames)
    (.inserted, { b with expectedSequence := expected, frames, stats })

def popNext (b : AudioJitterBuffer) : Option RawAudio × AudioJitterBuffer :=
  match findKey RawAudio.sequence b.expectedSequence b.frames with
  | some frame => (some frame, { b with
      expectedSequence := b.expectedSequence + 1
      frames := dropKey RawAudio.sequence b.expectedSequence b.frames
      stats := { b.stats with emitted := b.stats.emitted + 1 } })
  | none => (none, { b with stats := { b.stats with underruns := b.stats.underruns + 1 } })

def nextReady (b : AudioJitterBuffer) : Prop :=
  b.expectedSequence ∈ b.frames.map RawAudio.sequence ∧ b.targetDelayFrames < b.frames.length

instance (b : AudioJitterBuffer) : Decidable b.nextReady :=
  inferInstanceAs (Decidable (_ ∧ _))

def popReady (b : AudioJitterBuffer) : Option RawAudio × AudioJitterBuffer :=
  if b.nextReady then b.popNext else (none, b)

end AudioJitterBuffer

open AudioJitterBuffer

inductive JitterCall where
  | push (frame : RawAudio)
  | popNext
  | popReady

structure JitterRun where
  buffer : AudioJitterBuffer
  inserts : List JitterInsert
  emitted : List RawAudio

namespace JitterRun

def took (r : JitterRun) (taken : Option RawAudio × AudioJitterBuffer) : JitterRun :=
  ⟨taken.2, r.inserts, r.emitted ++ taken.1.toList⟩

def step (r : JitterRun) : JitterCall → JitterRun
  | .push frame => ⟨(r.buffer.push frame).2, r.inserts ++ [(r.buffer.push frame).1], r.emitted⟩
  | .popNext => r.took r.buffer.popNext
  | .popReady => r.took r.buffer.popReady

def run (start : AudioJitterBuffer) (calls : List JitterCall) : JitterRun :=
  calls.foldl step ⟨start, [], []⟩

end JitterRun

open JitterRun

/-! ## Frames in order -/

structure InOrder (expected : UInt64) (frames : List RawAudio) : Prop where
  sorted : frames.Pairwise (fun a b => a.sequence < b.sequence)
  ahead : ∀ f ∈ frames, expected ≤ f.sequence
  below : ∀ f ∈ frames, f.sequence.toNat + 1 < 2 ^ 64

variable {e : UInt64} {f : RawAudio} {frames : List RawAudio} {b : AudioJitterBuffer}

section Order

variable {first : RawAudio} {rest : List RawAudio}

lemma le_iff_eq_or_succ_le {a b : UInt64} (h : a.toNat + 1 < 2 ^ 64) :
    a ≤ b ↔ a = b ∨ a + 1 ≤ b := by
  have hsucc : (a + 1).toNat = a.toNat + 1 := by
    rw [UInt64.toNat_add, UInt64.toNat_one]
    omega
  rw [UInt64.le_iff_toNat_le, UInt64.le_iff_toNat_le, hsucc, ← UInt64.toNat_inj]
  omega

lemma InOrder.tail (h : InOrder e (first :: rest)) : InOrder e rest :=
  ⟨(List.pairwise_cons.mp h.sorted).2, fun f hf => h.ahead f (List.mem_cons_of_mem _ hf),
    fun f hf => h.below f (List.mem_cons_of_mem _ hf)⟩

lemma InOrder.succ (h : InOrder e frames) (hmem : e ∈ frames.map RawAudio.sequence)
    {others : List RawAudio} (hsub : others.Sublist frames)
    (hne : ∀ f ∈ others, f.sequence ≠ e) : InOrder (e + 1) others := by
  obtain ⟨g, hg, rfl⟩ := List.mem_map.mp hmem
  refine ⟨h.sorted.sublist hsub, fun f hf => ?_, fun f hf => h.below f (hsub.subset hf)⟩
  have hle := (le_iff_eq_or_succ_le (h.below g hg)).mp (h.ahead f (hsub.subset hf))
  exact hle.resolve_left (fun heq => hne f hf heq.symm)

lemma InOrder.succ_tail (h : InOrder first.sequence (first :: rest)) :
    InOrder (first.sequence + 1) rest := by
  refine h.succ List.mem_cons_self (List.sublist_cons_self _ _) (fun f hf heq => ?_)
  have hlt := (List.pairwise_cons.mp h.sorted).1 f hf
  rw [heq] at hlt
  exact UInt64.lt_irrefl _ hlt

lemma InOrder.insert (h : InOrder e frames) (hahead : e ≤ f.sequence)
    (hbelow : f.sequence.toNat + 1 < 2 ^ 64) (hnew : f.sequence ∉ frames.map RawAudio.sequence) :
    InOrder e (insertFrame f frames) := by
  have hmem : ∀ g, g ∈ insertFrame f frames ↔ g = f ∨ g ∈ frames :=
    fun g => List.mem_orderedInsert _
  refine ⟨?_, fun g hg => ?_, fun g hg => ?_⟩
  · clear hahead hmem
    induction frames with
    | nil => exact List.pairwise_singleton _ _
    | cons first rest ih =>
      rw [List.map_cons, List.mem_cons, not_or] at hnew
      have hfirst := List.pairwise_cons.mp h.sorted
      rw [insertFrame, List.orderedInsert_cons]
      split_ifs with hle
      · have hlt : f.sequence < first.sequence := UInt64.lt_of_le_of_ne hle hnew.1
        refine List.pairwise_cons.mpr ⟨fun g hg => ?_, h.sorted⟩
        rcases List.mem_cons.mp hg with rfl | hg
        · exact hlt
        · exact UInt64.lt_trans hlt (hfirst.1 g hg)
      · refine List.pairwise_cons.mpr ⟨fun g hg => ?_, ih h.tail hnew.2⟩
        rcases (List.mem_orderedInsert _).mp hg with rfl | hg
        · exact UInt64.not_le.mp hle
        · exact hfirst.1 g hg
  · rcases (hmem g).mp hg with rfl | hg
    · exact hahead
    · exact h.ahead g hg
  · rcases (hmem g).mp hg with rfl | hg
    · exact hbelow
    · exact h.below g hg

lemma add_ofNat_succ (e : UInt64) (i : Nat) :
    e + UInt64.ofNat (i + 1) = e + 1 + UInt64.ofNat i := by
  rw [UInt64.ofNat_add, UInt64.add_assoc, UInt64.add_comm (UInt64.ofNat i)]
  rfl

def cursorAfter (e : UInt64) (dropped : List RawAudio) : UInt64 :=
  dropped.foldl (fun e f => if f.sequence = e then e + 1 else e) e

lemma evict_eq (d : Nat) (e : UInt64) (s : JitterStats) (frames : List RawAudio) :
    ∃ underruns, evict d e s frames = (cursorAfter e (frames.take (frames.length - d)),
        { s with dropped := s.dropped + UInt64.ofNat (frames.length - d), underruns },
        frames.drop (frames.length - d)) := by
  induction frames generalizing e s with
  | nil => exact ⟨s.underruns, by simp [evict, cursorAfter]⟩
  | cons first rest ih =>
    unfold evict
    by_cases hdep : d < (first :: rest).length
    · have hcount : (first :: rest).length - d = (rest.length - d) + 1 := by
        rw [List.length_cons] at hdep ⊢
        omega
      rw [if_pos hdep, hcount, add_ofNat_succ]
      simp only [List.take_succ_cons, List.drop_succ_cons, cursorAfter, List.foldl_cons]
      split_ifs with hfirst
      · obtain ⟨underruns, h⟩ := ih (e + 1) { s with
          dropped := s.dropped + 1, underruns := s.underruns + 1 }
        exact ⟨underruns, h⟩
      · obtain ⟨underruns, h⟩ := ih e { s with dropped := s.dropped + 1 }
        exact ⟨underruns, h⟩
    · rw [if_neg hdep, Nat.sub_eq_zero_of_le (Nat.le_of_not_lt hdep)]
      exact ⟨s.underruns, by simp [cursorAfter]⟩

lemma InOrder.drop (h : InOrder e frames) (n : Nat) :
    e ≤ cursorAfter e (frames.take n) ∧ InOrder (cursorAfter e (frames.take n)) (frames.drop n) := by
  induction frames generalizing e n with
  | nil => simpa [cursorAfter] using h
  | cons first rest ih =>
    cases n with
    | zero => exact ⟨UInt64.le_refl _, h⟩
    | succ n =>
      simp only [List.take_succ_cons, List.drop_succ_cons, cursorAfter, List.foldl_cons]
      split_ifs with hfirst
      · subst hfirst
        have hle := (le_iff_eq_or_succ_le (h.below first List.mem_cons_self)).mpr
          (.inr (UInt64.le_refl _))
        exact ⟨UInt64.le_trans hle (ih h.succ_tail n).1, (ih h.succ_tail n).2⟩
      · exact ih h.tail n

def counter (s : JitterStats) : JitterInsert → UInt64
  | .inserted => s.inserted
  | .duplicate => s.duplicates
  | .late => s.late

def AudioJitterBuffer.cutTo (b : AudioJitterBuffer) (frames : List RawAudio)
    (stats : JitterStats) : AudioJitterBuffer :=
  let excess := frames.length - b.maxDepth
  { b with
    expectedSequence := cursorAfter b.expectedSequence (frames.take excess)
    frames := frames.drop excess
    stats }

lemma push_inserted (hlate : ¬ f.sequence < b.expectedSequence)
    (hnew : f.sequence ∉ b.frames.map RawAudio.sequence) :
    ∃ stats, b.push f = (.inserted, b.cutTo (insertFrame f b.frames) stats) ∧
      (∀ kind, counter stats kind = counter b.stats kind + if .inserted = kind then 1 else 0) ∧
      stats.emitted = b.stats.emitted ∧ stats.dropped = b.stats.dropped +
        UInt64.ofNat ((insertFrame f b.frames).length - b.maxDepth) := by
  rw [AudioJitterBuffer.push, if_neg hlate, if_neg hnew]
  generalize (if b.expectedSequence < f.sequence ∧
    b.expectedSequence ∉ b.frames.map RawAudio.sequence then (1 : UInt64) else 0) = gap
  obtain ⟨underruns, h⟩ := evict_eq b.maxDepth b.expectedSequence
    { b.stats with gaps := b.stats.gaps + gap, inserted := b.stats.inserted + 1 }
    (insertFrame f b.frames)
  simp only [h]
  exact ⟨_, rfl, fun kind => by cases kind <;> simp [counter], rfl, rfl⟩

lemma InOrder.cutTo (h : InOrder b.expectedSequence frames) (stats : JitterStats) :
    b.expectedSequence ≤ (b.cutTo frames stats).expectedSequence ∧
      InOrder (b.cutTo frames stats).expectedSequence (b.cutTo frames stats).frames := h.drop _

end Order

/-! ## Any calls -/

variable {initial : UInt64} {r : JitterRun}

namespace JitterRun

structure Sound (initial : UInt64) (r : JitterRun) : Prop where
  inOrder : InOrder r.buffer.expectedSequence r.buffer.frames
  depth : r.buffer.frames.length ≤ r.buffer.maxDepth
  cursor : initial ≤ r.buffer.expectedSequence
  increasing : r.emitted.Pairwise (fun a b => a.sequence < b.sequence)
  played : ∀ f ∈ r.emitted, initial ≤ f.sequence ∧ f.sequence < r.buffer.expectedSequence
  counted : ∀ kind, counter r.buffer.stats kind = UInt64.ofNat (r.inserts.count kind)
  emittedCount : r.buffer.stats.emitted = UInt64.ofNat r.emitted.length
  droppedCount : ∃ dropped, r.buffer.stats.dropped = UInt64.ofNat dropped ∧
    r.inserts.count .inserted = r.emitted.length + dropped + r.buffer.frames.length

variable {s s' : JitterStats}

lemma counted_concat {inserts : List JitterInsert} {result : JitterInsert}
    (h : ∀ kind, counter s kind = UInt64.ofNat (inserts.count kind))
    (hs : ∀ kind, counter s' kind = counter s kind + if result = kind then 1 else 0) :
    ∀ kind, counter s' kind = UInt64.ofNat ((inserts ++ [result]).count kind) := by
  intro kind
  rw [hs, h, List.count_append, List.count_singleton, UInt64.ofNat_add]
  by_cases hkind : result = kind <;> simp [hkind]

lemma Sound.push {frame : RawAudio} (h : Sound initial r)
    (hbelow : frame.sequence.toNat + 1 < 2 ^ 64) : Sound initial (r.step (.push frame)) := by
  obtain ⟨dropped, hdro, hins⟩ := h.droppedCount
  by_cases hlate : frame.sequence < r.buffer.expectedSequence
  · simp only [step, AudioJitterBuffer.push, if_pos hlate]
    refine { h with
      counted := counted_concat h.counted (fun kind => by cases kind <;> simp [counter])
      droppedCount := ⟨dropped, hdro, ?_⟩ }
    rw [List.count_append, hins]
    rfl
  by_cases hdup : frame.sequence ∈ r.buffer.frames.map RawAudio.sequence
  · simp only [step, AudioJitterBuffer.push, if_neg hlate, if_pos hdup]
    refine { h with
      counted := counted_concat h.counted (fun kind => by cases kind <;> simp [counter])
      droppedCount := ⟨dropped, hdro, ?_⟩ }
    rw [List.count_append, hins]
    rfl
  · obtain ⟨stats, hpush, hcou, hemi, hexc⟩ := push_inserted hlate hdup
    have hfra := h.inOrder.insert (UInt64.not_lt.mp hlate) hbelow hdup
    have hlen : (insertFrame frame r.buffer.frames).length =
        r.buffer.frames.length + 1 := List.orderedInsert_length _ _ _
    obtain ⟨hcur, hkept⟩ := hfra.cutTo stats
    simp only [step, hpush]
    refine ⟨hkept, ?_, UInt64.le_trans h.cursor hcur, h.increasing, fun f hf => ?_,
      counted_concat h.counted hcou, hemi.trans h.emittedCount,
      dropped + (r.buffer.frames.length + 1 - r.buffer.maxDepth), ?_, ?_⟩
    · show (List.drop _ _).length ≤ r.buffer.maxDepth
      rw [List.length_drop]
      omega
    · obtain ⟨hini, hbeh⟩ := h.played f hf
      exact ⟨hini, UInt64.lt_of_lt_of_le hbeh hcur⟩
    · rw [UInt64.ofNat_add, ← hdro, ← hlen]
      exact hexc
    · show (r.inserts ++ [JitterInsert.inserted]).count JitterInsert.inserted =
        r.emitted.length + _ + (List.drop _ _).length
      rw [List.count_append, hins, List.length_drop, List.count_singleton_self, hlen]
      omega

lemma took_none {b : AudioJitterBuffer} : r.took (none, b) = ⟨b, r.inserts, r.emitted⟩ := by
  simp [took]

lemma Sound.took_popNext (h : Sound initial r) : Sound initial (r.took r.buffer.popNext) := by
  unfold popNext
  cases hfind : findKey RawAudio.sequence r.buffer.expectedSequence r.buffer.frames with
  | none =>
    rw [took_none]
    exact { h with counted := fun kind => Eq.trans (by cases kind <;> rfl) (h.counted kind) }
  | some frame =>
    obtain ⟨hmem, hseq⟩ := of_findKey hfind
    obtain ⟨dropped, hdro, hins⟩ := h.droppedCount
    have hkeys : (r.buffer.frames.map RawAudio.sequence).Nodup :=
      List.Pairwise.map _ (fun _ _ hlt => UInt64.ne_of_lt hlt) h.inOrder.sorted
    have hlen := (perm_dropKey hkeys hfind).length_eq
    have hnext : r.buffer.expectedSequence ≤ r.buffer.expectedSequence + 1 ∧
        r.buffer.expectedSequence < r.buffer.expectedSequence + 1 := by
      have hlt := h.inOrder.below frame hmem
      rw [hseq] at hlt
      rw [UInt64.le_iff_toNat_le, UInt64.lt_iff_toNat_lt, UInt64.toNat_add, UInt64.toNat_one]
      omega
    refine ⟨?_, ?_, UInt64.le_trans h.cursor hnext.1, ?_, ?_, fun kind => ?_, ?_, dropped, hdro, ?_⟩
    · exact h.inOrder.succ (List.mem_map.mpr ⟨frame, hmem, hseq⟩) dropKey_sublist
        (fun f hf => (mem_dropKey.mp hf).2)
    · exact dropKey_sublist.length_le.trans h.depth
    · refine List.pairwise_append.mpr ⟨h.increasing, List.pairwise_singleton _ _, fun f hf g hg => ?_⟩
      rw [List.mem_singleton.mp hg, hseq]
      exact (h.played f hf).2
    · intro f hf
      rcases List.mem_append.mp hf with hf | hf
      · exact ⟨(h.played f hf).1, UInt64.lt_trans (h.played f hf).2 hnext.2⟩
      · rw [List.mem_singleton.mp hf, hseq]
        exact ⟨h.cursor, hnext.2⟩
    · exact Eq.trans (by cases kind <;> rfl) (h.counted kind)
    · show r.buffer.stats.emitted + 1 = UInt64.ofNat (r.emitted ++ [frame]).length
      rw [h.emittedCount, List.length_append, UInt64.ofNat_add]
      rfl
    · simp only [took, Option.toList_some, List.length_append, List.length_cons,
        List.length_nil] at hlen ⊢
      omega

lemma Sound.step (h : Sound initial r) (call : JitterCall)
    (hbelow : ∀ frame, call = .push frame → frame.sequence.toNat + 1 < 2 ^ 64) :
    Sound initial (r.step call) := by
  cases call with
  | push frame => exact h.push (hbelow frame rfl)
  | popNext => exact h.took_popNext
  | popReady =>
    show Sound initial (r.took r.buffer.popReady)
    unfold popReady
    split_ifs with hrea
    · exact h.took_popNext
    · rwa [took_none]

lemma Sound.inserted_eq (h : Sound initial r) :
    r.buffer.stats.inserted = r.buffer.stats.emitted + r.buffer.stats.dropped +
        UInt64.ofNat r.buffer.frames.length ∧
      (r.inserts.length < 2 ^ 64 → r.buffer.stats.inserted.toNat =
        r.buffer.stats.emitted.toNat + r.buffer.stats.dropped.toNat + r.buffer.frames.length) := by
  obtain ⟨dropped, hdro, hins⟩ := h.droppedCount
  have hcount : r.buffer.stats.inserted = _ := h.counted .inserted
  rw [hcount, h.emittedCount, hdro]
  constructor
  · rw [hins, UInt64.ofNat_add, UInt64.ofNat_add]
  · intro hfew
    have hle := List.count_le_length (a := JitterInsert.inserted) (l := r.inserts)
    rw [UInt64.toNat_ofNat', UInt64.toNat_ofNat', UInt64.toNat_ofNat', Nat.mod_eq_of_lt,
      Nat.mod_eq_of_lt, Nat.mod_eq_of_lt]
    · exact hins
    all_goals omega

end JitterRun

/-- A buffer as one of its two constructors makes it. -/
def Starts (initialSequence : UInt64) (maxDepth : Nat) (start : AudioJitterBuffer) : Prop :=
  start = .new initialSequence maxDepth ∨
    ∃ delay, start = .withPlayoutDelay initialSequence maxDepth delay

section Runs

variable {maxDepth : Nat} {start : AudioJitterBuffer}

lemma Starts.sound (h : Starts initial maxDepth start) : Sound initial ⟨start, [], []⟩ := by
  have hemp : start.expectedSequence = initial ∧ start.frames = [] ∧
      start.stats = ⟨0, 0, 0, 0, 0, 0, 0⟩ := by
    rcases h with rfl | ⟨delay, rfl⟩ <;> exact ⟨rfl, rfl, rfl⟩
  obtain ⟨hexp, hfra, hstart⟩ := hemp
  refine ⟨⟨?_, ?_, ?_⟩, ?_, ?_, List.Pairwise.nil, ?_, ?_, ?_, 0, ?_, ?_⟩ <;>
    simp [hexp, hfra, hstart]
  intro kind
  cases kind <;> rfl

lemma Starts.delay_lt (h : Starts initial maxDepth start) :
    start.targetDelayFrames < start.maxDepth := by
  have hpos : 0 < max maxDepth 1 := by omega
  rcases h with rfl | ⟨delay, rfl⟩
  · exact hpos
  · show min delay (max maxDepth 1 - 1) < max maxDepth 1
    omega

def pushed (calls : List JitterCall) : List RawAudio :=
  calls.filterMap (fun call => match call with | .push frame => some frame | _ => none)

variable {calls : List JitterCall}

lemma mem_pushed_cons {call : JitterCall} {frame : RawAudio} :
    frame ∈ pushed (call :: calls) ↔ call = .push frame ∨ frame ∈ pushed calls := by
  unfold pushed
  rw [List.filterMap_cons]
  cases call <;> simp [eq_comm]

lemma step_config (r : JitterRun) (call : JitterCall) :
    (r.step call).buffer.maxDepth = r.buffer.maxDepth ∧
      (r.step call).buffer.targetDelayFrames = r.buffer.targetDelayFrames ∧
      (r.step call).inserts.length = r.inserts.length + (pushed [call]).length := by
  have hnext : r.buffer.popNext.2.maxDepth = r.buffer.maxDepth ∧
      r.buffer.popNext.2.targetDelayFrames = r.buffer.targetDelayFrames := by
    unfold popNext
    cases findKey RawAudio.sequence r.buffer.expectedSequence r.buffer.frames <;> exact ⟨rfl, rfl⟩
  cases call with
  | push frame =>
    simp only [step, AudioJitterBuffer.push]
    split_ifs <;> exact ⟨rfl, rfl, List.length_append⟩
  | popNext => exact ⟨hnext.1, hnext.2, rfl⟩
  | popReady =>
    simp only [step, popReady]
    split_ifs
    · exact ⟨hnext.1, hnext.2, rfl⟩
    · exact ⟨rfl, rfl, rfl⟩

lemma sound_foldl {r : JitterRun} (h : Sound initial r)
    (hbelow : ∀ frame ∈ pushed calls, frame.sequence.toNat + 1 < 2 ^ 64) :
    Sound initial (calls.foldl step r) ∧ (calls.foldl step r).buffer.maxDepth = r.buffer.maxDepth ∧
      (calls.foldl step r).buffer.targetDelayFrames = r.buffer.targetDelayFrames ∧
      (calls.foldl step r).inserts.length = r.inserts.length + (pushed calls).length := by
  induction calls generalizing r with
  | nil => exact ⟨h, rfl, rfl, rfl⟩
  | cons call calls ih =>
    have hspl : pushed (call :: calls) = pushed [call] ++ pushed calls :=
      List.filterMap_append (l := [call])
    simp only [mem_pushed_cons, or_imp, forall_and] at hbelow
    obtain ⟨hmax, htgt, hins⟩ := step_config r call
    obtain ⟨hsou, hmax', htgt', hins'⟩ := ih (h.step call hbelow.1) hbelow.2
    refine ⟨hsou, hmax'.trans hmax, htgt'.trans htgt, ?_⟩
    rw [List.foldl_cons, hins', hins, hspl, List.length_append, Nat.add_assoc]

end Runs

/-- **The jitter buffer keeps its frames in order and accounts for them**, whatever is called on it
with sequence numbers below the largest. The counters are 64 bits wide, so sums of them are sums of
numbers as long as fewer than `2 ^ 64` frames are pushed. -/
theorem jitter_buffer_in_order {initialSequence : UInt64} {maxDepth : Nat}
    {start : AudioJitterBuffer} (hstart : Starts initialSequence maxDepth start)
    {calls : List JitterCall}
    (hbelow : ∀ frame ∈ pushed calls, frame.sequence.toNat + 1 < 2 ^ 64) :
    let r := run start calls
    let s := r.buffer.stats
    (r.emitted.Pairwise (fun a b => a.sequence < b.sequence) ∧
      ∀ f ∈ r.emitted, initialSequence ≤ f.sequence) ∧
    s.inserted = s.emitted + s.dropped + UInt64.ofNat r.buffer.frames.length ∧
    ((pushed calls).length < 2 ^ 64 →
      s.inserted.toNat = s.emitted.toNat + s.dropped.toNat + r.buffer.frames.length) ∧
    (r.inserts.length = (pushed calls).length ∧
      ∀ kind, counter s kind = UInt64.ofNat (r.inserts.count kind)) ∧
    r.buffer.frames.length ≤ max maxDepth 1 ∧
    ∀ f ∈ r.buffer.frames, r.buffer.expectedSequence ≤ f.sequence := by
  intro r s
  obtain ⟨h, hmax, -, hinserts⟩ := sound_foldl hstart.sound hbelow
  have hdepth : start.maxDepth = max maxDepth 1 := by
    rcases hstart with rfl | ⟨delay, rfl⟩ <;> rfl
  rw [List.length_nil, Nat.zero_add] at hinserts
  exact ⟨⟨h.increasing, fun f hf => (h.played f hf).1⟩, h.inserted_eq.1,
    fun hfew => h.inserted_eq.2 (hinserts ▸ hfew), ⟨hinserts, h.counted⟩, hdepth ▸ hmax ▸ h.depth,
    h.inOrder.ahead⟩

/-- Three frames out of order, one of them twice, with a pop in between. -/
theorem jitter_buffer_in_order_sample :
    let calls := [.push ⟨6, []⟩, .push ⟨5, []⟩, .popNext, .push ⟨6, []⟩, .push ⟨4, []⟩, .popReady]
    let r := run (.new 5 2) calls
    r.emitted.map RawAudio.sequence = [5, 6] ∧ r.inserts = [.inserted, .inserted, .duplicate, .late] ∧
      r.buffer.stats.inserted = r.buffer.stats.emitted + r.buffer.stats.dropped + 0 := by
  intro calls r
  exact ⟨by decide, by decide, (jitter_buffer_in_order (.inl rfl) (by decide)).2.1⟩

/-! ## Frames that are lost -/

section Loss

variable {later : List RawAudio}

/-- The first `n` frames have the sequence numbers from `e` on. -/
def Consecutive (e : UInt64) (n : Nat) (frames : List RawAudio) : Prop :=
  ∀ i < n, (frames[i]?).map RawAudio.sequence = some (e + UInt64.ofNat i)

lemma consecutive_succ_cons {n : Nat} {first : RawAudio} {rest : List RawAudio} :
    Consecutive e (n + 1) (first :: rest) ↔
      first.sequence = e ∧ Consecutive (e + 1) n rest := by
  constructor
  · intro h
    refine ⟨by simpa using h 0 (Nat.succ_pos n), fun i hi => ?_⟩
    rw [← add_ofNat_succ]
    exact h (i + 1) (Nat.succ_lt_succ hi)
  · rintro ⟨hfirst, hrest⟩ i hi
    cases i with
    | zero => simp [hfirst]
    | succ i =>
      rw [add_ofNat_succ]
      exact hrest i (Nat.lt_of_succ_lt_succ hi)

lemma InOrder.cursor_mem_iff (h : InOrder e frames) (n : Nat) :
    cursorAfter e (frames.take n) ∈ (frames.drop n).map RawAudio.sequence ↔
      Consecutive e (n + 1) frames := by
  induction frames generalizing e n with
  | nil =>
    refine iff_of_false (by simp) (fun hall => ?_)
    simpa using hall 0 (Nat.succ_pos n)
  | cons first rest ih =>
    have hrest : ∀ g ∈ rest, first.sequence < g.sequence := (List.pairwise_cons.mp h.sorted).1
    have hfirst := h.ahead first List.mem_cons_self
    rw [consecutive_succ_cons]
    cases n with
    | zero =>
      simp only [List.take_zero, List.drop_zero, List.map_cons, List.mem_cons]
      constructor
      · rintro (rfl | hmem)
        · exact ⟨rfl, fun i hi => absurd hi (Nat.not_lt_zero i)⟩
        · obtain ⟨g, hg, rfl⟩ := List.mem_map.mp hmem
          exact absurd (hrest g hg) (UInt64.not_lt.mpr hfirst)
      · exact fun hnext => .inl hnext.1.symm
    | succ n =>
      simp only [List.take_succ_cons, List.drop_succ_cons, cursorAfter, List.foldl_cons]
      by_cases hat : first.sequence = e
      · subst hat
        rw [if_pos rfl, and_iff_right rfl]
        exact ih h.succ_tail n
      · rw [if_neg hat]
        refine iff_of_false (fun hmem => ?_) (fun hnext => hat hnext.1)
        -- the next frame would have the number of the cursor, which is behind the first
        cases rest with
        | nil => simp at hmem
        | cons second rest =>
          have hsec := (consecutive_succ_cons.mp ((ih h.tail n).mp hmem)).1
          have hlt := hrest second List.mem_cons_self
          rw [hsec] at hlt
          exact absurd hlt (UInt64.not_lt.mpr hfirst)

lemma insertFrame_last (h : ∀ g ∈ frames, g.sequence < f.sequence) :
    insertFrame f frames = frames ++ [f] := by
  induction frames with
  | nil => rfl
  | cons first rest ih =>
    have hfirst := UInt64.not_le.mpr (h first List.mem_cons_self)
    rw [insertFrame, List.orderedInsert_cons, if_neg hfirst, List.cons_append]
    exact congrArg _ (ih fun g hg => h g (List.mem_cons_of_mem _ hg))

def pushAll (b : AudioJitterBuffer) (frames : List RawAudio) : AudioJitterBuffer :=
  frames.foldl (fun b frame => (b.push frame).2) b

def heard (b : AudioJitterBuffer) (later : List RawAudio) : List RawAudio :=
  b.frames ++ later.filter (fun f => b.expectedSequence ≤ f.sequence)

/-- Frames in order, all behind those in the buffer and below the last sequence number. -/
structure Follows (b : AudioJitterBuffer) (later : List RawAudio) : Prop where
  increasing : later.Pairwise (fun f g => f.sequence < g.sequence)
  above : ∀ f ∈ later, ∀ g ∈ b.frames, g.sequence < f.sequence
  below : ∀ f ∈ later, f.sequence.toNat + 1 < 2 ^ 64

lemma cutTo_append (xs ys : List RawAudio) (stats stats' : JitterStats) :
    (b.cutTo xs stats).cutTo ((b.cutTo xs stats).frames ++ ys) stats' =
      b.cutTo (xs ++ ys) stats' := by
  have hk : xs.length - b.maxDepth ≤ xs.length := Nat.sub_le _ _
  have hkept : (b.cutTo xs stats).frames ++ ys = (xs ++ ys).drop (xs.length - b.maxDepth) :=
    (List.drop_append_of_le_length hk).symm
  have h : (xs ++ ys).length - b.maxDepth = (xs.length - b.maxDepth) +
      (((xs ++ ys).drop (xs.length - b.maxDepth)).length - b.maxDepth) := by
    rw [List.length_drop, List.length_append]
    omega
  rw [hkept]
  simp only [cutTo]
  rw [h, List.take_add, List.drop_drop, List.take_append_of_le_length hk]
  simp only [cursorAfter, List.foldl_append]

lemma pushAll_eq (h : InOrder b.expectedSequence b.frames) (hdepth : 0 < b.maxDepth)
    (hfit : b.frames.length ≤ b.maxDepth) (hlater : Follows b later) :
    ∃ stats, pushAll b later = b.cutTo (heard b later) stats := by
  induction later generalizing b with
  | nil =>
    refine ⟨b.stats, ?_⟩
    simp [heard, pushAll, cutTo, cursorAfter, Nat.sub_eq_zero_of_le hfit]
  | cons f rest ih =>
    obtain ⟨hnext, hrest⟩ := List.pairwise_cons.mp hlater.increasing
    have habo := hlater.above f List.mem_cons_self
    have hbel := List.forall_mem_cons.mp hlater.below
    by_cases hlate : f.sequence < b.expectedSequence
    · have hpush : (b.push f).2 = { b with
          stats := { b.stats with late := b.stats.late + 1 } } := by
        rw [AudioJitterBuffer.push, if_pos hlate]
      have hhea : heard b (f :: rest) = heard b rest := by
        simp [heard, UInt64.not_le.mpr hlate]
      rw [hhea, pushAll, List.foldl_cons, hpush]
      exact ih (b := { b with stats := _ }) h hdepth hfit
        ⟨hrest, fun g hg => hlater.above g (List.mem_cons_of_mem _ hg), hbel.2⟩
    · have hnew : f.sequence ∉ b.frames.map RawAudio.sequence := by
        intro hmem
        obtain ⟨g, hg, hsame⟩ := List.mem_map.mp hmem
        exact UInt64.lt_irrefl _ (hsame ▸ habo g hg)
      have hahe := UInt64.not_lt.mp hlate
      obtain ⟨stats, hpush, -⟩ := push_inserted hlate hnew
      have hfra := h.insert hahe hbel.1 hnew
      rw [insertFrame_last habo] at hpush hfra
      obtain ⟨-, hkept⟩ := hfra.cutTo stats
      have hexc : (b.frames ++ [f]).length - b.maxDepth ≤ b.frames.length := by
        rw [List.length_append, List.length_singleton]
        omega
      have hcut : (b.cutTo (b.frames ++ [f]) stats).frames =
          b.frames.drop ((b.frames ++ [f]).length - b.maxDepth) ++ [f] :=
        List.drop_append_of_le_length hexc
      -- the frame just pushed stays, so the cursor has not passed it and nothing later is late
      have hlast : f ∈ (b.cutTo (b.frames ++ [f]) stats).frames := by simp [hcut]
      have hall : ∀ c : UInt64, c ≤ f.sequence → rest.filter (fun g => c ≤ g.sequence) = rest := by
        intro c hc
        refine List.filter_eq_self.mpr (fun g hg => decide_eq_true ?_)
        exact UInt64.le_trans hc (UInt64.le_of_lt (hnext g hg))
      have hhea : heard b (f :: rest) = b.frames ++ [f] ++ rest := by
        simp [heard, hahe, hall _ hahe]
      have hlater' : Follows (b.cutTo (b.frames ++ [f]) stats) rest := by
        refine ⟨hrest, fun g hg g' hg' => ?_, hbel.2⟩
        rcases List.mem_append.mp (List.mem_of_mem_drop hg') with hold | hf
        · exact hlater.above g (List.mem_cons_of_mem _ hg) g' hold
        · rw [List.mem_singleton.mp hf]
          exact hnext g hg
      have hfit' : (b.cutTo (b.frames ++ [f]) stats).frames.length ≤ b.maxDepth := by
        show (List.drop _ _).length ≤ _
        rw [List.length_drop]
        omega
      obtain ⟨stats', hind⟩ := ih hkept hdepth hfit' hlater'
      refine ⟨stats', ?_⟩
      rw [hhea, pushAll, List.foldl_cons, hpush, ← cutTo_append (b.frames ++ [f]) rest stats]
      rw [heard, hall _ (hkept.ahead f hlast)] at hind
      exact hind

lemma cursorAfter_of_not_mem {dropped : List RawAudio}
    (h : e ∉ dropped.map RawAudio.sequence) : cursorAfter e dropped = e := by
  induction dropped with
  | nil => rfl
  | cons first rest ih =>
    rw [List.map_cons, List.mem_cons, not_or] at h
    rw [cursorAfter, List.foldl_cons, if_neg (Ne.symm h.1)]
    exact ih h.2

def Missing (e : UInt64) (b : AudioJitterBuffer) : Prop :=
  b.expectedSequence = e ∧ e ∉ b.frames.map RawAudio.sequence

lemma step_missing {call : JitterCall} (h : Missing e r.buffer)
    (hlost : ∀ frame, call = .push frame → frame.sequence ≠ e) :
    Missing e (r.step call).buffer ∧ (r.step call).emitted = r.emitted := by
  obtain ⟨hcur, hmis⟩ := h
  have hnone : findKey RawAudio.sequence r.buffer.expectedSequence r.buffer.frames = none := by
    refine List.find?_eq_none.mpr (fun g hg hsame => hmis (List.mem_map.mpr ⟨g, hg, ?_⟩))
    exact (of_decide_eq_true hsame).trans hcur
  cases call with
  | push frame =>
    refine ⟨?_, rfl⟩
    by_cases hlate : frame.sequence < r.buffer.expectedSequence
    · simp only [step, AudioJitterBuffer.push, if_pos hlate]
      exact ⟨hcur, hmis⟩
    by_cases hdup : frame.sequence ∈ r.buffer.frames.map RawAudio.sequence
    · simp only [step, AudioJitterBuffer.push, if_neg hlate, if_pos hdup]
      exact ⟨hcur, hmis⟩
    · obtain ⟨stats, hpush, -⟩ := push_inserted hlate hdup
      have hnot : e ∉ (insertFrame frame r.buffer.frames).map RawAudio.sequence := by
        intro hmem
        obtain ⟨g, hg, hseq⟩ := List.mem_map.mp hmem
        rcases (List.mem_orderedInsert _).mp hg with rfl | hg
        · exact hlost g rfl hseq
        · exact hmis (List.mem_map.mpr ⟨g, hg, hseq⟩)
      simp only [step, hpush, cutTo, Missing, hcur, List.map_drop]
      refine ⟨cursorAfter_of_not_mem fun hmem => hnot ?_, fun hmem => hnot (List.mem_of_mem_drop hmem)⟩
      rw [List.map_take] at hmem
      exact List.mem_of_mem_take hmem
  | popNext =>
    simp only [step, popNext, hnone, took_none]
    exact ⟨⟨hcur, hmis⟩, trivial⟩
  | popReady =>
    have hrea : ¬ r.buffer.nextReady := fun hrea => hmis (hcur ▸ hrea.1)
    simp only [step, popReady, if_neg hrea, took_none]
    exact ⟨⟨hcur, hmis⟩, trivial⟩

lemma foldl_missing {calls : List JitterCall} (h : Missing e r.buffer)
    (hlost : ∀ frame ∈ pushed calls, frame.sequence ≠ e) :
    (calls.foldl step r).emitted = r.emitted := by
  induction calls generalizing r with
  | nil => rfl
  | cons call calls ih =>
    simp only [mem_pushed_cons, or_imp, forall_and] at hlost
    obtain ⟨hnext, hemi⟩ := step_missing h hlost.1
    exact (ih hnext hlost.2).trans hemi

lemma inOrder_heard (h : InOrder b.expectedSequence b.frames) (hlater : Follows b later) :
    InOrder b.expectedSequence (heard b later) := by
  have hmem : ∀ f ∈ heard b later, f ∈ b.frames ∨ f ∈ later ∧ b.expectedSequence ≤ f.sequence :=
    fun f hf => by simpa [heard] using hf
  refine ⟨List.pairwise_append.mpr ⟨h.sorted, hlater.increasing.filter _, ?_⟩, ?_, ?_⟩
  · exact fun g hg f hf => hlater.above f (List.mem_of_mem_filter hf) g hg
  · intro f hf
    rcases hmem f hf with hf | hf
    · exact h.ahead f hf
    · exact hf.2
  · intro f hf
    rcases hmem f hf with hf | hf
    · exact h.below f hf
    · exact hlater.below f hf.1

lemma popReady_isSome_iff : b.popReady.1.isSome ↔ b.nextReady := by
  unfold popReady
  by_cases hrea : b.nextReady
  · rw [if_pos hrea, popNext]
    obtain ⟨g, hg, hseq⟩ := List.mem_map.mp hrea.1
    cases hfind : findKey RawAudio.sequence b.expectedSequence b.frames with
    | none => exact absurd hrea.1 (not_mem_of_findKey hfind)
    | some frame => exact iff_of_true rfl hrea
  · rw [if_neg hrea]
    exact iff_of_false Bool.false_ne_true hrea

lemma popReady_pushAll_iff (h : InOrder b.expectedSequence b.frames)
    (hfit : b.frames.length ≤ b.maxDepth) (hdelay : b.targetDelayFrames < b.maxDepth)
    (hlater : Follows b later) : (pushAll b later).popReady.1.isSome ↔
      b.targetDelayFrames < (heard b later).length ∧
        Consecutive b.expectedSequence ((heard b later).length - b.maxDepth + 1)
          (heard b later) := by
  obtain ⟨stats, hpus⟩ := pushAll_eq h (by omega) hfit hlater
  have hcur := (inOrder_heard h hlater).cursor_mem_iff ((heard b later).length - b.maxDepth)
  have hlen : b.targetDelayFrames < (b.cutTo (heard b later) stats).frames.length ↔
      b.targetDelayFrames < (heard b later).length := by
    show _ < (List.drop _ _).length ↔ _
    rw [List.length_drop]
    omega
  rw [popReady_isSome_iff, hpus, and_comm]
  exact and_congr hcur hlen

end Loss

/-- **When playout goes on after a loss.** Whatever was called before, after a stream of frames in
order `pop_ready` returns a frame exactly when more frames than the delay were heard, and of these
none is missing from the cursor up to the oldest one that is still buffered. A frame that is lost
under the cursor ends the playout: nothing is emitted any more. -/
theorem plays_on_iff {initialSequence : UInt64} {maxDepth : Nat} {start : AudioJitterBuffer}
    (hstart : Starts initialSequence maxDepth start) {calls : List JitterCall}
    (hbelow : ∀ frame ∈ pushed calls, frame.sequence.toNat + 1 < 2 ^ 64) :
    let r := run start calls
    let b := r.buffer
    (∀ later, Follows b later → ((pushAll b later).popReady.1.isSome ↔
        b.targetDelayFrames < (heard b later).length ∧
          Consecutive b.expectedSequence ((heard b later).length - b.maxDepth + 1)
            (heard b later))) ∧
    ∀ more, b.expectedSequence ∉ b.frames.map RawAudio.sequence →
      (∀ frame ∈ pushed more, frame.sequence ≠ b.expectedSequence) →
      (run start (calls ++ more)).emitted = r.emitted := by
  intro r b
  obtain ⟨h, hmax, htarget, -⟩ := sound_foldl hstart.sound hbelow
  have hdelay : b.targetDelayFrames < b.maxDepth := calc
    b.targetDelayFrames = start.targetDelayFrames := htarget
    _ < start.maxDepth := hstart.delay_lt
    _ = b.maxDepth := hmax.symm
  constructor
  · exact fun later => popReady_pushAll_iff h.inOrder h.depth hdelay
  · intro more hmissing hlost
    rw [run, List.foldl_append]
    exact foldl_missing ⟨rfl, hmissing⟩ hlost

/-- Four frames without a loss, two more than the buffer keeps. -/
theorem plays_on_iff_lossless :
    (pushAll (run (.withPlayoutDelay 0 2 1) [.push ⟨0, []⟩]).buffer
      [⟨1, []⟩, ⟨2, []⟩, ⟨3, []⟩]).popReady.1.isSome :=
  ((plays_on_iff (show Starts 0 2 _ from .inr ⟨1, rfl⟩) (by decide)).1
    [⟨1, []⟩, ⟨2, []⟩, ⟨3, []⟩] ⟨by decide, by decide, by decide⟩).mpr
    ⟨by decide, by unfold Consecutive; decide⟩

def arrives (sequence : UInt64) : List JitterCall :=
  [.push ⟨sequence, []⟩, .popReady, .popReady, .popReady]

/-- With the viewer's depth and delay, frame 2 is lost. Seven frames later nothing is ready, and
whatever else arrives, nothing is played again. -/
theorem lost_frame_stops_playout :
    let start := AudioJitterBuffer.withPlayoutDelay 0 6 2
    let calls := [0, 1, 3, 4, 5, 6, 7, 8, 9].flatMap arrives
    let r := run start calls
    r.emitted.map RawAudio.sequence = [0, 1] ∧ r.buffer.popReady.1 = none ∧
      ∀ more, (∀ frame ∈ pushed more, frame.sequence ≠ 2) →
        (run start (calls ++ more)).emitted = r.emitted := by
  intro start calls r
  refine ⟨by decide +kernel, by decide +kernel, fun more hlost => ?_⟩
  rw [run, List.foldl_append]
  exact foldl_missing (e := 2) ⟨by decide +kernel, by decide +kernel⟩ hlost

end XeniaPeer.Audio
