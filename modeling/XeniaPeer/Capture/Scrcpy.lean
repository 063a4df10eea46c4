import XeniaPeer.Foundation.Codes

/-!
# The packet stream of a scrcpy server

`next_frame` of `xenia-capture-scrcpy` takes decoded frames off a queue and, while the queue is
empty, reads a packet (a header of 12 bytes and a payload of the length it gives) and hands it to
the decoder.

Main result: `agrees_iff`.
-/

namespace XeniaPeer.Capture

open Foundation

def frameHeaderLen : Nat := 12

def maxPacketSize : Nat := 64 * 1024 * 1024

def ptsMask : UInt64 := ((1 : UInt64) <<< 62) - 1

def noPts : UInt64 := ptsMask

structure FrameHeader where
  rawPtsWithFlags : UInt64
  packetSize : UInt32

def FrameHeader.ptsMicros (header : FrameHeader) : Option UInt64 :=
  let masked := header.rawPtsWithFlags &&& ptsMask
  if masked = noPts then none else some masked

inductive StreamError (Error : Type) where
  | shortRead (expected got : Nat)
  | decode (e : Error)
  | oversizePacket (size max : Nat)

section

variable {σ Frame Error : Type}

def parseFrameHeader (bytes : Bytes) : Except (StreamError Error) FrameHeader :=
  if bytes.length < frameHeaderLen then .error (.shortRead frameHeaderLen bytes.length)
  else
    .ok ⟨UInt64.ofNat (natOfBe (bytes.take 8)), UInt32.ofNat (natOfBe ((bytes.drop 8).take 4))⟩

structure VideoDecoder (σ Frame Error : Type) where
  decodePacket : σ → Bytes → Option UInt64 → Except Error (List Frame) × σ

/-- The bytes that the server sends from here to the end of the stream, the decoded frames that wait,
and the decoder. -/
structure ScrcpyStream (σ Frame : Type) where
  wire : Bytes
  pending : List Frame
  decoder : σ

/-- The timeouts of one `read_one_packet`: the bytes after which the read of the header, and that of
the payload, is cut off. -/
structure Attempt where
  (header payload : Option Nat)

/-- `read_exact` of `n` bytes, and the rest of the stream. A timeout strikes before the last of the
bytes is there; at the end of the stream the read takes what is left. Both are `none`. -/
def readExact (timeout : Option Nat) (n : Nat) (wire : Bytes) : Option Bytes × Bytes :=
  match timeout.filter (fun k => k < n ∧ k ≤ wire.length) with
  | some k => (none, wire.drop k)
  | none => if n ≤ wire.length then (some (wire.take n), wire.drop n) else (none, [])

def readOnePacket (attempt : Attempt) (wire : Bytes) :
    Except (StreamError Error) (Option (FrameHeader × Bytes)) × Bytes :=
  match readExact attempt.header frameHeaderLen wire with
  | (none, wire) => (.ok none, wire)
  | (some bytes, wire) =>
    match parseFrameHeader bytes with
    | .error e => (.error e, wire)
    | .ok header =>
      if header.packetSize.toNat > maxPacketSize then
        (.error (.oversizePacket header.packetSize.toNat maxPacketSize), wire)
      else
        match readExact attempt.payload header.packetSize.toNat wire with
        | (some payload, wire) => (.ok (some (header, payload)), wire)
        | (none, wire) => (.ok none, wire)

inductive Pass (σ Frame Error : Type) where
  | returns (result : Except (StreamError Error) (Option Frame)) (s : ScrcpyStream σ Frame)
  | continues (s : ScrcpyStream σ Frame)

section

variable (dec : VideoDecoder σ Frame Error)

def pass (attempts : List Attempt) (s : ScrcpyStream σ Frame) : Pass σ Frame Error × List Attempt :=
  match s.pending with
  | frame :: rest => (.returns (.ok (some frame)) { s with pending := rest }, attempts)
  | [] =>
    (match readOnePacket (attempts.headD ⟨none, none⟩) s.wire with
      | (.error e, wire) => .returns (.error e) { s with wire }
      | (.ok none, wire) => .returns (.ok none) { s with wire }
      | (.ok (some (header, payload)), wire) =>
        match dec.decodePacket s.decoder payload header.ptsMicros with
        | (.error e, decoder) => .returns (.error (.decode e)) { s with wire, decoder }
        | (.ok frames, decoder) => .continues { wire, pending := frames, decoder },
      attempts.tail)

def loop (dec : VideoDecoder σ Frame Error) : Nat → List Attempt → ScrcpyStream σ Frame →
    Except (StreamError Error) (Option Frame) × ScrcpyStream σ Frame × List Attempt
  | 0, attempts, s => (.ok none, s, attempts)
  | fuel + 1, attempts, s =>
    match pass dec attempts s with
    | (.returns result s', attempts') => (result, s', attempts')
    | (.continues s', attempts') => loop dec fuel attempts' s'

def nextFrame (attempts : List Attempt) (s : ScrcpyStream σ Frame) :
    Except (StreamError Error) (Option Frame) × ScrcpyStream σ Frame × List Attempt :=
  loop dec (s.wire.length + 1) attempts s

def given : Except (StreamError Error) (Option Frame) → List (Except (StreamError Error) Frame)
  | .error e => [.error e]
  | .ok none => []
  | .ok (some frame) => [.ok frame]

def givenBy (dec : VideoDecoder σ Frame Error) : Nat → List Attempt → ScrcpyStream σ Frame →
    List (Except (StreamError Error) Frame)
  | 0, _, _ => []
  | n + 1, attempts, s =>
    let call := nextFrame dec attempts s
    given call.1 ++ givenBy dec n call.2.2 call.2.1

/-- The frames given are those that calls without a timeout give, at every length. -/
def Agrees (attempts : List Attempt) (s : ScrcpyStream σ Frame) : Prop :=
  (∀ n, ∃ m, givenBy dec n attempts s = givenBy dec m [] s) ∧
    ∀ m, ∃ n, givenBy dec n attempts s = givenBy dec m [] s

end

/-! ## Passes -/

lemma length_readExact {timeout : Option Nat} {n : Nat} {wire rest : Bytes} {b : Option Bytes}
    (h : readExact timeout n wire = (b, rest)) :
    rest.length ≤ wire.length ∧ (b.isSome → rest.length + n ≤ wire.length) := by
  unfold readExact at h
  split at h
  · cases h
    exact ⟨by simp, by simp⟩
  · split at h
    · cases h
      simp only [List.length_drop]
      omega
    · cases h
      exact ⟨Nat.zero_le _, by simp⟩

lemma length_readOnePacket {attempt : Attempt} {wire rest : Bytes} {packet : FrameHeader × Bytes}
    (h : readOnePacket attempt wire =
      ((.ok (some packet) : Except (StreamError Error) (Option (FrameHeader × Bytes))), rest)) :
    rest.length < wire.length := by
  unfold readOnePacket at h
  split at h
  · cases h
  · rename_i bytes wire' hhea
    have hlt := (length_readExact hhea).2 rfl
    have hlen : 0 < frameHeaderLen := by decide
    split at h
    · cases h
    · split at h
      · cases h
      · split at h
        · rename_i hpay
          cases h
          have := (length_readExact hpay).1
          omega
        · cases h

variable {dec : VideoDecoder σ Frame Error} {attempts attempts' : List Attempt}
  {s s' : ScrcpyStream σ Frame}

lemma length_of_pass_continues (h : pass dec attempts s = (.continues s', attempts')) :
    s'.wire.length < s.wire.length := by
  unfold pass at h
  split at h
  · cases h
  · simp only [Prod.mk.injEq] at h
    obtain ⟨h, -⟩ := h
    split at h
    · cases h
    · cases h
    · rename_i hread
      split at h
      · cases h
      · cases h
        exact length_readOnePacket hread

lemma loop_of_length_lt {fuel : Nat} (h : s.wire.length < fuel) :
    loop dec fuel attempts s = nextFrame dec attempts s := by
  induction fuel using Nat.strongRecOn generalizing attempts s with
  | ind fuel ih =>
    obtain ⟨fuel, rfl⟩ : ∃ n, fuel = n + 1 := ⟨fuel - 1, by omega⟩
    rw [nextFrame, loop, loop]
    split
    · rfl
    · rename_i s' attempts' hpass
      have hlt := length_of_pass_continues hpass
      rcases Nat.lt_or_ge s.wire.length fuel with hfuel | hfuel
      · rw [ih fuel (by omega) (by omega), ih s.wire.length (by omega) hlt]
      · rw [show fuel = s.wire.length by omega]

lemma nextFrame_eq (dec : VideoDecoder σ Frame Error) (attempts : List Attempt)
    (s : ScrcpyStream σ Frame) : nextFrame dec attempts s =
      match pass dec attempts s with
      | (.returns result s', attempts') => (result, s', attempts')
      | (.continues s', attempts') => nextFrame dec attempts' s' := by
  rw [nextFrame, loop]
  split
  · rfl
  · rename_i hpass
    exact loop_of_length_lt (length_of_pass_continues hpass)

lemma pass_nil (dec : VideoDecoder σ Frame Error) (s : ScrcpyStream σ Frame) :
    (pass dec [] s).2 = [] := by
  unfold pass
  split <;> rfl

/-! ## Timeouts that lose nothing -/

/-- The read of the header is cut before its first byte, or neither read is cut: a header is read or
not before the twelfth byte, and a payload has at most `maxPacketSize` bytes. -/
def Attempt.Calm (a : Attempt) : Prop :=
  a.header = some 0 ∨ (∀ k ∈ a.header, frameHeaderLen ≤ k) ∧ ∀ k ∈ a.payload, maxPacketSize ≤ k

instance (a : Attempt) : Decidable a.Calm := by
  unfold Attempt.Calm
  infer_instance

lemma readExact_of_le {timeout : Option Nat} {n : Nat} {wire : Bytes}
    (h : ∀ k ∈ timeout, n ≤ k) : readExact timeout n wire = readExact none n wire := by
  have hnone : timeout.filter (fun k => k < n ∧ k ≤ wire.length) = none := by
    refine Option.filter_eq_none_iff.mpr fun k hk => ?_
    have := h k hk
    simp only [decide_eq_true_eq, not_and]
    omega
  simp only [readExact, hnone, Option.filter_none]

variable (Error) in
lemma readOnePacket_zero {a : Attempt} (h : a.header = some 0) (wire : Bytes) :
    readOnePacket a wire =
      ((.ok none : Except (StreamError Error) (Option (FrameHeader × Bytes))), wire) := by
  simp [readOnePacket, readExact, h, frameHeaderLen, Option.filter]

variable (Error) in
lemma readOnePacket_uncut {a : Attempt} (hheader : ∀ k ∈ a.header, frameHeaderLen ≤ k)
    (hpayload : ∀ k ∈ a.payload, maxPacketSize ≤ k) (wire : Bytes) : readOnePacket a wire =
      (readOnePacket ⟨none, none⟩ wire :
        Except (StreamError Error) (Option (FrameHeader × Bytes)) × Bytes) := by
  simp only [readOnePacket, readExact_of_le hheader]
  split
  · rfl
  · split
    · rfl
    · rename_i header _
      split
      · rfl
      · rw [readExact_of_le fun k hk => le_trans (by omega) (hpayload k hk)]

lemma pass_calm (h : ∀ a ∈ attempts, a.Calm) (dec : VideoDecoder σ Frame Error)
    (s : ScrcpyStream σ Frame) :
    pass dec attempts s = (.returns (.ok none) s, attempts.tail) ∧ attempts ≠ [] ∨
      (pass dec attempts s).1 = (pass dec [] s).1 ∧ (pass dec attempts s).2 <:+ attempts := by
  obtain ⟨wire, pending, decoder⟩ := s
  cases pending with
  | cons frame rest => exact .inr ⟨rfl, List.suffix_refl _⟩
  | nil =>
    cases attempts with
    | nil => exact .inr ⟨rfl, List.suffix_refl _⟩
    | cons a rest =>
      rcases h a List.mem_cons_self with hzero | ⟨hhea, hpay⟩
      · left
        refine ⟨?_, List.cons_ne_nil _ _⟩
        simp [pass, readOnePacket_zero Error hzero]
      · right
        refine ⟨?_, List.suffix_cons _ _⟩
        simp [pass, readOnePacket_uncut Error hhea hpay]

lemma nextFrame_calm (h : ∀ a ∈ attempts, a.Calm) (dec : VideoDecoder σ Frame Error)
    (s : ScrcpyStream σ Frame) : (nextFrame dec attempts s).2.2 <:+ attempts ∧
      ((nextFrame dec [] s = ((nextFrame dec attempts s).1, (nextFrame dec attempts s).2.1, [])) ∨
        (nextFrame dec attempts s).1 = .ok none ∧
          nextFrame dec [] (nextFrame dec attempts s).2.1 = nextFrame dec [] s ∧
          (nextFrame dec attempts s).2.2.length < attempts.length) := by
  induction hn : s.wire.length using Nat.strongRecOn generalizing s attempts with
  | ind n ih =>
    rcases pass_calm h dec s with ⟨hcut, hne⟩ | ⟨hsame, hsuf⟩
    · rw [nextFrame_eq dec attempts s, hcut]
      refine ⟨List.tail_suffix _, .inr ⟨rfl, rfl, ?_⟩⟩
      have := List.length_pos_iff.mpr hne
      simp only [List.length_tail]
      omega
    · have hnil := pass_nil dec s
      rw [nextFrame_eq dec attempts s, nextFrame_eq dec [] s]
      rcases hpass : pass dec attempts s with ⟨outcome, left⟩
      rcases hpass' : pass dec [] s with ⟨outcome', left'⟩
      simp only [hpass, hpass'] at hsame hsuf hnil
      subst hsame hnil
      cases outcome with
      | returns result s' => exact ⟨hsuf, .inl rfl⟩
      | continues s' =>
        have hleft : ∀ a ∈ left, a.Calm := fun a ha => h a (hsuf.subset ha)
        obtain ⟨hcal, hcase⟩ := ih s'.wire.length (hn ▸ length_of_pass_continues hpass) hleft s' rfl
        refine ⟨hcal.trans hsuf, ?_⟩
        rcases hcase with hsame | ⟨hnone, haga, hlt⟩
        · exact .inl hsame
        · exact .inr ⟨hnone, haga, hlt.trans_le hsuf.length_le⟩

lemma givenBy_congr (h : nextFrame dec [] s = nextFrame dec [] s') (n : Nat) :
    givenBy dec n [] s = givenBy dec n [] s' := by
  cases n with
  | zero => rfl
  | succ n => simp only [givenBy, h]

lemma agrees_of_calm (h : ∀ a ∈ attempts, a.Calm) : Agrees dec attempts s := by
  constructor
  · -- what calls with timeouts give: induction over the calls
    intro n
    induction n generalizing attempts s with
    | zero => exact ⟨0, rfl⟩
    | succ n ih =>
      obtain ⟨hsuf, hcase⟩ := nextFrame_calm h dec s
      have hleft : ∀ a ∈ (nextFrame dec attempts s).2.2, a.Calm := fun a ha => h a (hsuf.subset ha)
      obtain ⟨m, hm⟩ := ih hleft (s := (nextFrame dec attempts s).2.1)
      rcases hcase with hsame | ⟨hnone, haga, -⟩
      · refine ⟨m + 1, ?_⟩
        simp only [givenBy, hsame, hm]
      · refine ⟨m, ?_⟩
        simp only [givenBy, hnone, given, List.nil_append, hm]
        exact givenBy_congr haga m
  · -- what calls without them give: each call is due until it is made, and timeouts run out
    intro m
    induction m generalizing attempts s with
    | zero => exact ⟨0, rfl⟩
    | succ m ih =>
      induction hlen : attempts.length using Nat.strongRecOn generalizing attempts s with
      | ind len ihlen =>
        obtain ⟨hsuf, hcase⟩ := nextFrame_calm h dec s
        have hleft : ∀ a ∈ (nextFrame dec attempts s).2.2, a.Calm :=
          fun a ha => h a (hsuf.subset ha)
        rcases hcase with hsame | ⟨hnone, haga, hlt⟩
        · obtain ⟨n, hn⟩ := ih hleft (s := (nextFrame dec attempts s).2.1)
          refine ⟨n + 1, ?_⟩
          simp only [givenBy, hsame, hn]
        · obtain ⟨n, hn⟩ := ihlen _ (hlen ▸ hlt) hleft (s := (nextFrame dec attempts s).2.1) rfl
          refine ⟨n + 1, ?_⟩
          rw [givenBy, hnone]
          exact hn.trans (givenBy_congr haga (m + 1))

end

/-! ## Timeouts that lose a packet -/

def packetOf (payload : Bytes) : Bytes := beBytes 8 0 ++ beBytes 4 payload.length ++ payload

def framePerPacket : VideoDecoder Unit Unit Empty := ⟨fun _ _ _ => (.ok [()], ())⟩

def streamOf (wire : Bytes) : ScrcpyStream Unit Unit := ⟨wire, [], ()⟩

lemma readExact_append {b rest : Bytes} : readExact none b.length (b ++ rest) = (some b, rest) := by
  simp [readExact]

lemma readHeader_packetOf (payload rest : Bytes) :
    readExact none frameHeaderLen (packetOf payload ++ rest) =
      (some (beBytes 8 0 ++ beBytes 4 payload.length), payload ++ rest) := by
  have hlen : frameHeaderLen = (beBytes 8 0 ++ beBytes 4 payload.length).length := by
    simp [frameHeaderLen, beBytes]
  rw [packetOf, List.append_assoc, hlen]
  exact readExact_append

lemma parseFrameHeader_packetOf {payload : Bytes} (h : payload.length ≤ maxPacketSize) :
    parseFrameHeader (beBytes 8 0 ++ beBytes 4 payload.length) =
      (.ok ⟨0, UInt32.ofNat payload.length⟩ : Except (StreamError Empty) FrameHeader) := by
  have hlt : payload.length < 256 ^ 4 := by
    unfold maxPacketSize at h
    omega
  have hpts : ((beBytes 8 0 ++ beBytes 4 payload.length).take 8) = beBytes 8 0 := by
    rw [List.take_left' (by simp [beBytes])]
  have hsize : ((beBytes 8 0 ++ beBytes 4 payload.length).drop 8).take 4 =
      beBytes 4 payload.length := by
    rw [List.drop_left' (by simp [beBytes]), List.take_of_length_le (by simp [beBytes])]
  rw [parseFrameHeader, hpts, hsize, natOfBe_beBytes hlt, natOfBe_beBytes (by decide),
    if_neg (by simp [frameHeaderLen, beBytes])]
  rfl

lemma toNat_packetSize {payload : Bytes} (h : payload.length ≤ maxPacketSize) :
    (UInt32.ofNat payload.length).toNat = payload.length := by
  exact UInt32.toNat_ofNat_of_lt' (h.trans_lt (by decide))

lemma readOnePacket_packetOf {payload rest : Bytes} (h : payload.length ≤ maxPacketSize) :
    readOnePacket ⟨none, none⟩ (packetOf payload ++ rest) =
      ((.ok (some (⟨0, UInt32.ofNat payload.length⟩, payload)) :
        Except (StreamError Empty) (Option (FrameHeader × Bytes))), rest) := by
  simp only [readOnePacket, readHeader_packetOf, parseFrameHeader_packetOf h, toNat_packetSize h,
    if_neg (Nat.not_lt.mpr h), readExact_append, gt_iff_lt]

lemma readOnePacket_cut {a : Attempt} (h : ¬ a.Calm) :
    ∃ payload : Bytes, payload.length ≤ maxPacketSize ∧ ∃ rest : Bytes,
      rest.length < frameHeaderLen ∧ readOnePacket a (packetOf payload) =
          ((.ok none : Except (StreamError Empty) (Option (FrameHeader × Bytes))), rest) := by
  obtain ⟨header, payload⟩ := a
  obtain ⟨hzero, hcuts⟩ := not_or.mp h
  by_cases hcut : ∃ k ∈ header, k < frameHeaderLen
  · -- the header of an empty packet is cut behind its first byte
    obtain ⟨k, rfl, hk⟩ := hcut
    have hpos : 0 < k := Nat.pos_of_ne_zero fun h => hzero (congrArg some h)
    have hlen : (packetOf []).length = frameHeaderLen := by simp [packetOf, beBytes, frameHeaderLen]
    refine ⟨[], Nat.zero_le _, (packetOf []).drop k, by rw [List.length_drop, hlen]; omega, ?_⟩
    simp [readOnePacket, readExact, Option.filter, hk, hlen, hk.le]
  · -- of a payload one byte longer than the cut that byte is left
    simp only [not_exists, not_and, not_lt] at hcut
    obtain ⟨k, rfl, hk⟩ : ∃ k ∈ payload, k < maxPacketSize := by
      by_contra hnone
      refine hcuts ⟨hcut, fun k hk => ?_⟩
      by_contra hlt
      exact hnone ⟨k, hk, by omega⟩
    have hsize : (List.replicate (k + 1) (0 : UInt8)).length ≤ maxPacketSize := by
      rwa [List.length_replicate]
    refine ⟨_, hsize, [0], by decide, ?_⟩
    have hread := readHeader_packetOf (List.replicate (k + 1) 0) []
    rw [List.append_nil, List.append_nil] at hread
    simp only [readOnePacket, readExact_of_le hcut, hread, parseFrameHeader_packetOf hsize,
      toNat_packetSize hsize, if_neg (Nat.not_lt.mpr hsize), gt_iff_lt]
    simp [readExact, Option.filter]

lemma length_readOnePacket_short {a : Attempt} {wire : Bytes} (h : wire.length < frameHeaderLen) :
    ∃ rest : Bytes, rest.length < frameHeaderLen ∧ readOnePacket a wire =
        ((.ok none : Except (StreamError Empty) (Option (FrameHeader × Bytes))), rest) := by
  rcases hread : readExact a.header frameHeaderLen wire with ⟨bytes, rest⟩
  obtain ⟨hle, hsome⟩ := length_readExact hread
  cases bytes with
  | none => exact ⟨rest, hle.trans_lt h, by simp only [readOnePacket, hread]⟩
  | some b =>
    have := hsome rfl
    omega

lemma nextFrame_none (attempts : List Attempt) {wire rest : Bytes}
    (h : readOnePacket (attempts.headD ⟨none, none⟩) wire =
      ((.ok none : Except (StreamError Empty) (Option (FrameHeader × Bytes))), rest)) :
    nextFrame framePerPacket attempts (streamOf wire) =
      (.ok none, streamOf rest, attempts.tail) := by
  simp only [nextFrame_eq, pass, streamOf, h]

lemma nextFrame_packetOf (attempts : List Attempt) {payload : Bytes} (rest : Bytes)
    (hsize : payload.length ≤ maxPacketSize)
    (h : readOnePacket (attempts.headD ⟨none, none⟩) (packetOf payload ++ rest) =
      (readOnePacket ⟨none, none⟩ (packetOf payload ++ rest) :
        Except (StreamError Empty) (Option (FrameHeader × Bytes)) × Bytes)) :
    nextFrame framePerPacket attempts (streamOf (packetOf payload ++ rest)) =
      (.ok (some ()), streamOf rest, attempts.tail) := by
  rw [readOnePacket_packetOf hsize] at h
  rw [nextFrame_eq]
  simp only [pass, streamOf, h, framePerPacket]
  rw [nextFrame_eq]
  simp only [pass]

lemma givenBy_short {wire : Bytes} (h : wire.length < frameHeaderLen) (n : Nat)
    (attempts : List Attempt) : givenBy framePerPacket n attempts (streamOf wire) = [] := by
  induction n generalizing wire attempts with
  | zero => rfl
  | succ n ih =>
    obtain ⟨rest, hrest, hread⟩ := length_readOnePacket_short (a := attempts.headD ⟨none, none⟩) h
    rw [givenBy, nextFrame_none attempts hread]
    exact ih hrest attempts.tail

lemma exists_loss {attempts : List Attempt} (h : ∃ a ∈ attempts, ¬ a.Calm) :
    ∃ (wire : Bytes) (total : Nat),
      (∀ n, (givenBy framePerPacket n attempts (streamOf wire)).length < total) ∧
        ∃ m, total ≤ (givenBy framePerPacket m [] (streamOf wire)).length := by
  induction attempts with
  | nil => obtain ⟨a, ha, -⟩ := h; cases ha
  | cons a rest ih =>
    by_cases hcalm : a.Calm
    · obtain ⟨b, hb, hbad⟩ := h
      have hrest : b ∈ rest := by
        rcases List.mem_cons.mp hb with rfl | hb
        · exact absurd hcalm hbad
        · exact hb
      obtain ⟨wire, total, hless, m, hall⟩ := ih ⟨b, hrest, hbad⟩
      rcases hcalm with hzero | ⟨hhea, hpay⟩
      · -- the call returns at once and the stream is as before
        refine ⟨wire, total, fun n => ?_, m, hall⟩
        cases n with
        | zero => exact hless 0
        | succ n =>
          rw [givenBy, nextFrame_none (a :: rest) (readOnePacket_zero Empty hzero wire)]
          exact hless n
      · -- a packet more at the front
        refine ⟨packetOf [] ++ wire, total + 1, fun n => ?_, m + 1, ?_⟩
        · cases n with
          | zero => exact Nat.zero_lt_succ _
          | succ n =>
            rw [givenBy, nextFrame_packetOf (a :: rest) wire (Nat.zero_le _)
              (readOnePacket_uncut Empty hhea hpay _)]
            simpa [given] using hless n
        · rw [givenBy, nextFrame_packetOf [] wire (Nat.zero_le _) rfl]
          simpa [given] using hall
    · -- the packet that is cut is the last one
      obtain ⟨payload, hsize, left, hleft, hread⟩ := readOnePacket_cut hcalm
      refine ⟨packetOf payload, 1, fun n => ?_, 1, ?_⟩
      · cases n with
        | zero => exact Nat.zero_lt_one
        | succ n =>
          rw [givenBy, nextFrame_none (a :: rest) hread, givenBy_short hleft]
          exact Nat.zero_lt_one
      · have hcall := nextFrame_packetOf [] [] hsize rfl
        rw [List.append_nil] at hcall
        simp [givenBy, hcall, given]

/-- **Which timeouts lose nothing.** For a pattern of timeouts, on every stream and with every decoder
the calls of `next_frame` give the frames and errors they would give without timeouts, in the same
order, exactly if each timeout strikes before the first byte of a header. -/
theorem agrees_iff (attempts : List Attempt) :
    (∀ (σ Frame Error : Type) (dec : VideoDecoder σ Frame Error) (s : ScrcpyStream σ Frame),
      Agrees dec attempts s) ↔ ∀ a ∈ attempts, a.Calm := by
  constructor
  · intro h
    by_contra hbad
    simp only [not_forall] at hbad
    obtain ⟨a, ha, hcalm⟩ := hbad
    obtain ⟨wire, total, hless, m, hall⟩ := exists_loss ⟨a, ha, hcalm⟩
    obtain ⟨n, hn⟩ := (h Unit Unit Empty framePerPacket (streamOf wire)).2 m
    have := hless n
    rw [hn] at this
    omega
  · intro h σ Frame Error dec s
    exact agrees_of_calm h

/-- A header cut after 8 bytes: its packet and the next one are lost, and what is left is read as a
packet that nobody sent. -/
theorem cut_header_loses_packets :
    givenBy framePerPacket 2 [] (streamOf (packetOf [1, 2] ++ packetOf [3])) =
        [.ok (), .ok ()] ∧
      ∀ n, givenBy framePerPacket n [⟨some 8, none⟩]
        (streamOf (packetOf [1, 2] ++ packetOf [3])) ≠ [.ok (), .ok ()] := by
  refine ⟨rfl, fun n => ?_⟩
  have hfirst : nextFrame framePerPacket [⟨some 8, none⟩]
      (streamOf (packetOf [1, 2] ++ packetOf [3])) =
        (.ok none, streamOf ((packetOf [1, 2] ++ packetOf [3]).drop 8), []) := rfl
  have hsecond : nextFrame framePerPacket []
      (streamOf ((packetOf [1, 2] ++ packetOf [3]).drop 8)) =
        (.ok (some ()), streamOf [0, 0, 0, 0, 0, 1, 3], []) := rfl
  have hshort : ([0, 0, 0, 0, 0, 1, 3] : Bytes).length < frameHeaderLen := by decide
  match n with
  | 0 => simp [givenBy]
  | 1 => simp [givenBy, hfirst, given]
  | n + 2 => simp [givenBy, hfirst, hsecond, given, givenBy_short hshort]

end XeniaPeer.Capture
