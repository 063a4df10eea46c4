import Mathlib.Data.List.Sort
import XeniaPeer.Foundation.Runs
import XeniaPeer.Foundation.Tables

/-!
# Input injection of a session

`SessionInputInjector` of `xenia-inject` over the `uinput` backend. The wrapper remembers each key,
button and touch whose press the backend has accepted, so that `release_all` can undo them when the
session ends.

Main result: `held_is_tracked`.
-/

namespace XeniaPeer.Inject

open Foundation

/-! ## The backend -/

def evKey : UInt16 := 0x01

def evAbs : UInt16 := 0x03

def absX : UInt16 := 0x00

def absY : UInt16 := 0x01

def btnTouch : UInt16 := 0x14a

def evdevButtonCode (button : UInt8) : UInt32 :=
  if button = 0 then 0x110
  else if button = 1 then 0x112
  else if button = 2 then 0x111
  else if button = 3 then 0x113
  else 0x114

def uinputButtonCode (button : UInt8) : UInt16 := (evdevButtonCode button).toUInt16

def uinputTouchDown (phase : UInt8) : Bool := phase = 0 || phase = 1

def registered (code : UInt16) : Bool :=
  (1 ≤ code && code ≤ 248) || (0x110 ≤ code && code ≤ 0x114) || code = btnTouch

structure RawEvent where
  (type code : UInt16)
  value : Int

def applyEvent (held : UInt16 → Bool) (e : RawEvent) : UInt16 → Bool :=
  if e.type = evKey ∧ registered e.code then Function.update held e.code (e.value ≠ 0) else held

section

variable {F : Type} (uinputAbs : F → Int)

inductive BackendCall (F : Type) where
  | pointerMove (x y : F)
  | pointerButton (x y : F) (button : UInt8) (pressed : Bool)
  | key (code : UInt32) (pressed : Bool) (modifiers : UInt8)
  | touch (index : UInt8) (x y : F) (phase : UInt8) (pressure : F)

def BackendCall.emits : BackendCall F → Option (List RawEvent)
  | .pointerMove x y => some [⟨evAbs, absX, uinputAbs x⟩, ⟨evAbs, absY, uinputAbs y⟩]
  | .pointerButton x y button pressed =>
    some [⟨evAbs, absX, uinputAbs x⟩, ⟨evAbs, absY, uinputAbs y⟩,
      ⟨evKey, uinputButtonCode button, if pressed then 1 else 0⟩]
  | .key code pressed _ =>
    -- `u16::try_from`
    if code.toNat < 2 ^ 16 then some [⟨evKey, code.toUInt16, if pressed then 1 else 0⟩] else none
  | .touch index x y phase _ =>
    -- one touch point only
    if index ≠ 0 then none
    else
      some [⟨evAbs, absX, uinputAbs x⟩, ⟨evAbs, absY, uinputAbs y⟩,
        ⟨evKey, btnTouch, if uinputTouchDown phase then 1 else 0⟩]

/-! ## The wrapper -/

def insertEntry {κ ν : Type} [DecidableEq κ] [LE κ] [DecidableLE κ] (k : κ) (v : ν)
    (m : List (κ × ν)) : List (κ × ν) :=
  (dropKey Prod.fst k m).orderedInsert (fun a b => a.1 ≤ b.1) (k, v)

/-- The tracked states of `SessionInputInjector`, what the device holds, and the number of writes so
far. -/
structure Session (F : Type) where
  pressedKeys : List (UInt32 × UInt8)
  pressedButtons : List (UInt8 × F × F)
  activeTouches : List (UInt8 × F × F × F)
  held : UInt16 → Bool
  writes : Nat

def Session.new : Session F := ⟨[], [], [], fun _ => false, 0⟩

def Session.call (fails : Nat → Bool) (s : Session F) (c : BackendCall F) : Bool × Session F :=
  match c.emits uinputAbs with
  | none => (false, s)
  | some events =>
    if fails s.writes then (false, { s with writes := s.writes + 1 })
    else (true, { s with held := events.foldl applyEvent s.held, writes := s.writes + 1 })

inductive InputEvent (F : Type) where
  | pointer (x y : F) (button : UInt8) (pressed : Bool)
  | key (code : UInt32) (pressed : Bool) (modifiers : UInt8)
  | touch (index : UInt8) (x y : F) (phase : UInt8) (pressure : F)
  | pointerMove (x y : F)
  | pointerButton (x y : F) (button : UInt8) (pressed : Bool)

def InputEvent.backendCall : InputEvent F → BackendCall F
  | .pointer x y button pressed => .pointerButton x y button pressed
  | .key code pressed modifiers => .key code pressed modifiers
  | .touch index x y phase pressure => .touch index x y phase pressure
  | .pointerMove x y => .pointerMove x y
  | .pointerButton x y button pressed => .pointerButton x y button pressed

inductive Entry (F : Type) where
  | touch (index : UInt8) (x y pressure : F)
  | button (button : UInt8) (x y : F)
  | key (code : UInt32) (modifiers : UInt8)

inductive EntryId where
  | touch (index : UInt8)
  | button (button : UInt8)
  | key (code : UInt32)
deriving DecidableEq

def Entry.id : Entry F → EntryId
  | .touch index _ _ _ => .touch index
  | .button b _ _ => .button b
  | .key code _ => .key code

def EntryId.code : EntryId → UInt16
  | .touch _ => btnTouch
  | .button b => uinputButtonCode b
  | .key code => code.toUInt16

def EntryId.Fits : EntryId → Prop
  | .touch index => index = 0
  | .button _ => True
  | .key code => code.toNat < 2 ^ 16

def Entry.release : Entry F → BackendCall F
  | .touch index x y pressure => .touch index x y 3 pressure
  | .button b x y => .pointerButton x y b false
  | .key code modifiers => .key code false modifiers

section

variable (s : Session F)

def Session.touchEntries : List (Entry F) :=
  s.activeTouches.map fun t => .touch t.1 t.2.1 t.2.2.1 t.2.2.2

def Session.buttonEntries : List (Entry F) :=
  s.pressedButtons.map fun b => .button b.1 b.2.1 b.2.2

def Session.keyEntries : List (Entry F) :=
  s.pressedKeys.map fun k => .key k.1 k.2

def Session.entries : List (Entry F) :=
  s.touchEntries ++ s.buttonEntries ++ s.keyEntries

def Session.remember : Entry F → Session F
  | .touch index x y pressure =>
    { s with activeTouches := insertEntry index (x, y, pressure) s.activeTouches }
  | .button b x y => { s with pressedButtons := insertEntry b (x, y) s.pressedButtons }
  | .key code modifiers => { s with pressedKeys := insertEntry code modifiers s.pressedKeys }

def Session.forget : Entry F → Session F
  | .touch index _ _ _ => { s with activeTouches := dropKey Prod.fst index s.activeTouches }
  | .button b _ _ => { s with pressedButtons := dropKey Prod.fst b s.pressedButtons }
  | .key code _ => { s with pressedKeys := dropKey Prod.fst code s.pressedKeys }

def Session.track : InputEvent F → Session F
  | .pointer x y b pressed | .pointerButton x y b pressed =>
    if pressed then s.remember (.button b x y) else s.forget (.button b x y)
  | .key code pressed modifiers =>
    if pressed then s.remember (.key code modifiers) else s.forget (.key code modifiers)
  | .touch index x y phase pressure =>
    if phase = 0 ∨ phase = 1 then s.remember (.touch index x y pressure)
    else s.forget (.touch index x y pressure)
  | .pointerMove x y =>
    { s with pressedButtons := s.pressedButtons.map fun b => (b.1, x, y) }

end

def Session.inject (fails : Nat → Bool) (s : Session F) (e : InputEvent F) : Bool × Session F :=
  match s.call uinputAbs fails e.backendCall with
  | (true, s') => (true, s'.track e)
  | (false, s') => (false, s')

def Session.processEvents (fails : Nat → Bool) (s : Session F) : List (InputEvent F) → Session F
  | [] => s
  | e :: rest =>
    match s.inject uinputAbs fails e with
    | (true, s') => s'.processEvents fails rest
    | (false, s') => s'

/-! ## Release -/

structure InputReleaseReport where
  (attempted released failed : Nat)

def Session.releaseEach (fails : Nat → Bool) :
    List (Entry F) → InputReleaseReport × Session F → InputReleaseReport × Session F
  | [], out => out
  | e :: rest, (report, s) =>
    match s.call uinputAbs fails e.release with
    | (true, s') =>
      releaseEach fails rest
        (⟨report.attempted + 1, report.released + 1, report.failed⟩, s'.forget e)
    | (false, s') =>
      releaseEach fails rest (⟨report.attempted + 1, report.released, report.failed + 1⟩, s')

def Session.releaseAll (fails : Nat → Bool) (s : Session F) : InputReleaseReport × Session F :=
  let touches := Session.releaseEach uinputAbs fails s.touchEntries (⟨0, 0, 0⟩, s)
  let buttons := Session.releaseEach uinputAbs fails touches.2.buttonEntries touches
  Session.releaseEach uinputAbs fails buttons.2.keyEntries buttons

open Session

inductive Command (F : Type) where
  | events (batch : List (InputEvent F))
  | releaseAll

def step (fails : Nat → Bool) (s : Session F) : Command F → Session F
  | .events batch => s.processEvents uinputAbs fails batch
  | .releaseAll => (s.releaseAll uinputAbs fails).2

def run (fails : Nat → Bool) (commands : List (Command F)) : Session F :=
  commands.foldl (step uinputAbs fails) .new

/-! ## The tracked entries -/

variable {uinputAbs} {fails : Nat → Bool} {s : Session F} {α β κ : Type} {k : κ}

lemma map_dropKey [DecidableEq κ] {m : List (κ × α)} (f : κ × α → β) (p : β → Bool)
    (h : ∀ a, p (f a) = decide (a.1 ≠ k)) : (dropKey Prod.fst k m).map f = (m.map f).filter p := by
  rw [dropKey, List.filter_map]
  congr 1
  exact List.filter_congr fun a _ => (h a).symm

lemma filter_map_self {m : List α} (f : α → β) (p : β → Bool) (h : ∀ a, p (f a) = true) :
    (m.map f).filter p = m.map f := List.filter_eq_self.mpr fun b hb => by
    obtain ⟨a, -, rfl⟩ := List.mem_map.mp hb
    exact h a

lemma entries_forget (e : Entry F) :
    (s.forget e).entries = s.entries.filter fun e' => e'.id ≠ e.id := by
  simp only [entries, touchEntries, buttonEntries, keyEntries, List.filter_append]
  cases e with
  | touch index x y pressure =>
    congr 1
    · congr 1
      · exact map_dropKey _ _ fun a => by simp [Entry.id]
      · exact (filter_map_self _ _ fun a => by simp [Entry.id]).symm
    · exact (filter_map_self _ _ fun a => by simp [Entry.id]).symm
  | button b x y =>
    congr 1
    · congr 1
      · exact (filter_map_self _ _ fun a => by simp [Entry.id]).symm
      · exact map_dropKey _ _ fun a => by simp [Entry.id]
    · exact (filter_map_self _ _ fun a => by simp [Entry.id]).symm
  | key code modifiers =>
    congr 1
    · congr 1
      · exact (filter_map_self _ _ fun a => by simp [Entry.id]).symm
      · exact (filter_map_self _ _ fun a => by simp [Entry.id]).symm
    · exact map_dropKey _ _ fun a => by simp [Entry.id]

def Session.ids (s : Session F) : List EntryId := s.entries.map Entry.id

lemma ids_eq :
    s.ids = s.activeTouches.map (fun t => .touch t.1) ++ s.pressedButtons.map (fun b => .button b.1) ++
      s.pressedKeys.map (fun k => .key k.1) := by
  simp [ids, entries, touchEntries, buttonEntries, keyEntries, Entry.id, Function.comp_def]

lemma ids_forget (e : Entry F) : (s.forget e).ids = s.ids.filter fun i => i ≠ e.id := by
  rw [ids, entries_forget, ids, List.filter_map]
  rfl

lemma map_insertEntry {ν : Type} [DecidableEq κ] [LE κ] [DecidableLE κ] {v : ν}
    {m : List (κ × ν)} (f : κ → EntryId) (hf : ∀ a, f a = f k ↔ a = k) :
    ((insertEntry k v m).map fun a => f a.1).Perm
      (f k :: (m.map fun a => f a.1).filter fun i => i ≠ f k) := by
  have hperm := (List.perm_orderedInsert (fun a b : κ × ν => a.1 ≤ b.1) (k, v)
    (dropKey Prod.fst k m)).map fun a => f a.1
  rw [List.map_cons, map_dropKey _ (fun i => i ≠ f k) (fun a => by simp [hf])] at hperm
  exact hperm

def InputEvent.target : InputEvent F → Option (EntryId × Bool)
  | .pointer _ _ b pressed => some (.button b, pressed)
  | .key code pressed _ => some (.key code, pressed)
  | .touch index _ _ phase _ => some (.touch index, uinputTouchDown phase)
  | .pointerMove _ _ => none
  | .pointerButton _ _ b pressed => some (.button b, pressed)

def BackendCall.target : BackendCall F → Option (EntryId × Bool)
  | .pointerMove _ _ => none
  | .pointerButton _ _ b pressed => some (.button b, pressed)
  | .key code pressed _ => some (.key code, pressed)
  | .touch index _ _ phase _ => some (.touch index, uinputTouchDown phase)

lemma target_backendCall (e : InputEvent F) : e.backendCall.target = e.target := by
  cases e <;> rfl

lemma target_release (e : Entry F) : e.release.target = some (e.id, false) := by
  cases e <;> rfl

lemma ids_remember (e : Entry F) :
    (s.remember e).ids.Perm (e.id :: s.ids.filter fun i => i ≠ e.id) := by
  have hother : ∀ {α : Type} {m : List α} (f : α → EntryId), (∀ a, f a ≠ e.id) →
      (m.map f).filter (fun i => i ≠ e.id) = m.map f := fun f hf =>
    filter_map_self f _ fun a => by simpa using hf a
  rw [ids_eq, ids_eq]
  simp only [List.filter_append]
  cases e with
  | touch index x y pressure =>
    rw [hother (fun b : UInt8 × F × F => .button b.1) (fun _ => by simp [Entry.id]),
      hother (fun k : UInt32 × UInt8 => .key k.1) (fun _ => by simp [Entry.id])]
    exact ((map_insertEntry EntryId.touch (by simp)).append_right _).append_right _
  | button b x y =>
    rw [hother (fun t : UInt8 × F × F × F => .touch t.1) (fun _ => by simp [Entry.id]),
      hother (fun k : UInt32 × UInt8 => .key k.1) (fun _ => by simp [Entry.id])]
    refine (List.Perm.append_right _ ((map_insertEntry EntryId.button (by simp)).append_left
      _)).trans ?_
    rw [← List.cons_append]
    exact List.perm_middle.append_right _
  | key code modifiers =>
    rw [hother (fun t : UInt8 × F × F × F => .touch t.1) (fun _ => by simp [Entry.id]),
      hother (fun b : UInt8 × F × F => .button b.1) (fun _ => by simp [Entry.id])]
    exact ((map_insertEntry EntryId.key (by simp)).append_left _).trans List.perm_middle

def Updates (ids ids' : List EntryId) : Option (EntryId × Bool) → Prop
  | none => ids' = ids
  | some (i, true) => ids'.Perm (i :: ids.filter fun j => j ≠ i)
  | some (i, false) => ids' = ids.filter fun j => j ≠ i

lemma updates_entry (entry : Entry F) (down : Bool) :
    Updates s.ids (if down then s.remember entry else s.forget entry).ids (some (entry.id, down)) := by
  cases down with
  | true => exact ids_remember entry
  | false => exact ids_forget entry

lemma updates_track (e : InputEvent F) : Updates s.ids (s.track e).ids e.target := by
  cases e with
  | pointer x y b pressed => exact updates_entry (.button b x y) pressed
  | pointerButton x y b pressed => exact updates_entry (.button b x y) pressed
  | key code pressed modifiers => exact updates_entry (.key code modifiers) pressed
  | pointerMove x y => simp [InputEvent.target, Updates, ids_eq, track, Function.comp_def]
  | touch index x y phase pressure =>
    have h : Updates s.ids _ (some (_, uinputTouchDown phase)) :=
      updates_entry (.touch index x y pressure) (uinputTouchDown phase)
    simpa [uinputTouchDown, track, InputEvent.target, Entry.id] using h

/-! ## The device -/

/-- Every code that is down has a tracked entry; the entries are different and such that the backend
accepts their release. -/
structure Tracked (held : UInt16 → Bool) (ids : List EntryId) : Prop where
  covers : ∀ code, held code = true → ∃ i ∈ ids, i.code = code
  known : ∀ code, held code = true → registered code = true
  fits : ∀ i ∈ ids, i.Fits
  nodup : ids.Nodup

def pressed (held : UInt16 → Bool) : Option (EntryId × Bool) → UInt16 → Bool
  | none => held
  | some (i, down) => applyEvent held ⟨evKey, i.code, if down then 1 else 0⟩

lemma applyEvent_key (held : UInt16 → Bool) (code code' : UInt16) (down : Bool) :
    applyEvent held ⟨evKey, code, if down then 1 else 0⟩ code' =
      if registered code ∧ code' = code then down else held code' := by
  unfold applyEvent
  by_cases hcode : code' = code
  · subst hcode
    cases down <;> by_cases h : registered code' <;> simp [h]
  · by_cases h : registered code <;> simp [h, hcode]

lemma tracked_updates {held : UInt16 → Bool} {ids ids' : List EntryId}
    {target : Option (EntryId × Bool)} (h : Tracked held ids) (hupdate : Updates ids ids' target)
    (hfits : ∀ t ∈ target, t.1.Fits) : Tracked (pressed held target) ids' := by
  match target, hupdate with
  | none, hupdate => exact hupdate ▸ h
  | some (i, true), hupdate =>
    have hmem : ∀ j, j ∈ ids' ↔ j = i ∨ j ∈ ids ∧ j ≠ i := by
      intro j
      rw [hupdate.mem_iff]
      simp
    have hdown : ∀ code, pressed held (some (i, true)) code = true →
        registered code = true ∧ ∃ j ∈ ids', j.code = code := by
      intro code hheld
      rw [pressed, applyEvent_key] at hheld
      split at hheld
      · rename_i hcode
        exact ⟨hcode.2 ▸ hcode.1, i, (hmem i).mpr (.inl rfl), hcode.2.symm⟩
      · obtain ⟨j, hj, hcode⟩ := h.covers code hheld
        refine ⟨h.known code hheld, j, (hmem j).mpr ?_, hcode⟩
        by_cases hji : j = i
        · exact .inl hji
        · exact .inr ⟨hj, hji⟩
    refine ⟨fun code hheld => (hdown code hheld).2, fun code hheld => (hdown code hheld).1,
      fun j hj => ?_, ?_⟩
    · rcases (hmem j).mp hj with rfl | ⟨hj, -⟩
      · exact hfits (j, true) rfl
      · exact h.fits j hj
    · refine hupdate.nodup_iff.mpr (List.nodup_cons.mpr ⟨by simp, h.nodup.filter _⟩)
  | some (i, false), hupdate =>
    subst hupdate
    have hup : ∀ code, pressed held (some (i, false)) code = true →
        held code = true ∧ i.code ≠ code := by
      intro code hheld
      rw [pressed, applyEvent_key] at hheld
      split at hheld
      · cases hheld
      · rename_i hcode
        exact ⟨hheld, fun heq => hcode ⟨heq ▸ h.known code hheld, heq.symm⟩⟩
    refine ⟨fun code hheld => ?_, fun code hheld => h.known code (hup code hheld).1,
      fun j hj => h.fits j (List.mem_filter.mp hj).1, h.nodup.filter _⟩
    obtain ⟨hbefore, hne⟩ := hup code hheld
    obtain ⟨j, hj, hcode⟩ := h.covers code hbefore
    refine ⟨j, List.mem_filter.mpr ⟨hj, ?_⟩, hcode⟩
    simp only [ne_eq, decide_eq_true_eq]
    rintro rfl
    exact hne hcode

lemma emits_spec {c : BackendCall F} {events : List RawEvent}
    (h : c.emits uinputAbs = some events) (held : UInt16 → Bool) :
    events.foldl applyEvent held = pressed held c.target ∧ ∀ t ∈ c.target, t.1.Fits := by
  have habs : ∀ (held : UInt16 → Bool) (code : UInt16) (value : Int),
      applyEvent held ⟨evAbs, code, value⟩ = held := fun held code value =>
    if_neg fun h => absurd (show evAbs = evKey from h.1) (by decide)
  cases c with
  | pointerMove x y =>
    cases h
    simp [habs, pressed, BackendCall.target]
  | pointerButton x y b down =>
    cases h
    simp [habs, pressed, BackendCall.target, EntryId.code, EntryId.Fits]
  | key code down modifiers =>
    simp only [BackendCall.emits] at h
    split at h
    · rename_i hcode
      cases h
      exact ⟨rfl, by rintro t ⟨⟩; exact hcode⟩
    · cases h
  | touch index x y phase pressure =>
    simp only [BackendCall.emits] at h
    split at h
    · cases h
    · rename_i hidx
      cases h
      simp [habs, pressed, BackendCall.target, EntryId.code, EntryId.Fits, not_not.mp hidx]

def Session.Tracked (s : Session F) : Prop := Inject.Tracked s.held s.ids

@[simp] lemma remember_held (e : Entry F) : (s.remember e).held = s.held := by cases e <;> rfl

@[simp] lemma forget_held (e : Entry F) : (s.forget e).held = s.held := by cases e <;> rfl

@[simp] lemma forget_writes (e : Entry F) : (s.forget e).writes = s.writes := by cases e <;> rfl

@[simp] lemma track_held (e : InputEvent F) : (s.track e).held = s.held := by
  cases e <;> simp only [track]
  all_goals split <;> simp

lemma call_cases (uinputAbs : F → Int) (fails : Nat → Bool) (h : s.Tracked) (c : BackendCall F) :
    ∃ s', s'.ids = s.ids ∧
      (s.call uinputAbs fails c = (false, s') ∧ s'.Tracked ∨ s.call uinputAbs fails c = (true, s') ∧
          ∀ s'' : Session F, s''.held = s'.held → Updates s'.ids s''.ids c.target → s''.Tracked) := by
  unfold call
  split
  · exact ⟨s, rfl, .inl ⟨rfl, h⟩⟩
  · rename_i events heve
    split
    · exact ⟨{ s with writes := s.writes + 1 }, rfl, .inl ⟨rfl, h⟩⟩
    · refine ⟨{ s with held := events.foldl applyEvent s.held, writes := s.writes + 1 }, rfl,
        .inr ⟨rfl, fun s'' hheld hupd => ?_⟩⟩
      obtain ⟨hdev, hfits⟩ := emits_spec heve s.held
      rw [Session.Tracked, hheld]
      simp only [hdev]
      exact tracked_updates h hupd hfits

lemma inject_tracked (uinputAbs : F → Int) (fails : Nat → Bool) (e : InputEvent F)
    (h : s.Tracked) : (s.inject uinputAbs fails e).2.Tracked := by
  unfold inject
  obtain ⟨s', -, ⟨hcall, htra⟩ | ⟨hcall, hnext⟩⟩ := call_cases uinputAbs fails h e.backendCall
  · rw [hcall]
    exact htra
  · rw [hcall]
    refine hnext _ (track_held e) ?_
    rw [target_backendCall]
    exact updates_track e

lemma processEvents_tracked (uinputAbs : F → Int) (fails : Nat → Bool)
    (events : List (InputEvent F)) (h : s.Tracked) :
    (s.processEvents uinputAbs fails events).Tracked := by
  induction events generalizing s with
  | nil => exact h
  | cons e rest ih =>
    have hinj := inject_tracked uinputAbs fails e h
    unfold processEvents
    split
    · rename_i hout
      rw [hout] at hinj
      exact ih hinj
    · rename_i hout
      rw [hout] at hinj
      exact hinj

lemma releaseEach_tracked (uinputAbs : F → Int) (fails : Nat → Bool) (es : List (Entry F))
    (report : InputReleaseReport) (h : s.Tracked) :
    (releaseEach uinputAbs fails es (report, s)).2.Tracked := by
  induction es generalizing s report with
  | nil => exact h
  | cons e rest ih =>
    unfold releaseEach
    obtain ⟨s', -, ⟨hcall, htra⟩ | ⟨hcall, hnext⟩⟩ := call_cases uinputAbs fails h e.release
    · rw [hcall]
      exact ih _ htra
    · rw [hcall]
      refine ih _ (hnext _ (forget_held e) ?_)
      rw [target_release]
      exact ids_forget e

lemma releaseAll_tracked (uinputAbs : F → Int) (fails : Nat → Bool) (h : s.Tracked) :
    (s.releaseAll uinputAbs fails).2.Tracked :=
  releaseEach_tracked _ _ _ _ (releaseEach_tracked _ _ _ _ (releaseEach_tracked _ _ _ _ h))

lemma run_tracked (uinputAbs : F → Int) (fails : Nat → Bool) (commands : List (Command F)) :
    (run uinputAbs fails commands).Tracked := by
  refine foldl_invariant (fun s c h => ?_) commands ?_
  · cases c with
    | events batch => exact processEvents_tracked uinputAbs fails batch h
    | releaseAll => exact releaseAll_tracked uinputAbs fails h
  · refine ⟨fun _ h => ?_, fun _ h => ?_, fun _ h => ?_, List.nodup_nil⟩ <;> cases h

/-! ## What a release leaves -/

def failing (fails : Nat → Bool) (writes : Nat) (es : List (Entry F)) : List (Entry F) :=
  ((es.zipIdx writes).filter fun e => fails e.2).map Prod.fst

lemma failing_cons (fails : Nat → Bool) (writes : Nat) (e : Entry F) (es : List (Entry F)) :
    failing fails writes (e :: es) =
      (if fails writes then [e] else []) ++ failing fails (writes + 1) es := by
  simp only [failing, List.zipIdx_cons, List.filter_cons]
  split <;> rfl

lemma failing_append (fails : Nat → Bool) (writes : Nat) (es es' : List (Entry F)) :
    failing fails writes (es ++ es') =
      failing fails writes es ++ failing fails (writes + es.length) es' := by
  simp [failing, List.zipIdx_append, List.filter_append]

variable {e : Entry F}

lemma call_release (uinputAbs : F → Int) (fails : Nat → Bool) (s : Session F) (he : e.id.Fits) :
    ∃ held, s.call uinputAbs fails e.release =
      (!fails s.writes, { s with held, writes := s.writes + 1 }) := by
  obtain ⟨events, h⟩ : ∃ events, e.release.emits uinputAbs = some events := by
    cases e with
    | touch index x y pressure =>
      exact ⟨_, if_neg (not_not.mpr (show index = 0 from he))⟩
    | button b x y => exact ⟨_, rfl⟩
    | key code modifiers => exact ⟨_, if_pos he⟩
  simp only [call, h]
  cases fails s.writes with
  | true => exact ⟨s.held, rfl⟩
  | false => exact ⟨_, rfl⟩

variable {before after : List (Entry F)}

lemma releaseEach_cons (uinputAbs : F → Int) (fails : Nat → Bool) (report : InputReleaseReport)
    {rest : List (Entry F)} (hlist : s.entries = before ++ e :: rest ++ after)
    (hnodup : s.ids.Nodup) (hfits : ∀ i ∈ s.ids, i.Fits) :
    ∃ s' : Session F, ∃ report' : InputReleaseReport,
      releaseEach uinputAbs fails (e :: rest) (report, s) =
          releaseEach uinputAbs fails rest (report', s') ∧
        s'.entries = before ++ (if fails s.writes then [e] else []) ++ rest ++ after ∧
        s'.ids.Sublist s.ids ∧ s'.writes = s.writes + 1 ∧ report'.attempted = report.attempted + 1 ∧
        report'.failed = report.failed + if fails s.writes then 1 else 0 := by
  have he : e.id.Fits := hfits _ (List.mem_map.mpr ⟨e, by simp [hlist], rfl⟩)
  obtain ⟨held, hcall⟩ := call_release uinputAbs fails s he
  cases h : fails s.writes with
  | true =>
    rw [h] at hcall
    refine ⟨{ s with held, writes := s.writes + 1 },
      ⟨report.attempted + 1, report.released, report.failed + 1⟩, ?_, ?_, List.Sublist.refl _, rfl,
      rfl, rfl⟩
    · simp only [releaseEach, hcall, Bool.not_true]
    · exact hlist.trans (by simp)
  | false =>
    rw [h] at hcall
    refine ⟨forget { s with held, writes := s.writes + 1 } e,
      ⟨report.attempted + 1, report.released + 1, report.failed⟩, ?_, ?_, ?_, forget_writes e, rfl,
      rfl⟩
    · simp [releaseEach, hcall]
    · -- the entry is the only one with its id
      have hother : ∀ e' ∈ before ++ rest ++ after, e'.id ≠ e.id := by
        have hids : (e.id :: (before ++ rest ++ after).map Entry.id).Nodup := by
          refine (List.Perm.nodup_iff ?_).mp hnodup
          rw [ids, hlist, ← List.map_cons]
          refine List.Perm.map _ ?_
          simp
        exact fun e' he' heq =>
          (List.nodup_cons.mp hids).1 (List.mem_map.mpr ⟨e', he', heq⟩)
      rw [entries_forget]
      have hsame : entries { s with held, writes := s.writes + 1 } = s.entries := rfl
      rw [hsame, hlist]
      simp only [List.filter_append, List.filter_cons, ne_eq, not_true_eq_false, decide_false,
        Bool.false_eq_true, if_false, List.append_nil]
      rw [List.filter_eq_self.mpr, List.filter_eq_self.mpr, List.filter_eq_self.mpr]
      all_goals
        intro e' he'
        simpa using hother e' (by simp [he'])
    · rw [ids_forget]
      exact List.filter_sublist

variable {es : List (Entry F)}

lemma releaseEach_entries (uinputAbs : F → Int) (fails : Nat → Bool)
    (report : InputReleaseReport) (hlist : s.entries = before ++ es ++ after)
    (hnodup : s.ids.Nodup) (hfits : ∀ i ∈ s.ids, i.Fits) :
    (releaseEach uinputAbs fails es (report, s)).2.entries =
        before ++ failing fails s.writes es ++ after ∧
      (releaseEach uinputAbs fails es (report, s)).2.writes = s.writes + es.length ∧
      (releaseEach uinputAbs fails es (report, s)).1.attempted = report.attempted + es.length ∧
      (releaseEach uinputAbs fails es (report, s)).1.failed =
        report.failed + (failing fails s.writes es).length := by
  induction es generalizing s before report with
  | nil => simpa [failing, releaseEach] using hlist
  | cons e rest ih =>
    obtain ⟨s', report', hloop, hlist', hids, hwri, hatt, hfl⟩ :=
      releaseEach_cons uinputAbs fails report hlist hnodup hfits
    obtain ⟨h1, h2, h3, h4⟩ := ih report' hlist' (hnodup.sublist hids)
      (fun i hi => hfits i (hids.subset hi))
    rw [hloop, failing_cons, ← hwri]
    refine ⟨by simpa using h1, ?_, ?_, ?_⟩
    · rw [h2, hwri, List.length_cons]
      omega
    · rw [h3, hatt, List.length_cons]
      omega
    · rw [h4, hfl]
      cases fails s.writes <;> simp
      omega

lemma releaseEach_keeps (proj : Session F → β)
    (hcall : ∀ (t : Session F) held writes, proj { t with held, writes } = proj t)
    (h : ∀ e ∈ es, ∀ t : Session F, proj (t.forget e) = proj t) (report : InputReleaseReport) :
    proj (releaseEach uinputAbs fails es (report, s)).2 = proj s := by
  induction es generalizing s report with
  | nil => rfl
  | cons e rest ih =>
    have hrest := fun e' he' => h e' (List.mem_cons_of_mem e he')
    have hstep : proj (s.call uinputAbs fails e.release).2 = proj s := by
      unfold call
      split
      · rfl
      · split <;> exact hcall s _ _
    unfold releaseEach
    split
    · rename_i hout
      rw [hout] at hstep
      rw [ih hrest, h e List.mem_cons_self, hstep]
    · rename_i hout
      rw [hout] at hstep
      rw [ih hrest, hstep]

lemma buttons_of_touches (uinputAbs : F → Int) (fails : Nat → Bool) (s : Session F)
    (report : InputReleaseReport) :
    (releaseEach uinputAbs fails s.touchEntries (report, s)).2.pressedButtons = s.pressedButtons ∧
      (releaseEach uinputAbs fails s.touchEntries (report, s)).2.pressedKeys = s.pressedKeys := by
  constructor
  · refine releaseEach_keeps pressedButtons (fun _ _ _ => rfl) (fun e he t => ?_) report
    obtain ⟨touch, -, rfl⟩ := List.mem_map.mp he
    rfl
  · refine releaseEach_keeps pressedKeys (fun _ _ _ => rfl) (fun e he t => ?_) report
    obtain ⟨touch, -, rfl⟩ := List.mem_map.mp he
    rfl

lemma keys_of_buttons (uinputAbs : F → Int) (fails : Nat → Bool) (s : Session F)
    (report : InputReleaseReport) :
    (releaseEach uinputAbs fails s.buttonEntries (report, s)).2.pressedKeys = s.pressedKeys := by
  refine releaseEach_keeps pressedKeys (fun _ _ _ => rfl) (fun e he t => ?_) report
  obtain ⟨button, -, rfl⟩ := List.mem_map.mp he
  rfl

lemma releaseAll_entries (uinputAbs : F → Int) (fails : Nat → Bool) (h : s.Tracked) :
    (s.releaseAll uinputAbs fails).2.entries = failing fails s.writes s.entries ∧
      (s.releaseAll uinputAbs fails).1.attempted = s.entries.length ∧
      (s.releaseAll uinputAbs fails).1.failed = (failing fails s.writes s.entries).length := by
  unfold releaseAll
  -- touches
  have htra1 := releaseEach_tracked uinputAbs fails s.touchEntries ⟨0, 0, 0⟩ h
  have hkept1 := buttons_of_touches uinputAbs fails s ⟨0, 0, 0⟩
  obtain ⟨hent1, hwri1, hatt1, hfl1⟩ := releaseEach_entries uinputAbs fails ⟨0, 0, 0⟩
      (show s.entries = [] ++ s.touchEntries ++ (s.buttonEntries ++ s.keyEntries) by
        simp [entries]) h.nodup h.fits
  generalize releaseEach uinputAbs fails s.touchEntries (⟨0, 0, 0⟩, s) = out1 at *
  obtain ⟨report1, s1⟩ := out1
  have hbut : s1.buttonEntries = s.buttonEntries := congrArg (List.map _) hkept1.1
  -- buttons
  have htra2 := releaseEach_tracked uinputAbs fails s1.buttonEntries report1 htra1
  have hkept2 := keys_of_buttons uinputAbs fails s1 report1
  obtain ⟨hent2, hwri2, hatt2, hfl2⟩ := releaseEach_entries uinputAbs fails report1
      (show s1.entries = failing fails s.writes s.touchEntries ++ s1.buttonEntries ++ s.keyEntries by
        rw [hent1, hbut]; simp) htra1.nodup htra1.fits
  simp only at hkept2 ⊢
  generalize releaseEach uinputAbs fails s1.buttonEntries (report1, s1) = out2 at *
  obtain ⟨report2, s2⟩ := out2
  have hkeys : s2.keyEntries = s.keyEntries := congrArg (List.map _) (hkept2.trans hkept1.2)
  -- keys
  obtain ⟨hent3, -, hatt3, hfl3⟩ := releaseEach_entries uinputAbs fails report2
      (show s2.entries = failing fails s.writes s.touchEntries ++
          failing fails s1.writes s1.buttonEntries ++ s2.keyEntries ++ [] by
        rw [hent2, hkeys]; simp) htra2.nodup htra2.fits
  have hall : failing fails s.writes s.entries = failing fails s.writes s.touchEntries ++
      failing fails s1.writes s1.buttonEntries ++ failing fails s2.writes s2.keyEntries := by
    rw [entries, failing_append, failing_append, hbut, hkeys, hwri2, hwri1,
      hbut, List.length_append, Nat.add_assoc]
  refine ⟨by rw [hent3, hall]; simp, ?_, ?_⟩
  · simp only at hatt3 hatt2 hatt1
    rw [hatt3, hatt2, hatt1, hbut, hkeys]
    simp [entries, Nat.add_assoc]
  · simp only at hfl3 hfl2 hfl1
    rw [hfl3, hfl2, hfl1, hall]
    simp [Nat.add_assoc]

end

/-- **Nothing stays down unnoticed.** After every run of event batches and releases, with writes to
the device failing as they may: each code that the device holds down has a tracked entry that stands
for it; if a release then reports no failure, nothing is down; and the entries it leaves tracked are
exactly those whose release failed. -/
theorem held_is_tracked {F : Type} (uinputAbs : F → Int) (fails : Nat → Bool)
    (commands : List (Command F)) :
    (∀ code, (run uinputAbs fails commands).held code = true →
      ∃ e ∈ (run uinputAbs fails commands).entries, e.id.code = code) ∧
      (((run uinputAbs fails commands).releaseAll uinputAbs fails).1.failed = 0 →
        ∀ code, ((run uinputAbs fails commands).releaseAll uinputAbs fails).2.held code = false) ∧
      ((run uinputAbs fails commands).releaseAll uinputAbs fails).2.entries =
        failing fails (run uinputAbs fails commands).writes (run uinputAbs fails
        commands).entries := by
  have h := run_tracked uinputAbs fails commands
  obtain ⟨hentries, -, hfailed⟩ := releaseAll_entries uinputAbs fails h
  refine ⟨fun code hheld => ?_, fun hnone code => ?_, hentries⟩
  · obtain ⟨i, hi, hcode⟩ := h.covers code hheld
    obtain ⟨e, he, rfl⟩ := List.mem_map.mp hi
    exact ⟨e, he, hcode⟩
  · -- no entry is left, so nothing is down
    have hempty : ((run uinputAbs fails commands).releaseAll uinputAbs fails).2.ids = [] := by
      rw [Session.ids, hentries, List.eq_nil_of_length_eq_zero (hfailed.symm.trans hnone)]
      rfl
    by_contra hheld
    obtain ⟨i, hi, -⟩ :=
      (releaseAll_tracked uinputAbs fails h).covers code (by simpa using hheld)
    rw [hempty] at hi
    cases hi

end XeniaPeer.Inject
