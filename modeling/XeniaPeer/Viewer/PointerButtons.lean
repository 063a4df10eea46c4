import Mathlib.Data.List.Basic
import Mathlib.Data.List.Induction
import Mathlib.Algebra.Order.Ring.Unbundled.Rat

/-!
# Pointer buttons of the viewer

Once a frame the viewer (`gui.rs`, `capture_input`) forwards what the pointer did. A button that went
down and up within one frame is reported as a press only, and nothing is reported while the pointer
is outside of the image; so a release can be lost, and the host is left with the button down.

Main result: `buttons_balanced_iff`.
-/

namespace XeniaPeer.Viewer

structure Pos2 where
  (x y : ℚ)
deriving DecidableEq

structure Rect where
  (min max : Pos2)

inductive PointerButton where
  | primary
  | secondary
  | middle

def pointerButtonId : PointerButton → UInt8
  | .primary => 0
  | .middle => 1
  | .secondary => 2

inductive InputEvent where
  | pointerMove (x y : ℚ)
  | pointerButton (x y : ℚ) (button : UInt8) (pressed : Bool)

/-- What one frame shows, what happened during it, and what egui answers about it. -/
structure GuiFrame where
  imageRect : Option Rect
  interactPos : Option Pos2
  queueFull : Bool
  /-- For each button, `true` where it went down and `false` where it came up, in order. -/
  transitions : PointerButton → List Bool
  (buttonPressed buttonReleased : PointerButton → Bool)
  rectContains : Rect → Pos2 → Bool
  buttonPressed_iff : ∀ button, buttonPressed button = true ↔ true ∈ transitions button
  buttonReleased_iff : ∀ button, buttonReleased button = true ↔ false ∈ transitions button

namespace GuiFrame

variable (frame : GuiFrame)

def normalizeInImage (pos : Pos2) : Option (ℚ × ℚ) := do
  let rect ← frame.imageRect
  let width := rect.max.x - rect.min.x
  let height := rect.max.y - rect.min.y
  if frame.rectContains rect pos ∧ 0 < width ∧ 0 < height then
    pure (max 0 (min 1 ((pos.x - rect.min.x) / width)),
      max 0 (min 1 ((pos.y - rect.min.y) / height)))
  else none

def buttonEvent (button : PointerButton) : Option Bool :=
  if frame.buttonPressed button then some true
  else if frame.buttonReleased button then some false
  else none

def position : Option (ℚ × ℚ) := frame.interactPos.bind frame.normalizeInImage

def captureInput (lastPointerPos : Option Pos2) : Option Pos2 × List InputEvent :=
  let moved := frame.interactPos ≠ none ∧ lastPointerPos ≠ frame.interactPos
  (frame.interactPos.or lastPointerPos,
    (frame.position.filter fun _ => moved ∧ ¬ frame.queueFull).toList.map
        (fun p => .pointerMove p.1 p.2) ++
      [PointerButton.primary, .secondary, .middle].filterMap fun button => do
        let pressed ← frame.buttonEvent button
        let p ← frame.position
        pure (.pointerButton p.1 p.2 (pointerButtonId button) pressed))

end GuiFrame

def capture (frames : List GuiFrame) : Option Pos2 × List InputEvent :=
  frames.foldl (fun (last, sent) frame =>
    ((frame.captureInput last).1, sent ++ (frame.captureInput last).2)) (none, [])

def isButton (button : PointerButton) (pressed : Bool) : InputEvent → Bool
  | .pointerMove _ _ => false
  | .pointerButton _ _ id p => id = pointerButtonId button && p == pressed

def isDown (button : PointerButton) (frames : List GuiFrame) : Bool :=
  ((frames.flatMap (·.transitions button)).getLast?).getD false

def sentCount (button : PointerButton) (pressed : Bool) (frames : List GuiFrame) : Nat :=
  (capture frames).2.countP (isButton button pressed)

def GuiFrame.reports (button : PointerButton) (pressed : Bool) (frame : GuiFrame) : Bool :=
  frame.position.isSome && frame.buttonEvent button == some pressed

/-- The button was up after the frames before, and is down after each frame since. -/
def HeldSince (button : PointerButton) (before since : List GuiFrame) : Prop :=
  isDown button before = false ∧
    ∀ frames, frames <+: since → frames ≠ [] → isDown button (before ++ frames) = true

variable {button : PointerButton} {pressed : Bool} {frame : GuiFrame}
  {frames before since : List GuiFrame}

lemma countP_captureInput (last : Option Pos2) :
    (frame.captureInput last).2.countP (isButton button pressed) =
      if frame.reports button pressed then 1 else 0 := by
  have hmoves : ∀ moves : List (ℚ × ℚ), (moves.map fun p => InputEvent.pointerMove p.1 p.2).countP
      (isButton button pressed) = 0 := fun moves => by simp [isButton]
  rw [GuiFrame.captureInput, List.countP_append, hmoves, GuiFrame.reports, Nat.zero_add]
  cases frame.position with
  | none => simp
  | some p =>
    generalize frame.buttonEvent = event
    simp only [List.filterMap_cons, List.filterMap_nil]
    rcases h1 : event .primary with _ | _ | _ <;> rcases h2 : event .secondary with _ | _ | _ <;>
      rcases h3 : event .middle with _ | _ | _ <;> cases button <;> cases pressed <;>
      simp [h1, h2, h3, isButton, pointerButtonId]

lemma sentCount_append (frames more : List GuiFrame) : sentCount button pressed (frames ++ more) =
      sentCount button pressed frames + more.countP (GuiFrame.reports button pressed) := by
  induction more using List.reverseRecOn with
  | nil => simp
  | append_singleton more frame ih =>
    rw [← List.append_assoc, sentCount, capture, List.foldl_concat, List.countP_append,
      countP_captureInput, List.countP_append, ← Nat.add_assoc, ← ih]
    simp [sentCount, capture, List.countP_cons]

lemma isDown_concat : isDown button (frames ++ [frame]) =
    ((frame.transitions button).getLast?).getD (isDown button frames) := by
  rw [isDown, List.flatMap_append, List.getLast?_append]
  cases h : (frame.transitions button).getLast? <;> simp [h, isDown]

lemma not_reports_of_isDown (h : isDown button (frames ++ [frame]) = true) :
    frame.reports button false = false := by
  rw [isDown_concat] at h
  rw [GuiFrame.reports, GuiFrame.buttonEvent]
  cases hlast : (frame.transitions button).getLast? with
  | none =>
    have hnone : ¬ frame.buttonReleased button = true := by
      rw [frame.buttonReleased_iff, List.getLast?_eq_none_iff.mp hlast]
      exact List.not_mem_nil
    rw [if_neg hnone]
    split <;> simp
  | some last =>
    rw [hlast, Option.getD_some] at h
    rw [if_pos ((frame.buttonPressed_iff button).mpr (h ▸ List.mem_of_getLast? hlast))]
    simp

lemma HeldSince.countP_reports (h : HeldSince button before since) :
    since.countP (GuiFrame.reports button false) = 0 := by
  induction since using List.reverseRecOn with
  | nil => rfl
  | append_singleton since frame ih =>
    have hlast := h.2 _ (List.prefix_refl _) (by simp)
    rw [← List.append_assoc] at hlast
    rw [List.countP_append, ih ⟨h.1, fun es hes => h.2 es (hes.trans (List.prefix_append _ _))⟩]
    simp [not_reports_of_isDown hlast]

lemma heldSince_nil (h : isDown button before = false) : HeldSince button before [] :=
  ⟨h, fun _ hes hne => absurd (List.prefix_nil.mp hes) hne⟩

lemma HeldSince.concat (h : HeldSince button before since)
    (hdown : isDown button (before ++ since ++ [frame]) = true) :
    HeldSince button before (since ++ [frame]) := by
  refine ⟨h.1, fun es hes hne => ?_⟩
  rcases List.prefix_concat_iff.mp hes with rfl | hes
  · rwa [← List.append_assoc]
  · exact h.2 es hes hne

/-- **When no button is left down on the host.** As many releases as presses of a button are sent
whenever it is up, exactly if of the frames from when it was last up until it is up again one reports
a press, where the last reports a release, and none otherwise. -/
theorem buttons_balanced_iff (button : PointerButton) (frames : List GuiFrame) :
    (∀ es, es <+: frames → isDown button es = false →
      sentCount button true es = sentCount button false es) ↔
    ∀ before since frame, before ++ since ++ [frame] <+: frames → HeldSince button before since →
      isDown button (before ++ since ++ [frame]) = false →
      (since ++ [frame]).countP (GuiFrame.reports button true) =
        if frame.reports button false then 1 else 0 := by
  have hsent : ∀ {before since} frame, HeldSince button before since →
      sentCount button false (before ++ since ++ [frame]) =
        sentCount button false before + if frame.reports button false then 1 else 0 := by
    intro before since frame hheld
    rw [sentCount_append, sentCount_append, hheld.countP_reports, List.countP_singleton]
    rfl
  constructor
  · intro h before since frame hpre hheld hup
    have hbefore := h before (((List.prefix_append _ _).trans (List.prefix_append _ _)).trans hpre)
      hheld.1
    have hafter := h _ hpre hup
    rw [hsent frame hheld, List.append_assoc, sentCount_append] at hafter
    omega
  · intro h es hes hup
    -- by induction on the frames: what was sent before the button went down is balanced
    have hsplit : ∃ before since, es = before ++ since ∧ HeldSince button before since ∧
        sentCount button true before = sentCount button false before := by
      clear hup
      induction es using List.reverseRecOn with
      | nil => exact ⟨[], [], rfl, heldSince_nil rfl, rfl⟩
      | append_singleton es frame ih =>
        obtain ⟨before, since, rfl, hheld, hbefore⟩ := ih ((List.prefix_append _ _).trans hes)
        cases hdown : isDown button (before ++ since ++ [frame]) with
        | true => exact ⟨before, _, List.append_assoc _ _ _, hheld.concat hdown, hbefore⟩
        | false =>
          refine ⟨_, [], (List.append_nil _).symm, heldSince_nil hdown, ?_⟩
          have hgesture := h before since frame hes hheld hdown
          rw [hsent frame hheld, List.append_assoc, sentCount_append]
          omega
    obtain ⟨before, since, rfl, hheld, hbefore⟩ := hsplit
    obtain rfl | hne := eq_or_ne since []
    · rwa [List.append_nil]
    · rw [hheld.2 since (List.prefix_refl _) hne] at hup
      cases hup

def sampleFrame (pos : ℚ) (transitions : List Bool) : GuiFrame where
  imageRect := some ⟨⟨0, 0⟩, ⟨10, 10⟩⟩
  interactPos := some ⟨pos, 5⟩
  queueFull := false
  transitions _ := transitions
  buttonPressed _ := true ∈ transitions
  buttonReleased _ := false ∈ transitions
  rectContains rect pos := rect.min.x ≤ pos.x ∧ pos.x ≤ rect.max.x ∧ rect.min.y ≤ pos.y ∧
    pos.y ≤ rect.max.y
  buttonPressed_iff _ := decide_eq_true_iff
  buttonReleased_iff _ := decide_eq_true_iff

/-- A release outside of the image, and a press and its release in one frame. -/
theorem release_not_sent :
    let outside := [sampleFrame 5 [true], sampleFrame 20 [false]]
    let within := [sampleFrame 5 [true, false]]
    (isDown .primary outside = false ∧ isDown .primary within = false) ∧
      (sentCount .primary true outside = 1 ∧ sentCount .primary false outside = 0) ∧
      sentCount .primary true within = 1 ∧ sentCount .primary false within = 0 := by
  decide +kernel

end XeniaPeer.Viewer
