import Mathlib.Data.List.TakeWhile
import XeniaPeer.Foundation.Codes
import XeniaPeer.Foundation.Runs

/-!
# The tail of a log file

`tail` subscribes to what is appended to a log file. `PollingLines` asks the line reader for the
next line and waits for a tick when there is none. At the end of the file the line reader takes
what it has read so far for a line, so a poll that comes between two chunks cuts the line that
they share.

Main result: `tail_exact_iff`.
-/

namespace XeniaPeer.Launcher

open Foundation

inductive LogEvent where
  | append (chunk : Bytes)
  | poll

/-- The text behind the start of the subscription, as far as it was read and the rest of it, and
the items that were yielded, where `none` is a text that is not UTF-8. -/
structure PollingLines where
  (read unread : Bytes)
  yielded : List (Option String)

def stripReturn (line : Bytes) : Bytes := if line.getLast? = some 13 then line.dropLast else line

/-- The `Lines` of tokio: what `poll_next_line` makes of the unread bytes, as the item and the bytes it
was read from. A remainder without an end is an item at the end of the file. -/
structure LineReader where
  nextLine : Bytes → Option (Option String × Bytes)
  nextLine_nil : nextLine [] = none
  nextLine_line : ∀ line rest, 10 ∉ line → nextLine (line ++ 10 :: rest) =
    some (fromUtf8 (stripReturn line), line ++ [10])
  nextLine_remainder : ∀ line, 10 ∉ line → line ≠ [] → nextLine line = some (fromUtf8 line, line)

namespace PollingLines

variable (L : LineReader)

def step (s : PollingLines) : LogEvent → PollingLines
  | .append chunk => { s with unread := s.unread ++ chunk }
  | .poll =>
    match L.nextLine s.unread with
    | none => s
    | some (item, bytes) =>
      ⟨s.read ++ bytes, s.unread.drop bytes.length, s.yielded ++ [item]⟩

def run (events : List LogEvent) : PollingLines := events.foldl (step L) ⟨[], [], []⟩

def terminatedLines (text : Bytes) : List (Option String) :=
  (text.splitOnP (· == 10)).dropLast.map (fromUtf8 ∘ stripReturn)

/-- With one more poll for each line end in the unread text, what was yielded is the lines of the
whole text. -/
def Exact (s : PollingLines) : Prop :=
  ((List.replicate (s.unread.count 10) .poll).foldl (step L) s).yielded =
    terminatedLines (s.read ++ s.unread)

/-- A poll finds a line or nothing. -/
def Arrived (s : PollingLines) : LogEvent → Prop
  | .append _ => True
  | .poll => s.unread = [] ∨ 10 ∈ s.unread

variable {L} {s : PollingLines} {text line rest : Bytes}

lemma length_terminatedLines (text : Bytes) : (terminatedLines text).length = text.count 10 := by
  rw [terminatedLines, List.length_map, List.length_dropLast]
  induction text with
  | nil => rfl
  | cons c text ih =>
    have hpos := List.length_pos_of_ne_nil (List.splitOnP_ne_nil (· == 10) text)
    rw [List.splitOnP_cons_eq_if_modifyHead, List.count_cons]
    split
    · rw [List.length_cons]
      omega
    · rw [List.length_modifyHead]
      omega

lemma terminatedLines_append (text rest : Bytes) : terminatedLines (text ++ 10 :: rest) =
      (text.splitOnP (· == 10)).map (fromUtf8 ∘ stripReturn) ++ terminatedLines rest := by
  rw [terminatedLines, List.splitOnP_append_cons text rest rfl,
    List.dropLast_append_of_ne_nil (List.splitOnP_ne_nil _ _), List.map_append]
  rfl

section Line

variable (hline : 10 ∉ line)

include hline

lemma terminatedLines_line :
    terminatedLines (line ++ 10 :: rest) = fromUtf8 (stripReturn line) :: terminatedLines rest := by
  rw [terminatedLines_append, List.splitOnP_eq_singleton]
  · rfl
  · exact fun c hc => beq_false_of_ne fun h => hline (h ▸ hc)

lemma step_line (hun : s.unread = line ++ 10 :: rest) : s.step L .poll =
      ⟨s.read ++ (line ++ [10]), rest, s.yielded ++ [fromUtf8 (stripReturn line)]⟩ := by
  simp [step, hun, L.nextLine_line line rest hline]

lemma step_cut (hun : s.unread = line) (hne : line ≠ []) :
    s.step L .poll = ⟨s.read ++ line, [], s.yielded ++ [fromUtf8 line]⟩ := by
  simp [step, hun, L.nextLine_remainder line hline hne]

end Line

/-- The text that was read ends with a line, and its lines were yielded. -/
structure Whole (s : PollingLines) : Prop where
  ends : s.read = [] ∨ ∃ t, s.read = t ++ [10]
  yielded : s.yielded = terminatedLines s.read

lemma Whole.append (h : s.Whole) (rest : Bytes) :
    terminatedLines (s.read ++ rest) = s.yielded ++ terminatedLines rest := by
  rw [h.yielded]
  rcases h.ends with hread | ⟨t, hread⟩
  · rw [hread]
    rfl
  · rw [hread, List.append_assoc, List.singleton_append, terminatedLines_append,
      terminatedLines_append]
    simp [terminatedLines]

lemma Whole.poll (h : s.Whole) (hline : 10 ∉ line) (hun : s.unread = line ++ 10 :: rest) :
    (s.step L .poll).Whole := by
  rw [step_line hline hun]
  refine ⟨.inr ⟨s.read ++ line, by rw [List.append_assoc]⟩, ?_⟩
  rw [h.append, terminatedLines_line hline]
  rfl

lemma Whole.exact (h : s.Whole) : s.Exact L := by
  unfold Exact
  generalize hn : s.unread.count 10 = n
  induction n generalizing s with
  | zero =>
    have hnone : terminatedLines s.unread = [] := by
      rw [← List.length_eq_zero_iff, length_terminatedLines, hn]
    rw [h.append, hnone, List.append_nil]
    rfl
  | succ n ih =>
    obtain ⟨line, rest, hun, hline⟩ :=
      List.eq_append_cons_of_mem (List.count_pos_iff.mp (by omega : 0 < s.unread.count 10))
    have hstep := step_line (L := L) hline hun
    have hcount : (s.step L .poll).unread.count 10 = n := by
      rw [hun, List.count_append, List.count_cons_self, List.count_eq_zero.mpr hline] at hn
      rw [hstep]
      show rest.count 10 = n
      omega
    have htext : (s.step L .poll).read ++ (s.step L .poll).unread = s.read ++ s.unread := by
      simp [hstep, hun]
    rw [List.replicate_succ, List.foldl_cons, ih (h.poll hline hun) hcount, htext]

/-- The lines that the stream yields are those of the text, as long as no poll comes when the
unread text is the beginning of a line. -/
theorem tail_exact_iff (L : LineReader) (events : List LogEvent) :
    (∀ es, es <+: events → (run L es).Exact L) ↔ StepsMeet (step L) Arrived ⟨[], [], []⟩ events := by
  refine prefixes_iff_stepsMeet (I := Whole) (fun _ h => h.exact) ?_ ?_ ⟨.inl rfl, rfl⟩
  · rintro s (chunk | _) h hafter
    · trivial
    by_contra hcut
    obtain ⟨hne, hline⟩ := not_or.mp hcut
    have hbefore := congrArg List.length (h.exact (L := L))
    replace hafter := congrArg List.length hafter
    -- the cut adds an item but no line end
    rw [step_cut hline rfl hne] at hafter
    simp [length_terminatedLines, List.count_eq_zero.mpr hline] at hbefore hafter
    omega
  · rintro s (chunk | _) h hpoll
    · exact ⟨h.ends, h.yielded⟩
    rcases hpoll with hnil | hmem
    · simpa [step, hnil, L.nextLine_nil] using h
    · obtain ⟨line, rest, hun, hline⟩ := List.eq_append_cons_of_mem hmem
      exact h.poll hline hun

lemma takeWhile_line (hline : 10 ∉ line) : line.takeWhile (· != 10) = line :=
  List.takeWhile_eq_self_iff.mpr fun _ hc => bne_iff_ne.mpr fun h => hline (h ▸ hc)

def sampleReader : LineReader where
  nextLine unread :=
    let line := unread.takeWhile (· != 10)
    if unread = [] then none
    else if line = unread then some (fromUtf8 line, line)
    else some (fromUtf8 (stripReturn line), line ++ [10])
  nextLine_nil := rfl
  nextLine_line line rest hline := by
    have hstops : (line ++ 10 :: rest).takeWhile (· != 10) = line := by
      rw [List.takeWhile_append, if_pos (by rw [takeWhile_line hline])]
      simp
    simp [hstops]
  nextLine_remainder line hline hne := by simp [takeWhile_line hline, hne]

/-- A line that arrives in two chunks is yielded in two pieces. -/
theorem line_yielded_in_pieces :
    (run sampleReader [.append [104, 105], .poll, .append [33, 10], .poll]).yielded =
        [some "hi", some "!"] ∧
      terminatedLines [104, 105, 33, 10] = [some "hi!"] := by
  decide

end PollingLines

end XeniaPeer.Launcher
