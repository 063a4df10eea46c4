import XeniaPeer.Foundation.Programs
import XeniaPeer.Foundation.Runs
import XeniaPeer.Foundation.Text

/-!
# Trust on first use

How the viewer decides whether it talks to the host it means (`verify_host_identity`,
`pin_or_verify_known_hosts` in the viewer's `main.rs`).

Main result: `pins_hold`.
-/

namespace XeniaPeer.Viewer

open Foundation

/-! ## The file -/

inductive HostIdentityError where
  | fingerprintMismatch (text : String)
  | io

inductive ReadError where
  | notFound
  | unreadable
  | invalidUtf8
deriving DecidableEq

def readToString (file : Option Bytes) (readable : Bool) : Except ReadError String :=
  match file with
  | none => .error .notFound
  | some bytes => if readable then okOr (fromUtf8 bytes) .invalidUtf8 else .error .unreadable

/-- What happens to a `fs::write`: it opens the file, which empties it, and writes from the front.
It may be refused at the start, and stop with an error or with the process after some bytes. -/
inductive WriteAnswer where
  | completes
  | refused
  | stops (written : Nat)
  | crashes (written : Nat)

def fsWrite (file : Option Bytes) (contents : Bytes) :
    WriteAnswer → Outcome HostIdentityError Unit × Option Bytes
  | .completes => (.done (), some contents)
  | .refused => (.failed .io, file)
  | .stops written => (.failed .io, some (contents.take written))
  | .crashes written => (.crashed, some (contents.take written))

/-! ## Verifying a host -/

structure Connection where
  hostAddr : String
  fingerprint : FixedBytes 32
  readable : Bool
  write : WriteAnswer

section

variable (path : String) (file : Option Bytes) (c : Connection)

def Connection.fpHex : String := lowerHex c.fingerprint.toList

def pinFor (hostAddr : List Char) : List (List Char) → Option (List Char)
  | addr :: fp :: _ => if addr = hostAddr then some fp else none
  | _ => none

def findPin (text hostAddr : String) : Option (List Char) :=
  findInLines (pinFor hostAddr.toList) text.toList

def pinLine (hostAddr fpHex : String) : String := hostAddr ++ " " ++ fpHex ++ "\n"

def updatedText (existing hostAddr fpHex : String) : String :=
  if existing.toList ≠ [] ∧ existing.toList.getLast? ≠ some '\n' then
    existing ++ "\n" ++ pinLine hostAddr fpHex
  else existing ++ pinLine hostAddr fpHex

def changedText (path hostAddr : String) (fp : List Char) (fpHex : String) : String :=
  "host " ++ hostAddr ++ " identity fingerprint changed: known_hosts has " ++ String.ofList fp ++
    ", host presented " ++ fpHex ++
    " -- refusing to connect (possible man-in-the-middle). Remove the stale line from " ++ path ++
    " if this change is expected."

def existingText : String :=
  (readToString file c.readable).toOption.getD ""

def pinOrVerifyKnownHosts : Outcome HostIdentityError Unit × Option Bytes :=
  match findPin (existingText file c) c.hostAddr with
  | some fp =>
    if eqIgnoreAsciiCase fp c.fpHex.toList then (.done (), file)
    else (.failed (.fingerprintMismatch (changedText path c.hostAddr fp c.fpHex)), file)
  | none => fsWrite file (utf8 (updatedText (existingText file c) c.hostAddr c.fpHex)) c.write

def step : Option Bytes :=
  (pinOrVerifyKnownHosts path file c).2

def run (cs : List Connection) : Option Bytes :=
  cs.foldl (step path) file

end

/-! ## The pins of a text -/

lemma pinFor_nil (hostAddr : List Char) : pinFor hostAddr [] = none := rfl

lemma toList_pinLine (hostAddr fpHex : String) :
    (pinLine hostAddr fpHex).toList = hostAddr.toList ++ ' ' :: fpHex.toList ++ ['\n'] := by
  simp [pinLine]

lemma findPin_updatedText (existing hostAddr fpHex addr : String) :
    findPin (updatedText existing hostAddr fpHex) addr =
      (findPin existing addr).or (findPin (pinLine hostAddr fpHex) addr) := by
  have hf := pinFor_nil addr.toList
  unfold updatedText findPin
  split
  · rw [String.toList_append, String.toList_append, List.append_assoc]
    exact findInLines_append hf _ _
  · rename_i hend
    rw [String.toList_append]
    rcases List.eq_nil_or_concat' existing.toList with hnil | ⟨front, last, h⟩
    · rw [hnil, List.nil_append, findInLines_nil hf, Option.none_or]
    · have hlast : last = '\n' := by
        rw [h] at hend
        simpa using hend
      subst hlast
      rw [h, List.append_assoc, findInLines_newline hf]
      exact findInLines_append hf _ _

variable {hostAddr : String}

lemma findPin_pinLine {fpHex : String} (haddr : IsWord hostAddr.toList)
    (hfp : IsWord fpHex.toList) (addr : String) : findPin (pinLine hostAddr fpHex) addr =
      if hostAddr = addr then some fpHex.toList else none := by
  have hline : '\n' ∉ hostAddr.toList ++ ' ' :: fpHex.toList := by
    have h : isWhiteSpace '\n' = true := by decide
    intro hmem
    rcases List.mem_append.mp hmem with hmem | hmem
    · exact absurd h (by rw [haddr.2 _ hmem]; decide)
    · rcases List.mem_cons.mp hmem with hspa | hmem
      · exact absurd hspa (by decide)
      · exact absurd h (by rw [hfp.2 _ hmem]; decide)
  unfold findPin
  rw [toList_pinLine, findInLines_newline (pinFor_nil _), findInLines_line (pinFor_nil _) hline,
    splitWhitespace_append_cons (by decide), splitWhitespace_word haddr, splitWhitespace_word hfp]
  simp [pinFor, String.toList_inj]

lemma findPin_of_not_word (h : ¬ IsWord hostAddr.toList) (text : String) :
    findPin text hostAddr = none := by
  unfold findPin findInLines
  rw [List.findSome?_eq_none_iff]
  intro line _
  unfold pinFor
  split
  · rename_i addr fp rest hwor
    have hword : IsWord addr := mem_splitWhitespace (hwor ▸ List.mem_cons_self)
    rw [if_neg]
    rintro rfl
    exact h hword
  · rfl

lemma findPin_empty (hostAddr : String) : findPin "" hostAddr = none :=
  findInLines_nil (pinFor_nil _)

/-! ## What a connection does -/

def pinned (file : Option Bytes) (addr : String) : Option (List Char) :=
  (file.bind fromUtf8).bind (fun text => findPin text addr)

/-- There is a file that can not be read as text. -/
def ReadFails (file : Option Bytes) (c : Connection) : Prop :=
  readToString file c.readable = .error .unreadable ∨
    readToString file c.readable = .error .invalidUtf8

instance (file : Option Bytes) (c : Connection) : Decidable (ReadFails file c) :=
  inferInstanceAs (Decidable (_ ∨ _))

/-- There is a new pin, which can not be written. -/
def WriteFails (file : Option Bytes) (c : Connection) : Prop :=
  findPin (existingText file c) c.hostAddr = none ∧ c.write ≠ .completes

def WriteAnswer.Whole (contents : Bytes) : WriteAnswer → Prop
  | .completes => True
  | .refused => True
  | .stops written => contents.length ≤ written
  | .crashes written => contents.length ≤ written

instance (contents : Bytes) (answer : WriteAnswer) : Decidable (answer.Whole contents) :=
  match answer with
  | .completes => isTrue trivial
  | .refused => isTrue trivial
  | .stops written => inferInstanceAs (Decidable (contents.length ≤ written))
  | .crashes written => inferInstanceAs (Decidable (contents.length ≤ written))

/-- The file can be read, and a new text is written whole or not at all. -/
structure Meets (file : Option Bytes) (c : Connection) : Prop where
  reads : ¬ ReadFails file c
  writes : c.write.Whole (utf8 (updatedText (existingText file c) c.hostAddr c.fpHex))

instance (file : Option Bytes) (c : Connection) : Decidable (Meets file c) :=
  decidable_of_iff (_ ∧ _) ⟨fun h => ⟨h.1, h.2⟩, fun h => ⟨h.reads, h.writes⟩⟩

variable {contents : Bytes} {answer : WriteAnswer}

lemma fsWrite_whole (file : Option Bytes) (h : answer.Whole contents) :
    (fsWrite file contents answer).2 = file ∨ (fsWrite file contents answer).2 = some contents := by
  cases answer with
  | completes => exact .inr rfl
  | refused => exact .inl rfl
  | stops written => exact .inr (congrArg some (List.take_of_length_le h))
  | crashes written => exact .inr (congrArg some (List.take_of_length_le h))

variable {file : Option Bytes}

lemma fsWrite_done : (fsWrite file contents answer).1 = .done () ↔ answer = .completes := by
  cases answer <;> simp [fsWrite]

lemma pinned_text (text addr : String) : pinned (some (utf8 text)) addr = findPin text addr := by
  have htext : fromUtf8 (utf8 text) = some text := fromUtf8_eq_some.mpr rfl
  simp [pinned, htext]

variable {c : Connection}

lemma pinned_of_reads (h : ¬ ReadFails file c) (addr : String) :
    pinned file addr = findPin (existingText file c) addr := by
  unfold ReadFails readToString at h
  cases file with
  | none => exact (findPin_empty addr).symm
  | some bytes =>
    cases hrea : c.readable with
    | false => simp [hrea] at h
    | true =>
      cases hutf8 : fromUtf8 bytes with
      | none => simp [hrea, hutf8, okOr] at h
      | some text =>
        simp [pinned, existingText, readToString, hrea, hutf8, okOr, Except.toOption]

lemma existingText_of_readFails (h : ReadFails file c) : existingText file c = "" := by
  unfold existingText
  rcases h with h | h <;> rw [h] <;> rfl

lemma existingText_text (h : c.readable = true) (text : String) :
    existingText (some (utf8 text)) c = text := by
  have htext : fromUtf8 (utf8 text) = some text := fromUtf8_eq_some.mpr rfl
  simp [existingText, readToString, h, htext, okOr, Except.toOption]

lemma meets_text (hreadable : c.readable = true) (hwrite : c.write = .completes) (text : String) :
    Meets (some (utf8 text)) c := by
  have htext : fromUtf8 (utf8 text) = some text := fromUtf8_eq_some.mpr rfl
  refine ⟨?_, by rw [hwrite]; trivial⟩
  simp [ReadFails, readToString, hreadable, htext, okOr]

variable {path : String}

lemma pinOrVerify_done : (pinOrVerifyKnownHosts path file c).1 = .done () ↔
      (∃ fp, findPin (existingText file c) c.hostAddr = some fp ∧
        eqIgnoreAsciiCase fp c.fpHex.toList = true) ∨
      findPin (existingText file c) c.hostAddr = none ∧ c.write = .completes := by
  unfold pinOrVerifyKnownHosts
  cases hpin : findPin (existingText file c) c.hostAddr with
  | none => simp [fsWrite_done]
  | some fp => by_cases heq : eqIgnoreAsciiCase fp c.fpHex.toList = true <;> simp [heq]

lemma step_cases (path : String) (file : Option Bytes) (c : Connection) :
    (step path file c = file ∧ ∃ fp, findPin (existingText file c) c.hostAddr = some fp) ∨
      findPin (existingText file c) c.hostAddr = none ∧ step path file c =
          (fsWrite file (utf8 (updatedText (existingText file c) c.hostAddr c.fpHex)) c.write).2 := by
  unfold step pinOrVerifyKnownHosts
  cases hpin : findPin (existingText file c) c.hostAddr with
  | none => exact .inr ⟨rfl, rfl⟩
  | some fp =>
    refine .inl ⟨?_, fp, rfl⟩
    simp only
    split <;> rfl

variable {addr : String} {fp : List Char}

lemma step_keeps_pins (h : Meets file c) (hpin : pinned file addr = some fp) :
    pinned (step path file c) addr = some fp := by
  rcases step_cases path file c with ⟨hsame, -⟩ | ⟨-, hwr⟩
  · rw [hsame]
    exact hpin
  · rw [hwr]
    rcases fsWrite_whole file h.writes with hleft | hwho
    · rw [hleft]
      exact hpin
    · rw [hwho, pinned_text, findPin_updatedText, ← pinned_of_reads h.reads, hpin, Option.some_or]

lemma isWord_fpHex (c : Connection) : IsWord c.fpHex.toList := by
  refine isWord_lowerHex ?_
  intro hnil
  have hlen := c.fingerprint.toList_length
  rw [hnil] at hlen
  cases hlen

lemma pinned_of_done (haddr : IsWord c.hostAddr.toList)
    (hdone : (pinOrVerifyKnownHosts path file c).1 = .done ()) :
    ∃ fp, pinned (step path file c) c.hostAddr = some fp ∧
      eqIgnoreAsciiCase fp c.fpHex.toList = true := by
  rcases step_cases path file c with ⟨hsame, fp, hfp⟩ | ⟨hnone, hwr⟩
  · have hreads : ¬ ReadFails file c := by
      intro h
      rw [existingText_of_readFails h, findPin_empty] at hfp
      cases hfp
    rcases pinOrVerify_done.mp hdone with ⟨fp', hfp', heq⟩ | ⟨hnone, -⟩
    · exact ⟨fp', by rw [hsame, pinned_of_reads hreads, hfp'], heq⟩
    · rw [hfp] at hnone
      cases hnone
  · have hcom : c.write = .completes := by
      rcases pinOrVerify_done.mp hdone with ⟨fp, hfp, -⟩ | ⟨-, hcom⟩
      · rw [hnone] at hfp
        cases hfp
      · exact hcom
    refine ⟨c.fpHex.toList, ?_, eqIgnoreAsciiCase_iff.mpr rfl⟩
    rw [hwr, hcom]
    change pinned (some _) _ = _
    rw [pinned_text, findPin_updatedText, hnone, Option.none_or,
      findPin_pinLine haddr (isWord_fpHex c), if_pos rfl]

lemma matches_of_done (hreads : ¬ ReadFails file c) (hpin : pinned file c.hostAddr = some fp)
    (hdone : (pinOrVerifyKnownHosts path file c).1 = .done ()) :
    eqIgnoreAsciiCase fp c.fpHex.toList = true := by
  rw [pinned_of_reads hreads] at hpin
  rcases pinOrVerify_done.mp hdone with ⟨fp', hfp', heq⟩ | ⟨hnone, -⟩
  · rw [hpin] at hfp'
    cases hfp'
    exact heq
  · rw [hpin] at hnone
    cases hnone

lemma fingerprint_unique {c' : Connection} (h : eqIgnoreAsciiCase fp c.fpHex.toList = true)
    (h' : eqIgnoreAsciiCase fp c'.fpHex.toList = true) : c'.fingerprint = c.fingerprint := by
  have hlow := (eqIgnoreAsciiCase_iff.mp h').symm.trans (eqIgnoreAsciiCase_iff.mp h)
  unfold Connection.fpHex at hlow
  rw [asciiLower_lowerHex, asciiLower_lowerHex] at hlow
  exact List.Vector.toList_injective (lowerHex_injective (String.toList_injective hlow))

/-! ## Over any sequence of connections -/

lemma run_keeps_pins {cs : List Connection} (h : StepsMeet (step path) Meets file cs)
    (hpin : pinned file addr = some fp) : pinned (run path file cs) addr = some fp :=
  h.invariant (I := fun file => pinned file addr = some fp)
    (fun _ _ hpin hmee => step_keeps_pins hmee hpin) hpin

lemma accepted_of_unpinnable (hwrite : c.write = .completes)
    (h : ¬ IsWord c.hostAddr.toList ∨ ReadFails file c) :
    (pinOrVerifyKnownHosts path file c).1 = .done () := by
  refine pinOrVerify_done.mpr (.inr ⟨?_, hwrite⟩)
  rcases h with hword | hfai
  · exact findPin_of_not_word hword _
  · rw [existingText_of_readFails hfai, findPin_empty]

lemma reported_iff :
    (ReadFails file c ∨ WriteFails file c → (pinOrVerifyKnownHosts path file c).1 ≠ .done ()) ↔
      ¬ (ReadFails file c ∧ c.write = .completes) := by
  constructor
  · rintro hrep ⟨hfai, hwr⟩
    exact hrep (.inl hfai) (accepted_of_unpinnable hwr (.inr hfai))
  · rintro hsafe hfai hdone
    have hnone : findPin (existingText file c) c.hostAddr = none := by
      rcases hfai with hread | ⟨hnone, -⟩
      · rw [existingText_of_readFails hread, findPin_empty]
      · exact hnone
    have hwr : c.write = .completes := by
      rcases pinOrVerify_done.mp hdone with ⟨fp, hfp, -⟩ | ⟨-, hwr⟩
      · rw [hnone] at hfp
        cases hfp
      · exact hwr
    rcases hfai with hread | ⟨-, hinc⟩
    · exact hsafe ⟨hread, hwr⟩
    · exact hinc hwr

/-- **Pins hold.** For every file and every sequence of connections from an accepted one on, in
which the file can be read and no write is cut off: an address without white space is accepted with
the fingerprint of the accepted connection only, and no pin of any address is lost. A failure of
the file is reported exactly if it is not a read in front of a complete write. And what is left out
does fail: with a complete write, every fingerprint is accepted for an address that is not one
word, and for every address while the file cannot be read. -/
theorem pins_hold (path : String) :
    (∀ file c cs c', IsWord c.hostAddr.toList → c'.hostAddr = c.hostAddr →
      (pinOrVerifyKnownHosts path file c).1 = .done () →
      StepsMeet (step path) Meets (step path file c) (cs ++ [c']) →
      (pinOrVerifyKnownHosts path (run path (step path file c) cs) c').1 = .done () →
      c'.fingerprint = c.fingerprint) ∧
    (∀ file cs, StepsMeet (step path) Meets file cs → ∀ addr fp, pinned file addr = some fp →
      pinned (run path file cs) addr = some fp) ∧
    (∀ file c,
      (ReadFails file c ∨ WriteFails file c → (pinOrVerifyKnownHosts path file c).1 ≠ .done ()) ↔
        ¬ (ReadFails file c ∧ c.write = .completes)) ∧
    (∀ file c, c.write = .completes → ¬ IsWord c.hostAddr.toList ∨ ReadFails file c →
      (pinOrVerifyKnownHosts path file c).1 = .done ()) := by
  refine ⟨?_, fun _ _ h _ _ => run_keeps_pins h, fun _ _ => reported_iff,
    fun _ _ => accepted_of_unpinnable⟩
  intro file c cs c' haddr haddr' hdone hmeets hdone'
  obtain ⟨hcs, hc', -⟩ := stepsMeet_append.mp hmeets
  obtain ⟨fp, hpin, hfp⟩ := pinned_of_done haddr hdone
  have hkept := run_keeps_pins hcs hpin
  rw [← haddr'] at hkept
  exact fingerprint_unique hfp (matches_of_done hc'.reads hkept hdone')

def sampleConnection (hostAddr : String) (b : UInt8) : Connection where
  hostAddr := hostAddr
  fingerprint := .replicate 32 b
  readable := true
  write := .completes

def sampleText (text hostAddr : String) (b : UInt8) : String :=
  updatedText text hostAddr (sampleConnection hostAddr b).fpHex

lemma findPin_sampleText (haddr : IsWord hostAddr.toList) (text : String) (b : UInt8)
    (addr : String) : findPin (sampleText text hostAddr b) addr = (findPin text addr).or
      (if hostAddr = addr then some (sampleConnection hostAddr b).fpHex.toList else none) := by
  rw [sampleText, findPin_updatedText, findPin_pinLine haddr (isWord_fpHex _)]

lemma step_sample {b : UInt8}
    (h : findPin (existingText file (sampleConnection hostAddr b)) hostAddr = none) :
    step "known_hosts" file (sampleConnection hostAddr b) =
      some (utf8 (sampleText (existingText file (sampleConnection hostAddr b)) hostAddr b)) := by
  rcases step_cases "known_hosts" file (sampleConnection hostAddr b) with ⟨-, fp, hfp⟩ | ⟨-, hstep⟩
  · exact absurd (h.symm.trans hfp) (by simp)
  · exact hstep

def sampleFile : Option Bytes :=
  run "known_hosts" none [sampleConnection "a:1" 1, sampleConnection "b:2" 2]

lemma sampleFile_eq :
    step "known_hosts" none (sampleConnection "a:1" 1) = some (utf8 (sampleText "" "a:1" 1)) ∧
      sampleFile = some (utf8 (sampleText (sampleText "" "a:1" 1) "b:2" 2)) := by
  have hword : IsWord "a:1".toList := by simp [IsWord, isWhiteSpace]
  have hfirst : step "known_hosts" none (sampleConnection "a:1" 1) =
      some (utf8 (sampleText "" "a:1" 1)) := step_sample (findPin_empty _)
  refine ⟨hfirst, ?_⟩
  have htext : existingText (some (utf8 (sampleText "" "a:1" 1))) (sampleConnection "b:2" 2) =
      sampleText "" "a:1" 1 := existingText_text rfl _
  have hnone : findPin (sampleText "" "a:1" 1) "b:2" = none := by
    rw [findPin_sampleText hword, findPin_empty]
    decide +kernel
  unfold sampleFile run
  rw [List.foldl_cons, List.foldl_cons, List.foldl_nil, hfirst, step_sample (htext ▸ hnone), htext]

/-- A host with another fingerprint is refused after a connection to a third one, which leaves the
pin where it is. -/
theorem pins_hold_sample :
    pinned sampleFile "a:1" = some (sampleConnection "a:1" 1).fpHex.toList ∧
      (pinOrVerifyKnownHosts "known_hosts" sampleFile (sampleConnection "a:1" 3)).1 ≠ .done () := by
  have hword : IsWord "a:1".toList := by simp [IsWord, isWhiteSpace]
  obtain ⟨hfirst, hfile⟩ := sampleFile_eq
  have hmeets : StepsMeet (step "known_hosts") Meets
      (step "known_hosts" none (sampleConnection "a:1" 1))
      ([sampleConnection "b:2" 2] ++ [sampleConnection "a:1" 3]) := by
    have hsecond : step "known_hosts" (step "known_hosts" none (sampleConnection "a:1" 1))
        (sampleConnection "b:2" 2) = sampleFile := rfl
    refine ⟨?_, ?_, trivial⟩
    · rw [hfirst]
      exact meets_text rfl rfl _
    · rw [hsecond, hfile]
      exact meets_text rfl rfl _
  obtain ⟨hone, hkept, -, -⟩ := pins_hold "known_hosts"
  constructor
  · refine hkept _ [sampleConnection "b:2" 2] (stepsMeet_append.mp hmeets).1 "a:1" _ ?_
    rw [hfirst, pinned_text, findPin_sampleText hword, findPin_empty]
    rfl
  · intro hdone
    have hpinned : (pinOrVerifyKnownHosts "known_hosts" none (sampleConnection "a:1" 1)).1 =
        .done () := pinOrVerify_done.mpr (.inr ⟨findPin_empty _, rfl⟩)
    have hsame := hone none (sampleConnection "a:1" 1) [sampleConnection "b:2" 2]
      (sampleConnection "a:1" 3) hword rfl hpinned hmeets hdone
    exact absurd hsame (by decide +kernel)

/-- Two addresses are pinned. While the file cannot be read, a connection is taken for a first
contact, and its write leaves only its own line: the other address is then accepted with a changed
fingerprint. The same happens after a write that was cut off, and an address with a blank in it is
accepted with any fingerprint. -/
theorem unreadable_file_forgets_pins :
    let unread : Connection := { sampleConnection "b:2" 2 with readable := false }
    let cut : Connection := { sampleConnection "c:3" 4 with write := .crashes 0 }
    pinned sampleFile "a:1" = some (sampleConnection "a:1" 1).fpHex.toList ∧
      (pinOrVerifyKnownHosts "known_hosts" sampleFile unread).1 = .done () ∧
      pinned (step "known_hosts" sampleFile unread) "a:1" = none ∧
      (pinOrVerifyKnownHosts "known_hosts" (step "known_hosts" sampleFile unread)
        (sampleConnection "a:1" 3)).1 = .done () ∧
      pinned (step "known_hosts" sampleFile cut) "a:1" = none ∧
      (pinOrVerifyKnownHosts "known_hosts"
        (step "known_hosts" none (sampleConnection "a host" 1)) (sampleConnection "a host" 3)).1 =
          .done () := by
  intro unread cut
  have ha : IsWord "a:1".toList := by simp [IsWord, isWhiteSpace]
  have hb : IsWord "b:2".toList := by simp [IsWord, isWhiteSpace]
  obtain ⟨-, hfile⟩ := sampleFile_eq
  have hfails : ReadFails sampleFile unread := by
    rw [hfile]
    exact .inl rfl
  have hempty : existingText sampleFile unread = "" := existingText_of_readFails hfails
  have hunread : step "known_hosts" sampleFile unread = some (utf8 (sampleText "" "b:2" 2)) := by
    rcases step_cases "known_hosts" sampleFile unread with ⟨-, fp, hfp⟩ | ⟨-, hstep⟩
    · rw [hempty, findPin_empty] at hfp
      cases hfp
    · rw [hstep, hempty]
      rfl
  have hforgotten : findPin (sampleText "" "b:2" 2) "a:1" = none := by
    rw [findPin_sampleText hb, findPin_empty]
    decide +kernel
  have hcut : step "known_hosts" sampleFile cut = some (utf8 "") := by
    have htext := existingText_text (c := cut) rfl (sampleText (sampleText "" "a:1" 1) "b:2" 2)
    have hnone : findPin (sampleText (sampleText "" "a:1" 1) "b:2" 2) "c:3" = none := by
      rw [findPin_sampleText hb, findPin_sampleText ha, findPin_empty]
      decide +kernel
    rcases step_cases "known_hosts" sampleFile cut with ⟨-, fp, hfp⟩ | ⟨-, hstep⟩
    · rw [hfile, htext] at hfp
      exact absurd (hnone.symm.trans hfp) (by simp)
    · rw [hstep]
      rfl
  refine ⟨?_, accepted_of_unpinnable rfl (.inr hfails), ?_, ?_, ?_,
    accepted_of_unpinnable rfl (.inl (by simp [IsWord, isWhiteSpace, sampleConnection]))⟩
  · rw [hfile, pinned_text, findPin_sampleText hb, findPin_sampleText ha, findPin_empty]
    rfl
  · rw [hunread, pinned_text, hforgotten]
  · rw [hunread]
    refine pinOrVerify_done.mpr (.inr ⟨?_, rfl⟩)
    rw [existingText_text rfl]
    exact hforgotten
  · rw [hcut, pinned_text, findPin_empty]

end XeniaPeer.Viewer
