import XeniaPeer.Foundation.Codes

/-!
# Lines and words

A text read line by line and word by word, as the string functions of Rust do it: a line ends with a
line feed, a carriage return in front of it belongs to the ending, and words are what Unicode white
space separates. Texts are lists of characters here.
-/

namespace Foundation

/-! ## Characters -/

def isWhiteSpace (c : Char) : Bool :=
  (9 ≤ c.toNat && c.toNat ≤ 13) || c.toNat == 0x20 || c.toNat == 0x85 || c.toNat == 0xA0 ||
    c.toNat == 0x1680 || (0x2000 ≤ c.toNat && c.toNat ≤ 0x200A) || c.toNat == 0x2028 ||
    c.toNat == 0x2029 || c.toNat == 0x202F || c.toNat == 0x205F || c.toNat == 0x3000

def asciiLower (c : Char) : Char :=
  if 65 ≤ c.toNat && c.toNat ≤ 90 then Char.ofNat (c.toNat + 32) else c

def eqIgnoreAsciiCase (s t : List Char) : Bool := s.map asciiLower == t.map asciiLower

lemma eqIgnoreAsciiCase_iff {s t : List Char} :
    eqIgnoreAsciiCase s t = true ↔ s.map asciiLower = t.map asciiLower := by
  simp [eqIgnoreAsciiCase]

def trim (s : List Char) : List Char :=
  ((s.dropWhile isWhiteSpace).reverse.dropWhile isWhiteSpace).reverse

/-! ## Words -/

def splitWhitespace (s : List Char) : List (List Char) :=
  (s.splitOnP isWhiteSpace).filter (fun w => !w.isEmpty)

@[simp] lemma splitWhitespace_nil : splitWhitespace [] = [] := rfl

lemma splitWhitespace_append_cons {c : Char} (hc : isWhiteSpace c = true) (s t : List Char) :
    splitWhitespace (s ++ c :: t) = splitWhitespace s ++ splitWhitespace t := by
  rw [splitWhitespace, List.splitOnP_append_cons s t hc, List.filter_append]
  rfl

lemma splitWhitespace_concat {c : Char} (hc : isWhiteSpace c = true) (s : List Char) :
    splitWhitespace (s ++ [c]) = splitWhitespace s := by
  rw [splitWhitespace_append_cons hc, splitWhitespace_nil, List.append_nil]

/-- A text without white space. -/
def IsWord (w : List Char) : Prop := w ≠ [] ∧ ∀ c ∈ w, isWhiteSpace c = false

instance (w : List Char) : Decidable (IsWord w) := inferInstanceAs (Decidable (_ ∧ _))

lemma splitWhitespace_word {w : List Char} (hw : IsWord w) : splitWhitespace w = [w] := by
  rw [splitWhitespace, List.splitOnP_eq_singleton hw.2]
  simp [hw.1]

lemma not_sep_of_mem_splitOnP {α : Type} {p : α → Bool} {s w : List α} (hw : w ∈ s.splitOnP p) :
    ∀ a ∈ w, p a = false := by
  induction s generalizing w with
  | nil =>
    simp only [List.splitOnP_nil, List.mem_singleton] at hw
    subst hw
    nofun
  | cons x xs ih =>
    rw [List.splitOnP_cons_eq_if_modifyHead] at hw
    split at hw
    · rcases List.mem_cons.mp hw with rfl | hw
      · nofun
      · exact ih hw
    · rename_i hx
      obtain ⟨first, rest, h⟩ := List.exists_cons_of_ne_nil (List.splitOnP_ne_nil p xs)
      rw [h, List.modifyHead_cons, List.mem_cons] at hw
      rcases hw with rfl | hw
      · intro a ha
        rcases List.mem_cons.mp ha with rfl | ha
        · exact Bool.eq_false_iff.mpr hx
        · exact ih (h ▸ List.mem_cons_self) a ha
      · exact ih (h ▸ List.mem_cons_of_mem _ hw)

lemma mem_splitWhitespace {s w : List Char} (hw : w ∈ splitWhitespace s) : IsWord w := by
  obtain ⟨hmem, hne⟩ := List.mem_filter.mp hw
  refine ⟨?_, not_sep_of_mem_splitOnP hmem⟩
  rintro rfl
  cases hne

/-! ## Lines -/

def stripCarriageReturn (line : List Char) : List Char :=
  if line.getLast? = some '\r' then line.dropLast else line

def lines (s : List Char) : List (List Char) :=
  (s.splitOnP (· == '\n')).dropLast.map stripCarriageReturn ++
    ((s.splitOnP (· == '\n')).getLast?.toList.filter (fun line => !line.isEmpty))

lemma splitWhitespace_stripCarriageReturn (line : List Char) :
    splitWhitespace (stripCarriageReturn line) = splitWhitespace line := by
  unfold stripCarriageReturn
  split
  · rename_i hlast
    obtain ⟨front, rfl⟩ : ∃ front, line = front ++ ['\r'] :=
      ⟨line.dropLast, (List.dropLast_append_getLast? _ hlast).symm⟩
    rw [List.dropLast_concat, splitWhitespace_concat (by decide)]
  · rfl

section Find

variable {β : Type} {f : List (List Char) → Option β}

def findInLines (f : List (List Char) → Option β) (s : List Char) : Option β :=
  (lines s).findSome? (fun line => f (splitWhitespace line))

lemma findInLines_eq (hf : f [] = none) (s : List Char) :
    findInLines f s = (s.splitOnP (· == '\n')).findSome? (fun line => f (splitWhitespace line)) := by
  have hne := List.splitOnP_ne_nil (· == '\n') s
  have h := List.dropLast_append_getLast hne
  generalize hlast : (s.splitOnP (· == '\n')).getLast hne = last at h
  have hlast' : (s.splitOnP (· == '\n')).getLast? = some last := by
    rw [List.getLast?_eq_some_getLast hne, hlast]
  unfold findInLines lines
  rw [hlast']
  conv_rhs => rw [← h]
  rw [List.findSome?_append, List.findSome?_append, List.findSome?_map]
  congr 1
  · congr 1
    funext line
    simp only [Function.comp_apply, splitWhitespace_stripCarriageReturn]
  · cases last with
    | nil => simp [hf]
    | cons c cs => rfl

lemma findInLines_append (hf : f [] = none) (s t : List Char) :
    findInLines f (s ++ '\n' :: t) = (findInLines f s).or (findInLines f t) := by
  rw [findInLines_eq hf, findInLines_eq hf, findInLines_eq hf,
    List.splitOnP_append_cons s t (by rfl), List.findSome?_append]

lemma findInLines_nil (hf : f [] = none) : findInLines f [] = none := by
  rw [findInLines_eq hf]
  simp [hf]

lemma findInLines_newline (hf : f [] = none) (s : List Char) :
    findInLines f (s ++ ['\n']) = findInLines f s := by
  rw [findInLines_append hf, findInLines_nil hf, Option.or_none]

lemma findInLines_line (hf : f [] = none) {s : List Char} (hs : '\n' ∉ s) :
    findInLines f s = f (splitWhitespace s) := by
  have hspl : s.splitOnP (· == '\n') = [s] := by
    refine List.splitOnP_eq_singleton ?_
    intro c hc
    exact beq_false_of_ne (fun h => hs (h ▸ hc))
  rw [findInLines_eq hf, hspl, List.findSome?_singleton]

end Find

/-! ## Hexadecimal texts -/

lemma mem_lowerHex {b : Bytes} {c : Char} (hc : c ∈ (lowerHex b).toList) :
    ∃ n < 16, c = Nat.digitChar n := by
  simp only [lowerHex, String.toList_ofList, List.mem_flatMap, List.mem_cons, List.not_mem_nil,
    or_false] at hc
  obtain ⟨x, -, hx⟩ := hc
  have hlt := x.toNat_lt
  rcases hx with rfl | rfl
  · exact ⟨x.toNat / 16, by omega, rfl⟩
  · exact ⟨x.toNat % 16, by omega, rfl⟩

lemma isWord_lowerHex {b : Bytes} (hb : b ≠ []) : IsWord (lowerHex b).toList := by
  constructor
  · obtain ⟨x, xs, rfl⟩ := List.exists_cons_of_ne_nil hb
    simp [lowerHex]
  · have hdigit : ∀ n < 16, isWhiteSpace (Nat.digitChar n) = false := by decide
    intro c hc
    obtain ⟨n, hn, rfl⟩ := mem_lowerHex hc
    exact hdigit n hn

lemma asciiLower_lowerHex (b : Bytes) :
    (lowerHex b).toList.map asciiLower = (lowerHex b).toList := by
  have hdigit : ∀ n < 16, asciiLower (Nat.digitChar n) = Nat.digitChar n := by decide
  refine (List.map_congr_left ?_).trans (List.map_id _)
  intro c hc
  obtain ⟨n, hn, rfl⟩ := mem_lowerHex hc
  exact hdigit n hn

lemma lowerHex_injective : Function.Injective lowerHex := by
  have hdigit : ∀ m < 16, ∀ n < 16, Nat.digitChar m = Nat.digitChar n → m = n := by decide
  intro b b' h
  have hlis := congrArg String.toList h
  simp only [lowerHex, String.toList_ofList] at hlis
  clear h
  induction b generalizing b' with
  | nil =>
    cases b' with
    | nil => rfl
    | cons y ys => cases hlis
  | cons x xs ih =>
    cases b' with
    | nil => cases hlis
    | cons y ys =>
      simp only [List.flatMap_cons, List.cons_append, List.nil_append, List.cons.injEq] at hlis
      obtain ⟨hhigh, hlow, hrest⟩ := hlis
      have hx := x.toNat_lt
      have hy := y.toNat_lt
      have hhigh' := hdigit _ (by omega) _ (by omega) hhigh
      have hlow' := hdigit _ (by omega) _ (by omega) hlow
      have hxy : x = y := UInt8.toNat_inj.mp (by omega)
      rw [hxy, ih hrest]

end Foundation
