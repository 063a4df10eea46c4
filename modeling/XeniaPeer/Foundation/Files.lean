import Mathlib.Data.List.Flatten
import Mathlib.Data.List.Infix
import XeniaPeer.Foundation.Codes
import XeniaPeer.Foundation.Programs

/-!
# A file system and its calls

Directories by their path, each with its permission bits and its entries. An entry is a regular file
with its bytes or something else (a link, a device), of which only matters whether following it gets
anywhere. Links to directories are not modelled, so the canonical text of a path is the text of its
components.
-/

namespace Foundation

/-! ## Paths -/

abbrev Path := List String

def pathOf (text : String) : Path :=
  ((text.toList.splitOn '/').filter (fun c => decide (c ≠ [] ∧ c ≠ ['.']))).map String.ofList

def Path.text (p : Path) : String :=
  if p = [] then "/" else String.join (p.map (fun c => "/" ++ c))

def joinPath (text name : String) : String :=
  if text = "" ∨ text.toList.getLast? = some '/' then text ++ name else text ++ "/" ++ name

def SimpleName (name : String) : Prop :=
  '/' ∉ name.toList ∧ name ≠ "" ∧ name ≠ "."

variable {name : String}

lemma simpleName_of_length (h : '/' ∉ name.toList) (hlen : 2 ≤ name.toList.length) :
    SimpleName name := by
  refine ⟨h, ?_, ?_⟩
  · rintro rfl
    simp at hlen
  · rintro rfl
    simp at hlen

@[simp] lemma slash_not_mem_toDigits (n : Nat) : '/' ∉ Nat.toDigits 10 n := by
  intro h
  have hdigit := Nat.isDigit_of_mem_toDigits (by decide) (by decide) h
  exact absurd hdigit (by decide)

/-- A library that writes bytes as hexadecimal text. -/
class HexLibrary where
  hexEncode : Bytes → String
  slash_not_mem_hexEncode : ∀ b, '/' ∉ (hexEncode b).toList
  length_hexEncode : ∀ b, (hexEncode b).toList.length = 2 * b.length

export HexLibrary (hexEncode slash_not_mem_hexEncode length_hexEncode)

attribute [simp] slash_not_mem_hexEncode length_hexEncode

@[reducible] def lowerHexLibrary : HexLibrary where
  hexEncode := lowerHex
  slash_not_mem_hexEncode b := by
    have hdigit : ∀ n < 16, Nat.digitChar n ≠ '/' := by decide
    simp only [lowerHex, String.toList_ofList, List.mem_flatMap, List.mem_cons, List.not_mem_nil,
      or_false, not_exists, not_and, not_or]
    intro x _
    have hx := x.toNat_lt
    exact ⟨(hdigit _ (by omega)).symm, (hdigit _ (by omega)).symm⟩
  length_hexEncode b := by simp [lowerHex, List.length_flatMap, Nat.mul_comm]

def pathMax : Nat := 4095

def resolve (text : String) : Option Path :=
  if text.utf8ByteSize ≤ pathMax ∧ ".." ∉ pathOf text then some (pathOf text) else none

variable {text : String}

def pieces (cs : List Char) : List (List Char) :=
  (cs.splitOn '/').filter (fun c => decide (c ≠ [] ∧ c ≠ ['.']))

lemma pathOf_eq (text : String) : pathOf text = (pieces text.toList).map String.ofList := rfl

lemma pieces_slash (front rest : List Char) :
    pieces (front ++ '/' :: rest) = pieces front ++ pieces rest := by
  rw [pieces, List.splitOn_append_cons_self, List.filter_append]
  rfl

lemma pieces_name (h : SimpleName name) : pieces name.toList = [name.toList] := by
  obtain ⟨hsla, hne, hdot⟩ := h
  rw [pieces, List.splitOn_eq_singleton hsla]
  refine List.filter_cons_of_pos (decide_eq_true ⟨?_, ?_⟩)
  · intro hnil
    exact hne (String.toList_inj.mp hnil)
  · intro hone
    exact hdot (String.toList_inj.mp hone)

lemma pathOf_joinPath (h : SimpleName name) :
    pathOf (joinPath text name) = pathOf text ++ [name] := by
  -- behind a separator the name is a component of its own
  have happ : ∀ front : List Char, (pieces (front ++ '/' :: name.toList)).map String.ofList =
      (pieces front).map String.ofList ++ [name] := by
    intro front
    rw [pieces_slash, pieces_name h, List.map_append, List.map_singleton, String.ofList_toList]
  unfold joinPath
  split
  · rename_i hend
    rcases hend with rfl | hend
    · rw [String.empty_append, pathOf_eq, pieces_name h, List.map_singleton, String.ofList_toList]
      rfl
    · obtain ⟨front, hfr⟩ := List.getLast?_eq_some_iff.mp hend
      have hemp : pieces (front ++ ['/']) = pieces front :=
        (pieces_slash front []).trans (List.append_nil _)
      rw [pathOf_eq, pathOf_eq, String.toList_append, hfr, hemp, List.append_assoc]
      exact happ front
  · rw [pathOf_eq, String.toList_append, String.toList_append, List.append_assoc]
    exact happ text.toList

lemma not_mem_of_mem_splitOn {α : Type} [DecidableEq α] {a : α} {xs c : List α}
    (h : c ∈ xs.splitOn a) : a ∉ c := by
  induction xs generalizing c with
  | nil =>
    rw [List.splitOn_nil, List.mem_singleton] at h
    simp [h]
  | cons x xs ih =>
    rw [List.splitOn_cons_eq_if_modifyHead] at h
    by_cases hx : x = a
    · rw [if_pos (by simp [hx]), List.mem_cons] at h
      rcases h with rfl | h
      · exact List.not_mem_nil
      · exact ih h
    · obtain ⟨y, ys, hys⟩ := List.exists_cons_of_ne_nil (List.splitOn_ne_nil a xs)
      rw [hys] at h ih
      rw [if_neg (by simpa using hx), List.modifyHead_cons, List.mem_cons] at h
      rcases h with rfl | h
      · simp [ih List.mem_cons_self, Ne.symm hx]
      · exact ih (List.mem_cons_of_mem _ h)

lemma simpleName_of_mem_pathOf (h : name ∈ pathOf text) : SimpleName name := by
  simp only [pathOf, List.mem_map, List.mem_filter, decide_eq_true_eq] at h
  obtain ⟨c, ⟨hc, hne, hdot⟩, rfl⟩ := h
  refine ⟨?_, ?_, ?_⟩
  · rw [String.toList_ofList]
    exact not_mem_of_mem_splitOn hc
  · intro hemp
    exact hne (by simpa using congrArg String.toList hemp)
  · intro hone
    exact hdot (by simpa using congrArg String.toList hone)

/-- The second text is the first with a blank piece more, which is empty or a dot and has a
separator of its own. -/
inductive Padded : List Char → List Char → Prop
  | mk (front blank rest : List Char) (hblank : blank = [] ∨ blank = ['.'])
      (hrest : ∀ c ∈ rest.head?, c = '/') : Padded (front ++ rest) (front ++ '/' :: blank ++ rest)

/-- Another text for the same path: blank pieces may be put in or left out. -/
def Respelled (text text' : String) : Prop :=
  text ≠ text' ∧ Relation.EqvGen Padded text.toList text'.toList

lemma Padded.pieces_eq {xs ys : List Char} (h : Padded xs ys) : pieces xs = pieces ys := by
  obtain ⟨front, blank, rest, hblank, hrest⟩ := h
  have hnone : pieces blank = [] := by
    rcases hblank with rfl | rfl <;> decide
  cases rest with
  | nil => rw [List.append_nil, List.append_nil, pieces_slash, hnone, List.append_nil]
  | cons c rest =>
    obtain rfl := hrest c rfl
    rw [pieces_slash, pieces_slash, pieces_slash, hnone, List.append_nil]

lemma padded_flatMap (front : List Char) (cs : List (List Char)) :
    Relation.EqvGen Padded (front ++ cs.flatMap ('/' :: ·))
      (front ++ (cs.filter (fun c => decide (c ≠ [] ∧ c ≠ ['.']))).flatMap ('/' :: ·)) := by
  induction cs generalizing front with
  | nil => exact .refl _
  | cons c cs ih =>
    rw [List.filter_cons, List.flatMap_cons, ← List.append_assoc]
    split
    · rw [List.flatMap_cons, ← List.append_assoc]
      exact ih _
    · -- a blank piece is taken out
      rename_i hc
      have hrest : ∀ d ∈ (cs.flatMap ('/' :: ·)).head?, d = '/' := by
        cases cs <;> simp
      have h := Padded.mk front c _ (by simpa [or_iff_not_imp_left] using hc) hrest
      exact .trans _ _ _ (.symm _ _ (.rel _ _ h)) (ih front)

lemma flatMap_splitOn (cs : List Char) : (cs.splitOn '/').flatMap ('/' :: ·) = '/' :: cs := by
  induction cs with
  | nil => rfl
  | cons c cs ih =>
    rw [List.splitOn_cons_eq_if_modifyHead]
    obtain ⟨y, ys, hys⟩ := List.exists_cons_of_ne_nil (List.splitOn_ne_nil '/' cs)
    rw [hys] at ih ⊢
    by_cases hc : c = '/' <;> simpa [hc] using ih

lemma padded_iff {xs ys : List Char} (hxs : xs.head? = some '/') (hys : ys.head? = some '/') :
    Relation.EqvGen Padded xs ys ↔ pieces xs = pieces ys := by
  have hall : ∀ zs : List Char, zs.head? = some '/' →
      Relation.EqvGen Padded zs ((pieces zs).flatMap ('/' :: ·)) := by
    intro zs hzs
    obtain ⟨rest, rfl⟩ := List.head?_eq_some_iff.mp hzs
    have hpad := padded_flatMap [] (rest.splitOn '/')
    rw [List.nil_append, flatMap_splitOn] at hpad
    exact pieces_slash [] rest ▸ hpad
  constructor
  · intro h
    exact (eq_equivalence.comap pieces).eqvGen_iff.mp (h.mono fun _ _ hpad => hpad.pieces_eq)
  · intro h
    exact .trans _ _ _ (hall xs hxs) (.symm _ _ (h ▸ hall ys hys))

variable {p : Path}

lemma text_concat (hp : ∀ c ∈ p, SimpleName c) :
    Path.text (p ++ [name]) = joinPath p.text name := by
  rcases List.eq_nil_or_concat' p with rfl | ⟨front, last, rfl⟩
  · simp [Path.text, joinPath, String.join]
  · obtain ⟨hsla, hne, -⟩ := hp last (by simp)
    have htext : Path.text (front ++ [last]) =
        String.join (front.map (fun c => "/" ++ c)) ++ "/" ++ last := by
      simp [Path.text, String.join_append, String.join_cons, String.append_assoc]
    have hcha : (Path.text (front ++ [last])).toList =
        (String.join (front.map (fun c => "/" ++ c)) ++ "/").toList ++ last.toList := by
      rw [htext, String.toList_append]
    have hlast : last.toList ≠ [] := fun h => hne (String.toList_inj.mp h)
    -- the text ends with the last name, which is not empty and has no separator
    have hend : ¬ (Path.text (front ++ [last]) = "" ∨
        (Path.text (front ++ [last])).toList.getLast? = some '/') := by
      rintro (hemp | hsep)
      · rw [hemp] at hcha
        have := (List.append_eq_nil_iff.mp hcha.symm).2
        exact hlast this
      · rw [hcha, List.getLast?_append_of_ne_nil _ hlast] at hsep
        exact hsla (List.mem_of_getLast? hsep)
    rw [joinPath, if_neg hend, htext]
    simp [Path.text, String.join_append, String.join_cons, String.append_assoc]

lemma pathOf_text (hp : ∀ c ∈ p, SimpleName c) : pathOf p.text = p := by
  induction p using List.reverseRecOn with
  | nil => decide +kernel
  | append_singleton front last ih =>
    have h : ∀ c ∈ front, SimpleName c := fun c hc => hp c (List.mem_append_left _ hc)
    rw [text_concat h, pathOf_joinPath (hp last (by simp)), ih h]

lemma resolve_eq_some :
    resolve text = some p ↔ text.utf8ByteSize ≤ pathMax ∧ ".." ∉ p ∧ pathOf text = p := by
  unfold resolve
  constructor
  · intro h
    split at h
    · rename_i hsh
      cases h
      exact ⟨hsh.1, hsh.2, rfl⟩
    · cases h
  · rintro ⟨hlen, hpar, rfl⟩
    rw [if_pos ⟨hlen, hpar⟩]

lemma pathOf_of_resolve (h : resolve text = some p) : pathOf text = p :=
  (resolve_eq_some.mp h).2.2

abbrev Named (text : String) : Prop := resolve text = some (pathOf text)

lemma named_of_isSome (h : (resolve text).isSome = true) : Named text := by
  obtain ⟨p, hp⟩ := Option.isSome_iff_exists.mp h
  obtain rfl := pathOf_of_resolve hp
  exact hp

lemma exists_resolve {P : Path → Prop} :
    (∃ p, resolve text = some p ∧ P p) ↔ Named text ∧ P (pathOf text) := by
  constructor
  · rintro ⟨p, hp, hP⟩
    obtain rfl := pathOf_of_resolve hp
    exact ⟨hp, hP⟩
  · rintro ⟨hp, hP⟩
    exact ⟨_, hp, hP⟩

lemma simpleName_of_concat (h : pathOf text = p) : ∀ c ∈ p, SimpleName c :=
  fun _ hc => simpleName_of_mem_pathOf (h ▸ hc)

lemma resolve_parent (h : resolve p.text = some p) :
    resolve (Path.text p.dropLast) = some p.dropLast := by
  obtain ⟨hlen, hpar, hpath⟩ := resolve_eq_some.mp h
  have hnm : ∀ c ∈ p, SimpleName c := simpleName_of_concat hpath
  refine resolve_eq_some.mpr ⟨?_, fun hmem => hpar (List.mem_of_mem_dropLast hmem),
    pathOf_text (fun c hc => hnm c (List.mem_of_mem_dropLast hc))⟩
  rcases List.eq_nil_or_concat' p with rfl | ⟨front, last, rfl⟩
  · exact hlen
  · rw [List.dropLast_concat]
    rw [text_concat (fun c hc => hnm c (List.mem_append_left _ hc))] at hlen
    refine le_trans ?_ hlen
    unfold joinPath
    split
    · simp [String.utf8ByteSize_append]
    · simp [String.utf8ByteSize_append]
      omega

lemma toList_text (hp : p ≠ []) : p.text.toList = (p.map String.toList).flatMap ('/' :: ·) := by
  rw [Path.text, if_neg hp]
  clear hp
  induction p with
  | nil => rfl
  | cons c p ih => simp [String.join_cons, ih]

lemma size_sublist {xs ys : List Char} (h : xs.Sublist ys) :
    (String.ofList xs).utf8ByteSize ≤ (String.ofList ys).utf8ByteSize := by
  induction h with
  | slnil => exact le_rfl
  | cons c _ ih =>
    rw [String.ofList_cons, String.utf8ByteSize_append]
    omega
  | cons_cons c _ ih =>
    rw [String.ofList_cons, String.ofList_cons, String.utf8ByteSize_append,
      String.utf8ByteSize_append]
    omega

lemma size_text_pathOf (h : text.toList.head? = some '/') :
    (Path.text (pathOf text)).utf8ByteSize ≤ text.utf8ByteSize := by
  obtain ⟨cs, hcs⟩ := List.head?_eq_some_iff.mp h
  -- the text of the components leaves out of the text its blank pieces
  have hsub : (Path.text (pathOf text)).toList.Sublist text.toList := by
    by_cases hnil : pathOf text = []
    · rw [hnil, hcs]
      exact List.cons_sublist_cons.mpr (List.nil_sublist _)
    · have hpie : pieces text.toList = pieces cs := hcs ▸ pieces_slash [] cs
      have hkept : (pieces cs).Sublist (cs.splitOn '/') := List.filter_sublist
      rw [toList_text hnil, pathOf_eq, hpie, hcs, ← flatMap_splitOn]
      simpa using hkept.flatMap _
  simpa using size_sublist hsub

lemma resolve_up (habsolute : text.toList.head? = some '/') (h : resolve text = some p) :
    resolve (Path.text p.dropLast) = some p.dropLast := by
  obtain ⟨hlen, hpar, rfl⟩ := resolve_eq_some.mp h
  exact resolve_parent (resolve_eq_some.mpr ⟨le_trans (size_text_pathOf habsolute) hlen, hpar,
    pathOf_text (fun _ hc => simpleName_of_mem_pathOf hc)⟩)

/-! ## Directories and files -/

inductive Node where
  | file (bytes : Bytes)
  | other (reachable : Bool)
deriving DecidableEq

structure Directory where
  mode : Nat
  entries : String → Option Node

def Directory.setEntry (dir : Directory) (name : String) (v : Option Node) : Directory :=
  { dir with entries := fun n => if n = name then v else dir.entries n }

inductive Removal where
  | entry (path : Path) (node : Node)
  | tree (path : Path)

/-- The directories, with the root and the parent of each, and the removals so far, the last one
first. -/
structure FileSystem where
  dirs : Path → Option Directory
  removals : List Removal
  root : (dirs []).isSome = true
  closed : ∀ p name, (dirs (p ++ [name])).isSome = true → (dirs p).isSome = true

variable {fs fs' : FileSystem}

namespace FileSystem

section

variable (fs : FileSystem) (p : Path)

def node? : Option Node := do
  let name ← p.getLast?
  let dir ← fs.dirs p.dropLast
  dir.entries name

def hasDir : Bool := (fs.dirs p).isSome

def setNode (v : Option Node) : FileSystem :=
  match p.getLast? with
  | none => fs
  | some name =>
    { fs with
      dirs := fun q => if q = p.dropLast then (fs.dirs q).map (·.setEntry name v) else fs.dirs q
      root := by
        have := fs.root
        split <;> simpa
      closed := by
        intro q name' h
        have hsome : (fs.dirs (q ++ [name'])).isSome = true := by
          split at h <;> simpa using h
        have := fs.closed q name' hsome
        split <;> simpa }

def hasParent : Bool := decide (p ≠ []) && fs.hasDir p.dropLast

def addDir (mode : Nat) : FileSystem :=
  if h : fs.hasParent p then
    { fs with
      dirs := fun q => if q = p then some ⟨mode, fun _ => none⟩ else fs.dirs q
      root := by
        have := fs.root
        split <;> simp [this]
      closed := by
        intro q name hq
        have hsome : (fs.dirs q).isSome = true := by
          split at hq
          · rename_i hp
            simp only [hasParent, ← hp, List.dropLast_concat, Bool.and_eq_true] at h
            exact h.2
          · exact fs.closed q name hq
        split <;> simp [hsome] }
  else fs

def AgreesAt (fs fs' : FileSystem) : Prop :=
  fs'.node? p = fs.node? p ∧ fs'.hasDir p = fs.hasDir p

end

structure OnlyAt (p : Path) (fs fs' : FileSystem) : Prop where
  agrees : ∀ q, q ≠ p → AgreesAt q fs fs'
  dirs : fs'.hasDir = fs.hasDir
  removals : fs'.removals = fs.removals

section Lookup

variable {p q : Path} {v : Option Node}

lemma eq_of_last_of_dropLast {α : Type} {p q : List α} {a : α} (hp : p.getLast? = some a)
    (hq : q.getLast? = some a) (h : p.dropLast = q.dropLast) : p = q := by
  obtain ⟨p', rfl⟩ := List.getLast?_eq_some_iff.mp hp
  obtain ⟨q', rfl⟩ := List.getLast?_eq_some_iff.mp hq
  rw [List.dropLast_concat, List.dropLast_concat] at h
  rw [h]

lemma node?_setNode :
    (fs.setNode p v).node? q = if q = p then (if fs.hasParent p then v else none) else
      fs.node? q := by
  cases hp : p.getLast? with
  | none =>
    have hnil : p = [] := List.getLast?_eq_none_iff.mp hp
    subst hnil
    by_cases hq : q = []
    · subst hq
      rfl
    · rw [if_neg hq]
      rfl
  | some name =>
    have hset : (fs.setNode p v).dirs = fun q =>
        if q = p.dropLast then (fs.dirs q).map (·.setEntry name v) else fs.dirs q := by
      simp only [setNode, hp]
    have hne : p ≠ [] := by
      rintro rfl
      cases hp
    unfold node?
    rw [hset]
    by_cases h : q = p
    · subst h
      cases hdir : fs.dirs q.dropLast with
      | none => simp [hp, hdir, hasParent, hasDir]
      | some dir => simp [hp, hdir, hasParent, hasDir, hne, Directory.setEntry]
    · rw [if_neg h]
      cases hq : q.getLast? with
      | none => rfl
      | some name' =>
        by_cases hdrop : q.dropLast = p.dropLast
        · have hname : name' ≠ name := by
            rintro rfl
            exact h (eq_of_last_of_dropLast hq hp hdrop)
          cases hdir : fs.dirs q.dropLast with
          | none => simp [hdrop, hdrop ▸ hdir]
          | some dir => simp [hdrop, hdrop ▸ hdir, hname, Directory.setEntry]
        · simp [hdrop]

lemma node?_setNode_self (h : fs.hasParent p = true) : (fs.setNode p v).node? p = v := by
  rw [node?_setNode, if_pos rfl, if_pos h]

lemma node?_setNode_of_ne (h : q ≠ p) : (fs.setNode p v).node? q = fs.node? q := by
  rw [node?_setNode, if_neg h]

@[simp] lemma hasDir_setNode : (fs.setNode p v).hasDir = fs.hasDir := by
  funext q
  unfold setNode hasDir
  split
  · rfl
  · dsimp only
    split <;> simp

@[simp] lemma hasParent_setNode : (fs.setNode p v).hasParent q = fs.hasParent q := by
  simp [hasParent]

@[simp] lemma removals_setNode : (fs.setNode p v).removals = fs.removals := by
  unfold setNode
  split <;> rfl

lemma hasParent_of_node? {node : Node} (h : fs.node? p = some node) : fs.hasParent p = true := by
  unfold node? at h
  simp only [Option.bind_eq_bind, Option.bind_eq_some_iff] at h
  obtain ⟨name, hname, dir, hdir, -⟩ := h
  have hne : p ≠ [] := by
    rintro rfl
    cases hname
  simp [hasParent, hasDir, hdir, hne]

variable {mode : Nat}

lemma node?_addDir (h : fs.hasDir p = false) : (fs.addDir p mode).node? q = fs.node? q := by
  have hnone : fs.dirs p = none := by simpa [hasDir] using h
  unfold addDir
  split
  · unfold node?
    cases q.getLast? with
    | none => rfl
    | some name =>
      by_cases hdrop : q.dropLast = p
      · simp [hdrop, hnone]
      · simp [hdrop]
  · rfl

lemma hasDir_addDir (h : fs.hasParent p = true) :
    (fs.addDir p mode).hasDir q = (decide (q = p) || fs.hasDir q) := by
  unfold addDir
  rw [dif_pos h]
  unfold hasDir
  by_cases hq : q = p <;> simp [hq]

lemma hasDir_concat {name : String} (h : fs.hasDir p = false) :
    fs.hasDir (p ++ [name]) = false := by
  by_contra hdir
  have hpar := fs.closed p name (Bool.not_eq_false _ ▸ hdir)
  exact absurd (hpar.symm.trans h) (by decide)

lemma AgreesAt.refl : AgreesAt p fs fs := ⟨rfl, rfl⟩

variable {fs'' : FileSystem}

lemma AgreesAt.trans (h : AgreesAt p fs fs') (h' : AgreesAt p fs' fs'') : AgreesAt p fs fs'' :=
  ⟨h'.1.trans h.1, h'.2.trans h.2⟩

lemma agreesAt_setNode (h : q ≠ p) : AgreesAt p fs (fs.setNode q v) :=
  ⟨node?_setNode_of_ne h.symm, by rw [hasDir_setNode]⟩

lemma OnlyAt.trans (h : OnlyAt p fs fs') (h' : OnlyAt p fs' fs'') : OnlyAt p fs fs'' :=
  ⟨fun q hq => (h.agrees q hq).trans (h'.agrees q hq), h'.dirs.trans h.dirs,
    h'.removals.trans h.removals⟩

lemma OnlyAt.hasParent (h : OnlyAt p fs fs') : fs'.hasParent q = fs.hasParent q := by
  simp [FileSystem.hasParent, h.dirs]

lemma onlyAt_setNode : OnlyAt p fs (fs.setNode p v) :=
  ⟨fun _ hq => agreesAt_setNode hq.symm, hasDir_setNode, removals_setNode⟩

end Lookup

/-! ## What the calls do -/

section

variable (fs : FileSystem) (text : String) (mode : Nat) (source target : String)

def readFile? : Option Bytes := do
  let p ← resolve text
  match fs.node? p with
  | some (.file bytes) => some bytes
  | _ => none

def reachable (fs : FileSystem) (p : Path) : Bool :=
  match fs.node? p with
  | some (.file _) => true
  | some (.other reachable) => reachable
  | none => fs.hasDir p

def pathExists : Bool := (resolve text).any fs.reachable

def rename? : Option FileSystem := do
  let p ← resolve source
  let q ← resolve target
  let node ← fs.node? p
  if fs.hasParent q ∧ ¬ fs.hasDir q then
    some ((fs.setNode p none).setNode q (some node))
  else none

def createNew? : Option FileSystem := do
  let p ← resolve text
  if fs.hasParent p ∧ fs.node? p = none ∧ ¬ fs.hasDir p then
    some (fs.setNode p (some (.file [])))
  else none

def appendFile? (bytes : Bytes) : Option FileSystem := do
  let p ← resolve text
  match fs.node? p with
  | some (.file old) => some (fs.setNode p (some (.file (old ++ bytes))))
  | _ => none

def replace? (bytes : Bytes) : Option FileSystem := do
  let p ← resolve text
  if fs.hasParent p ∧ ¬ fs.hasDir p then some (fs.setNode p (some (.file bytes))) else none

def unlink? : Option FileSystem := do
  let p ← resolve text
  let node ← fs.node? p
  some { fs.setNode p none with removals := .entry p node :: fs.removals }

def makeDir? : Option FileSystem := do
  let p ← resolve text
  if fs.hasParent p ∧ fs.node? p = none ∧ ¬ fs.hasDir p then some (fs.addDir p mode) else none

def ensureDir (fs : FileSystem) (p : Path) : Option FileSystem :=
  if fs.hasDir p then some fs
  else if fs.hasParent p ∧ fs.node? p = none then some (fs.addDir p mode)
  else none

def makeDirs? : Option FileSystem := do
  let p ← resolve text
  p.inits.foldlM (ensureDir mode) fs

def moveTree (p q : Path) (hq : fs.hasParent q = true) (hpq : ¬ p <+: q) : FileSystem :=
  { fs with
    dirs := fun r =>
      if q <+: r then fs.dirs (p ++ r.drop q.length)
      else if p <+: r then none
      else fs.dirs r
    root := by
      have hne : q ≠ [] := by simpa using (Bool.and_eq_true_iff.mp hq).1
      have hne' : p ≠ [] := by
        rintro rfl
        exact hpq List.nil_prefix
      simpa [hne, hne'] using fs.root
    closed := by
      intro r name h
      by_cases hqr : q <+: r
      · -- inside the moved tree
        have hlen := hqr.length_le
        rw [if_pos hqr]
        rw [if_pos (hqr.trans (List.prefix_append _ _)), List.drop_append_of_le_length hlen,
          ← List.append_assoc] at h
        exact fs.closed _ _ h
      · rw [if_neg hqr]
        by_cases hqr' : q <+: r ++ [name]
        · -- the top of the moved tree: its new directory is there
          have heq : q = r ++ [name] := by
            rcases List.prefix_concat_iff.mp hqr' with heq | hsub
            · exact heq
            · exact absurd hsub hqr
          have hpr : ¬ p <+: r := fun hp => hpq (hp.trans (heq ▸ List.prefix_append _ _))
          rw [if_neg hpr]
          have := (Bool.and_eq_true_iff.mp hq).2
          rwa [heq, List.dropLast_concat] at this
        · rw [if_neg hqr'] at h
          by_cases hpr : p <+: r
          · rw [if_pos (hpr.trans (List.prefix_append _ _))] at h
            cases h
          · rw [if_neg hpr]
            split at h
            · cases h
            · exact fs.closed _ _ h }

def renameDir? : Option FileSystem := do
  let p ← resolve source
  let q ← resolve target
  if h : fs.hasParent q = true ∧ ¬ p <+: q then
    if fs.hasDir p ∧ ¬ fs.hasDir q ∧ fs.node? q = none then some (fs.moveTree p q h.1 h.2)
    else none
  else none

def removeTree? : Option FileSystem := do
  let p ← resolve text
  if h : fs.hasDir p ∧ p ≠ [] then
    some
      { dirs := fun r => if p <+: r then none else fs.dirs r
        removals := .tree p :: fs.removals
        root := by simpa [h.2] using fs.root
        closed := by
          intro r name hr
          split at hr
          · cases hr
          · rename_i hpr
            rw [if_neg (fun hp => hpr (hp.trans (List.prefix_append _ _)))]
            exact fs.closed _ _ hr }
  else none

end

@[simp] lemma hasDir_root (fs : FileSystem) : fs.hasDir [] = true := fs.root

section Effects

variable {mode : Nat}

lemma pathExists_eq_true :
    fs.pathExists text = true ↔ Named text ∧ fs.reachable (pathOf text) = true := by
  rw [pathExists, Option.any_eq_true, exists_resolve]

lemma AgreesAt.pathExists_eq (h : AgreesAt (pathOf text) fs fs') :
    fs'.pathExists text = fs.pathExists text := by
  rw [Bool.eq_iff_iff, pathExists_eq_true, pathExists_eq_true, reachable, reachable, h.1, h.2]

lemma pathExists_eq_false (hnode : fs.node? (pathOf text) = none)
    (hdir : fs.hasDir (pathOf text) = false) : fs.pathExists text = false := by
  rw [Bool.eq_false_iff, Ne, pathExists_eq_true, reachable, hnode]
  simp [hdir]

variable {bytes : Bytes}

lemma readFile?_eq_some : fs.readFile? text = some bytes ↔
    Named text ∧ fs.node? (pathOf text) = some (.file bytes) := by
  rw [readFile?, Option.bind_eq_bind, Option.bind_eq_some_iff, exists_resolve]
  refine and_congr_right fun _ => ?_
  constructor
  · intro h
    split at h
    · rename_i old hold
      cases h
      exact hold
    · cases h
  · intro h
    rw [h]

lemma readFile?_congr (h : fs'.node? (pathOf text) = fs.node? (pathOf text)) :
    fs'.readFile? text = fs.readFile? text := by
  ext bytes
  rw [readFile?_eq_some, readFile?_eq_some, h]

lemma pathExists_of_readFile? (h : fs.readFile? text = some bytes) :
    fs.pathExists text = true := by
  obtain ⟨hp, hnode⟩ := readFile?_eq_some.mp h
  rw [pathExists, hp, Option.any_some, reachable, hnode]

lemma createNew?_eq_some :
    fs.createNew? text = some fs' ↔ Named text ∧ (fs.hasParent (pathOf text) = true ∧
      fs.node? (pathOf text) = none ∧ fs.hasDir (pathOf text) = false) ∧
      fs.setNode (pathOf text) (some (.file [])) = fs' := by
  simp only [createNew?, Option.bind_eq_bind, Option.bind_eq_some_iff, exists_resolve,
    Option.ite_none_right_eq_some, Option.some.injEq, Bool.not_eq_true]

lemma appendFile?_eq_some : fs.appendFile? text bytes = some fs' ↔ Named text ∧ ∃ old,
      fs.node? (pathOf text) = some (.file old) ∧
      fs.setNode (pathOf text) (some (.file (old ++ bytes))) = fs' := by
  rw [appendFile?, Option.bind_eq_bind, Option.bind_eq_some_iff, exists_resolve]
  refine and_congr_right fun _ => ?_
  constructor
  · intro h
    split at h
    · rename_i old hold
      cases h
      exact ⟨old, hold, rfl⟩
    · cases h
  · rintro ⟨old, hold, rfl⟩
    rw [hold]

lemma appendFile?_eq_none {bytes' : Bytes} (h : fs.appendFile? text bytes = none) :
    fs.appendFile? text bytes' = none := by
  by_contra hsome
  obtain ⟨fs', hfs⟩ := Option.ne_none_iff_exists'.mp hsome
  obtain ⟨hp, old, hold, -⟩ := appendFile?_eq_some.mp hfs
  cases h.symm.trans (appendFile?_eq_some.mpr ⟨hp, old, hold, rfl⟩)

variable {source target : String}

lemma rename?_eq_some :
    fs.rename? source target = some fs' ↔ Named source ∧ Named target ∧ ∃ node,
      fs.node? (pathOf source) = some node ∧
      (fs.hasParent (pathOf target) = true ∧ fs.hasDir (pathOf target) = false) ∧
      (fs.setNode (pathOf source) none).setNode (pathOf target) (some node) = fs' := by
  simp only [rename?, Option.bind_eq_bind, Option.bind_eq_some_iff, exists_resolve,
    Option.ite_none_right_eq_some, Option.some.injEq, Bool.not_eq_true]

lemma replace?_eq_some : fs.replace? text bytes = some fs' ↔ Named text ∧
      (fs.hasParent (pathOf text) = true ∧ fs.hasDir (pathOf text) = false) ∧
      fs.setNode (pathOf text) (some (.file bytes)) = fs' := by
  simp only [replace?, Option.bind_eq_bind, Option.bind_eq_some_iff, exists_resolve,
    Option.ite_none_right_eq_some, Option.some.injEq, Bool.not_eq_true]

lemma rename?_effect (h : fs.rename? source target = some fs') : Named source ∧ Named target ∧
      (pathOf source ≠ pathOf target → fs'.node? (pathOf source) = none) ∧
      fs'.node? (pathOf target) = fs.node? (pathOf source) ∧
      (∀ r, r ≠ pathOf source → r ≠ pathOf target → AgreesAt r fs fs') ∧
      fs'.hasDir = fs.hasDir := by
  obtain ⟨hp, hq, node, hnode, ⟨hpar, -⟩, rfl⟩ := rename?_eq_some.mp h
  refine ⟨hp, hq, fun hne => ?_, ?_, fun r hrp hrq => ?_, by simp⟩
  · rw [node?_setNode_of_ne hne, node?_setNode_self (hasParent_of_node? hnode)]
  · rw [node?_setNode_self (by simpa using hpar), hnode]
  · exact (agreesAt_setNode hrp.symm).trans (agreesAt_setNode hrq.symm)

lemma replace?_effect (h : fs.replace? text bytes = some fs') :
    Named text ∧ fs'.node? (pathOf text) = some (.file bytes) ∧ OnlyAt (pathOf text) fs fs' := by
  obtain ⟨hp, ⟨hpar, -⟩, rfl⟩ := replace?_eq_some.mp h
  exact ⟨hp, node?_setNode_self hpar, onlyAt_setNode⟩

lemma createNew?_effect (h : fs.createNew? text = some fs') :
    Named text ∧ fs.node? (pathOf text) = none ∧ fs'.node? (pathOf text) = some (.file []) ∧
      OnlyAt (pathOf text) fs fs' := by
  obtain ⟨hp, ⟨hpar, hnone, -⟩, rfl⟩ := createNew?_eq_some.mp h
  exact ⟨hp, hnone, node?_setNode_self hpar, onlyAt_setNode⟩

lemma appendFile?_effect (h : fs.appendFile? text bytes = some fs') :
    Named text ∧ ∃ old, fs.node? (pathOf text) = some (.file old) ∧
      fs'.node? (pathOf text) = some (.file (old ++ bytes)) ∧ OnlyAt (pathOf text) fs fs' := by
  obtain ⟨hp, old, hold, rfl⟩ := appendFile?_eq_some.mp h
  exact ⟨hp, old, hold, node?_setNode_self (hasParent_of_node? hold), onlyAt_setNode⟩

lemma makeDir?_eq_some :
    fs.makeDir? text mode = some fs' ↔ Named text ∧ (fs.hasParent (pathOf text) = true ∧
      fs.node? (pathOf text) = none ∧ fs.hasDir (pathOf text) = false) ∧
      fs.addDir (pathOf text) mode = fs' := by
  simp only [makeDir?, Option.bind_eq_bind, Option.bind_eq_some_iff, exists_resolve,
    Option.ite_none_right_eq_some, Option.some.injEq, Bool.not_eq_true]

lemma unlink?_effect (h : fs.unlink? text = some fs') :
    Named text ∧ ∃ node, fs.node? (pathOf text) = some node ∧ fs'.node? (pathOf text) = none ∧
      (∀ r, r ≠ pathOf text → AgreesAt r fs fs') ∧ fs'.hasDir = fs.hasDir ∧
      fs'.removals = .entry (pathOf text) node :: fs.removals := by
  simp only [unlink?, Option.bind_eq_bind, Option.bind_eq_some_iff, exists_resolve,
    Option.some.injEq] at h
  obtain ⟨hp, node, hnode, rfl⟩ := h
  exact ⟨hp, node, hnode, node?_setNode_self (v := none) (hasParent_of_node? hnode),
    fun r hr => agreesAt_setNode (v := none) hr.symm, hasDir_setNode (v := none), rfl⟩

variable {p : Path}

@[simp] lemma removals_addDir : (fs.addDir p mode).removals = fs.removals := by
  unfold addDir
  split <;> rfl

lemma makeDir?_effect (h : fs.makeDir? text mode = some fs') :
    Named text ∧ fs.hasDir (pathOf text) = false ∧ fs'.hasDir (pathOf text) = true ∧
      (∀ r, r ≠ pathOf text → AgreesAt r fs fs') ∧ fs'.removals = fs.removals := by
  obtain ⟨hp, ⟨hpar, -, hdir⟩, rfl⟩ := makeDir?_eq_some.mp h
  refine ⟨hp, hdir, by simp [hasDir_addDir hpar], fun r hr => ⟨node?_addDir hdir, ?_⟩,
    removals_addDir⟩
  simp [hasDir_addDir hpar, hr]

lemma renameDir?_effect (h : fs.renameDir? source target = some fs') :
    ∃ p q, resolve source = some p ∧ resolve target = some q ∧ fs.hasDir p = true ∧
      fs.node? q = none ∧ (∀ name, fs'.node? (q ++ [name]) = fs.node? (p ++ [name])) ∧
      (∀ rest, fs'.hasDir (q ++ rest) = fs.hasDir (p ++ rest)) ∧
      (∀ r, ¬ p <+: r → ¬ q <+: r → AgreesAt r fs fs') ∧ fs'.node? q = none ∧
      fs'.removals = fs.removals := by
  simp only [renameDir?, Option.bind_eq_bind, Option.bind_eq_some_iff] at h
  obtain ⟨p, hp, q, hq, h⟩ := h
  split at h
  · rename_i hpl
    obtain ⟨⟨hdir, -, hnone⟩, hmov⟩ := Option.ite_none_right_eq_some.mp h
    cases hmov
    have hne : q ≠ [] := by simpa [hasParent] using (Bool.and_eq_true_iff.mp hpl.1).1
    -- an entry is looked up in its directory, so it moves when that does
    have hent : ∀ r, ¬ q <+: r.dropLast → ¬ p <+: r.dropLast →
        (fs.moveTree p q hpl.1 hpl.2).node? r = fs.node? r := by
      intro r hqr hpr
      simp only [node?, moveTree, if_neg hqr, if_neg hpr]
    refine ⟨p, q, hp, hq, hdir, hnone, ?_, ?_, ?_, ?_, rfl⟩
    · intro name
      simp [node?, moveTree]
    · intro rest
      simp [hasDir, moveTree]
    · intro r hpr hqr
      refine ⟨hent r (fun hd => hqr (hd.trans (List.dropLast_prefix r)))
        (fun hd => hpr (hd.trans (List.dropLast_prefix r))), ?_⟩
      simp only [hasDir, moveTree, if_neg hqr, if_neg hpr]
    · rw [hent q ?_ ?_, hnone]
      · intro hd
        have := hd.length_le
        rw [List.length_dropLast] at this
        have := List.length_pos_of_ne_nil hne
        omega
      · exact fun hd => hpl.2 (hd.trans (List.dropLast_prefix q))
  · cases h

lemma removeTree?_effect (h : fs.removeTree? text = some fs') :
    (∀ r, ¬ pathOf text <+: r → AgreesAt r fs fs') ∧
      fs'.removals = .tree (pathOf text) :: fs.removals := by
  simp only [removeTree?, Option.bind_eq_bind, Option.bind_eq_some_iff, exists_resolve] at h
  obtain ⟨-, h⟩ := h
  split at h
  · cases h
    refine ⟨fun r hpr => ?_, rfl⟩
    have hpr' : ¬ pathOf text <+: r.dropLast := fun hd => hpr (hd.trans (List.dropLast_prefix r))
    simp only [AgreesAt, node?, hasDir, if_neg hpr, if_neg hpr', and_self]
  · cases h

lemma ensureDir_eq_some (h : ensureDir mode fs p = some fs') :
    fs'.hasDir p = true ∧ (∀ q, fs'.node? q = fs.node? q) ∧
      (∀ q, fs.hasDir q = true → fs'.hasDir q = true) ∧
      ∀ q, q ≠ p → fs'.hasDir q = fs.hasDir q := by
  unfold ensureDir at h
  split at h
  · rename_i hdir
    cases h
    exact ⟨hdir, fun _ => rfl, fun _ h => h, fun _ _ => rfl⟩
  · rename_i hdir
    split at h
    · rename_i hfree
      cases h
      refine ⟨by simp [hasDir_addDir hfree.1], fun q => node?_addDir (by simpa using hdir), ?_, ?_⟩
      · intro q hq
        simp [hasDir_addDir hfree.1, hq]
      · intro q hq
        simp [hasDir_addDir hfree.1, hq]
    · cases h

lemma ensureDirs_eq_some {ps : List Path} (h : ps.foldlM (ensureDir mode) fs = some fs') :
    (∀ p ∈ ps, fs'.hasDir p = true) ∧ (∀ q, fs'.node? q = fs.node? q) ∧
      (∀ q, fs.hasDir q = true → fs'.hasDir q = true) ∧
      ∀ q, q ∉ ps → fs'.hasDir q = fs.hasDir q := by
  induction ps generalizing fs with
  | nil =>
    cases h
    exact ⟨nofun, fun _ => rfl, fun _ h => h, fun _ _ => rfl⟩
  | cons p ps ih =>
    rw [List.foldlM_cons, Option.bind_eq_bind, Option.bind_eq_some_iff] at h
    obtain ⟨fs1, hfirst, hrest⟩ := h
    obtain ⟨hdir, hnode, hmono, hotr⟩ := ensureDir_eq_some hfirst
    obtain ⟨hdirs, hnod, hmon, hother⟩ := ih hrest
    refine ⟨?_, fun q => (hnod q).trans (hnode q), fun q hq => hmon q (hmono q hq), ?_⟩
    · intro q hq
      rcases List.mem_cons.mp hq with rfl | hq
      · exact hmon q hdir
      · exact hdirs q hq
    · intro q hq
      rw [List.mem_cons, not_or] at hq
      exact (hother q hq.2).trans (hotr q hq.1)

lemma makeDirs?_eq_some (h : fs.makeDirs? text mode = some fs') :
    Named text ∧ fs'.hasDir (pathOf text) = true ∧ (∀ q, fs'.node? q = fs.node? q) ∧
      ∀ q, ¬ q <+: pathOf text → fs'.hasDir q = fs.hasDir q := by
  simp only [makeDirs?, Option.bind_eq_bind, Option.bind_eq_some_iff, exists_resolve] at h
  obtain ⟨hp, hdirs⟩ := h
  obtain ⟨hall, hnode, -, hother⟩ := ensureDirs_eq_some hdirs
  refine ⟨hp, hall _ ((List.mem_inits _ _).mpr List.prefix_rfl), hnode, fun q hq => hother q ?_⟩
  rwa [List.mem_inits]

end Effects

end FileSystem

/-! ## The calls as programs -/

inductive Call where
  | stat
  | read
  | makeDir
  | create
  | write
  | sync
  | rename
  | syncDir
  | replace
  | unlink
  | removeTree
deriving DecidableEq

namespace FileSystem

variable {ε α : Type}

abbrev Prog (ε α : Type) := Program FileSystem Call ε α

section

variable (e : ε) (text : String) (call : Call) (source target : String)

def look (f : FileSystem → Except ε α) (fault : Except ε α) : Prog ε α :=
  .perform call (fun fs => (f fs, fs)) fault (fun _ fs => fs)

def changeWith (e : FileSystem → ε) (fault : ε) (f : FileSystem → Option FileSystem) :
    Prog ε Unit :=
  .perform call (fun fs => ((okOr (f fs) (e fs)).map (fun _ => ()), (f fs).getD fs))
    (.error fault) (fun _ fs => fs)

def change (e : ε) (f : FileSystem → Option FileSystem) : Prog ε Unit :=
  changeWith call (fun _ => e) e f

def existsCall : Prog ε Bool :=
  look .stat (fun fs => .ok (fs.pathExists text)) (.ok false)

def readCall : Prog ε Bytes :=
  look .read (fun fs => okOr (fs.readFile? text) e) (.error e)

def renameCall : Prog ε Unit :=
  change .rename e (fun fs => fs.rename? source target)

def createCall : Prog ε Unit :=
  change .create e (fun fs => fs.createNew? text)

def writeCall (bytes : Bytes) : Prog ε Unit :=
  .perform .write
    (fun fs => ((okOr (fs.appendFile? text bytes) e).map (fun _ => ()),
      (fs.appendFile? text bytes).getD fs))
    (.error e) (fun k fs => (fs.appendFile? text (bytes.take k)).getD fs)

def syncCall : Prog ε Unit := look .sync (fun _ => .ok ()) (.error e)

def syncDirCall : Prog ε Unit :=
  look .syncDir (fun fs => failIf ((resolve text).any fs.hasDir = false) e) (.error e)

def replaceCall (bytes : Bytes) : Prog ε Unit :=
  .perform .replace
    (fun fs => ((okOr (fs.replace? text bytes) e).map (fun _ => ()),
      (fs.replace? text bytes).getD fs))
    (.error e) (fun k fs => if k = 0 then fs else (fs.replace? text bytes).getD fs)

def unlinkCall : Prog ε Unit :=
  change .unlink e (fun fs => fs.unlink? text)

def makeDirCall (mode : Nat) : Prog ε Unit :=
  change .makeDir e (fun fs => fs.makeDir? text mode)

def makeDirsCall (mode : Nat) : Prog ε Unit :=
  change .makeDir e (fun fs => fs.makeDirs? text mode)

def renameDirCall : Prog ε Unit :=
  change .rename e (fun fs => fs.renameDir? source target)

def removeTreeCall : Prog ε Unit :=
  change .removeTree e (fun fs => fs.removeTree? text)

end

/-! ### Their rules -/

variable {R : Nat → Event FileSystem Call → Prop}

section Rules

variable {Q : Post FileSystem ε α} {call : Call} {n : Nat}

lemma wp_look {f : FileSystem → Except ε α} {fault : Except ε α} (hR : ∀ e, R n e → e.meddle = id)
    (hresult : ∀ e, R n e → e.verdict call = .proceed → Q.result (f fs) fs (n + 1))
    (hfault : ∀ e k, R n e → e.verdict call = .fail k → Q.result fault fs (n + 1))
    (hcrash : ∀ e k, R n e → e.verdict call = .crash k → Q.crashed fs) :
    wp R (look call f fault) Q fs n := by
  refine wp_perform ?_ ?_ ?_
  · intro e he hk
    rw [hR e he]
    exact hresult e he hk
  · intro e k he hk
    rw [hR e he]
    exact hfault e k he hk
  · intro e k he hk
    rw [hR e he]
    exact hcrash e k he hk

variable {Q : Post FileSystem ε Unit} {e : ε} {f : FileSystem → Option FileSystem}

section

variable (hR : ∀ e, R n e → e.meddle = id)
  (hdone : ∀ ev fs', R n ev → ev.verdict call = .proceed → f fs = some fs' → Q.done () fs' (n + 1))
  (herror : ∀ ev, R n ev → ev.verdict call = .proceed → f fs = none → Q.failed e fs (n + 1))

include hR hdone herror

lemma wp_update {torn : Nat → FileSystem → FileSystem}
    (hfault : ∀ ev k, R n ev → ev.verdict call = .fail k → Q.failed e (torn k fs) (n + 1))
    (hcrash : ∀ ev k, R n ev → ev.verdict call = .crash k → Q.crashed (torn k fs)) :
    wp R (.perform call (fun fs => ((okOr (f fs) e).map (fun _ => ()), (f fs).getD fs))
      (.error e) torn) Q fs n := by
  refine wp_perform ?_ ?_ ?_
  · intro ev hev hk
    rw [hR ev hev, id]
    cases hf : f fs with
    | none => exact herror ev hev hk hf
    | some fs' => exact hdone ev fs' hev hk hf
  · intro ev k hev hk
    rw [hR ev hev]
    exact hfault ev k hev hk
  · intro ev k hev hk
    rw [hR ev hev]
    exact hcrash ev k hev hk

lemma wp_change (hfault : ∀ ev k, R n ev → ev.verdict call = .fail k → Q.failed e fs (n + 1))
    (hcrash : ∀ ev k, R n ev → ev.verdict call = .crash k → Q.crashed fs) :
    wp R (change call e f) Q fs n := wp_update hR hdone herror hfault hcrash

end

end Rules

/-! ### Their rules among others

`I` is what the others keep before the call, and `spent` what a fault leaves behind. -/

variable {I : FileSystem → Prop}

section Among

variable {call : Call} {n : Nat} {spent : Nat → Prop} {e : ε} {D : α → FileSystem → Nat → Prop}
  (hI : ∀ e, R n e → I (e.meddle fs)) (hfaults : FaultsFrom R n spent)

include hI hfaults

lemma within_perform {act : FileSystem → Except ε α × FileSystem}
    {torn : Nat → FileSystem → FileSystem} {I' : FileSystem → Prop}
    (hact : ∀ fs, I fs → (Post.within D I' spent).result (act fs).1 (act fs).2 (n + 1))
    (htorn : ∀ fs k, I fs → I' (torn k fs)) :
    wp R (.perform call act (.error e) torn) (.within D I' spent) fs n := by
  refine wp_perform ?_ ?_ ?_
  · exact fun ev hev _ => hact _ (hI ev hev)
  · exact fun ev k hev hk =>
      ⟨htorn _ k (hI ev hev), hfaults n ev call le_rfl hev (by simp [hk])⟩
  · exact fun ev k hev hk =>
      ⟨htorn _ k (hI ev hev), _, hfaults n ev call le_rfl hev (by simp [hk])⟩

lemma within_look {f : FileSystem → Except ε α}
    (hdone : ∀ fs a, I fs → f fs = .ok a → D a fs (n + 1))
    (herror : ∀ fs err, I fs → f fs = .error err → spent (n + 1)) :
    wp R (look call f (.error e)) (.within D I spent) fs n :=
  within_perform hI hfaults (fun fs hfs => Post.result_intro (hdone fs · hfs)
    fun err herr => ⟨hfs, herror fs err hfs herr⟩) fun _ _ hfs => hfs

lemma within_stat {f : FileSystem → α} {fallback : α} (hdone : ∀ fs, I fs → D (f fs) fs (n + 1))
    (h : ∀ fs ev k, I fs → R n ev → ev.verdict call = .fail k → spent (n + 1) →
      D fallback fs (n + 1)) :
    wp R (look call (fun fs => (.ok (f fs) : Except ε α)) (.ok fallback)) (.within D I spent) fs
      n := by
  refine wp_perform ?_ ?_ ?_
  · exact fun ev hev _ => hdone _ (hI ev hev)
  · exact fun ev k hev hk =>
      h _ ev k (hI ev hev) hev hk (hfaults n ev call le_rfl hev (by simp [hk]))
  · exact fun ev k hev hk => ⟨hI ev hev, _, hfaults n ev call le_rfl hev (by simp [hk])⟩

variable {D : Unit → FileSystem → Nat → Prop}

lemma within_changeWith {f : FileSystem → Option FileSystem} {error : FileSystem → ε}
    (hdone : ∀ fs fs', I fs → f fs = some fs' → D () fs' (n + 1))
    (herror : ∀ fs, I fs → f fs = none → spent (n + 1)) :
    wp R (changeWith call error e f) (.within D I spent) fs n := by
  refine within_perform hI hfaults (fun fs hfs => ?_) fun _ _ hfs => hfs
  cases hf : f fs with
  | none => exact ⟨hfs, herror fs hfs hf⟩
  | some fs' => exact hdone fs fs' hfs hf

lemma within_replace {text : String} {bytes : Bytes} {I' : FileSystem → Prop}
    (hdone : ∀ fs fs', I fs → fs.replace? text bytes = some fs' → D () fs' (n + 1))
    (herror : ∀ fs, I fs → fs.replace? text bytes = none → spent (n + 1))
    (hleft : ∀ fs fs', I fs → fs' = fs ∨ fs.replace? text bytes = some fs' → I' fs') :
    wp R (replaceCall e text bytes) (.within D I' spent) fs n := by
  have htorn : ∀ (fs : FileSystem) (k : Nat),
      (if k = 0 then fs else (fs.replace? text bytes).getD fs) = fs ∨ fs.replace? text bytes =
          some (if k = 0 then fs else (fs.replace? text bytes).getD fs) := by
    intro fs k
    by_cases hk : k = 0
    · exact .inl (by rw [if_pos hk])
    · rw [if_neg hk]
      cases hfs : fs.replace? text bytes with
      | none => exact .inl rfl
      | some fs' => exact .inr rfl
  refine within_perform hI hfaults (fun fs hfs => ?_) fun fs k hfs => hleft fs _ hfs (htorn fs k)
  cases hf : fs.replace? text bytes with
  | none => exact ⟨hleft fs fs hfs (.inl rfl), herror fs hfs hf⟩
  | some fs' => exact hdone fs fs' hfs hf

end Among

/-! ### Their rules where nobody interferes

A call that does not go through makes `spent` true. -/

section Ends

variable {call : Call} {n : Nat} {spent : Prop} (hR : ∀ n e, R n e → e.meddle = id)
  (hf : ∀ n e label, R n e → e.verdict label ≠ .proceed → spent)

include hR hf

variable {e : ε}

lemma ends_look {f : FileSystem → Except ε α} (hr : ¬ spent → ∃ a, f fs = .ok a) :
    wp R (look call f (.error e)) (.sees (f fs = .ok ·) fs spent) fs n := by
  refine ends_of_within (within_look (fun ev hev => by rw [hR n ev hev]; rfl)
    (fun m ev label _ => hf m ev label) ?_ ?_)
  · rintro fs a rfl ha
    exact ⟨rfl, ha⟩
  · rintro fs err rfl herr
    exact spent_of_error hr herr

lemma ends_stat {f : FileSystem → α} {fault : α}
    (hstat : ∀ n e k, R n e → e.verdict .stat ≠ .fail k) :
    wp R (look .stat (fun fs => (.ok (f fs) : Except ε α)) (.ok fault))
      (.sees (· = f fs) fs spent) fs n := by
  refine ends_of_within (within_stat (fun ev hev => by rw [hR n ev hev]; rfl)
    (fun m ev label _ => hf m ev label) ?_ ?_)
  · rintro fs rfl
    exact ⟨rfl, rfl⟩
  · exact fun fs ev k _ hev hk => absurd hk (hstat n ev k hev)

lemma ends_change {f : FileSystem → Option FileSystem} (hdo : ¬ spent → f fs ≠ none) :
    wp R (change call e f) (.ends (fun _ fs' => f fs = some fs') (· = fs) spent) fs n := by
  refine ends_of_within (within_changeWith (fun ev hev => by rw [hR n ev hev]; rfl)
    (fun m ev label _ => hf m ev label) ?_ ?_)
  · rintro fs fs' rfl hfs
    exact hfs
  · rintro fs rfl hnone
    by_contra h
    exact hdo h hnone

variable {bytes : Bytes}

lemma ends_replace (hdo : ¬ spent → fs.replace? text bytes ≠ none) :
    wp R (replaceCall e text bytes) (.ends (fun _ fs' => fs.replace? text bytes = some fs')
      (fun fs' => fs' = fs ∨ fs.replace? text bytes = some fs') spent) fs n := by
  refine ends_of_within (within_replace (I := (· = fs)) (fun ev hev => by rw [hR n ev hev]; rfl)
    (fun m ev label _ => hf m ev label) ?_ ?_ ?_)
  · rintro fs fs' rfl hfs
    exact hfs
  · rintro fs rfl hnone
    by_contra h
    exact hdo h hnone
  · rintro fs fs' rfl hfs
    exact hfs

lemma ends_write (hdo : ¬ spent → fs.appendFile? text bytes ≠ none) :
    wp R (writeCall e text bytes) (.ends (fun _ fs' => fs.appendFile? text bytes = some fs')
      (fun fs' => fs.appendFile? text bytes = none ∧ fs' = fs ∨ ∃ n e k, R n e ∧
        (e.verdict .write = .fail k ∨ e.verdict .write = .crash k) ∧
        fs.appendFile? text (bytes.take k) = some fs') spent) fs n := by
  refine wp_update (hR n) ?_ ?_ ?_ ?_
  · exact fun ev fs' _ _ hfs => hfs
  · intro ev _ _ hnone
    refine ⟨.inl ⟨hnone, rfl⟩, ?_⟩
    by_contra h
    exact hdo h hnone
  · intro ev k hev hk
    refine ⟨?_, hf n ev .write hev (by simp [hk])⟩
    cases hfs : fs.appendFile? text (bytes.take k) with
    | none => exact .inl ⟨appendFile?_eq_none hfs, rfl⟩
    | some fs' => exact .inr ⟨n, ev, k, hev, .inl hk, hfs⟩
  · intro ev k hev hk
    refine ⟨?_, hf n ev .write hev (by simp [hk])⟩
    cases hfs : fs.appendFile? text (bytes.take k) with
    | none => exact .inl ⟨appendFile?_eq_none hfs, rfl⟩
    | some fs' => exact .inr ⟨n, ev, k, hev, .inr hk, hfs⟩

end Ends

/-! ### What they keep -/

section Invariants

variable {call : Call} (hI : ∀ n e fs, R n e → I fs → I (e.meddle fs))

include hI

lemma keeping_look {f : FileSystem → Except ε α} {fault : Except ε α} :
    Keeping R I (look call f fault) := .perform hI (fun _ h => h) (fun _ _ h => h)

end Invariants

end FileSystem

end Foundation
