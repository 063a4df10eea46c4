import XeniaPeer.Foundation.Codes

/-!
# Files behind names

A disk has names, each of which stands for a file or for nothing, and files, each with its bytes. A
file can have more than one name. A file is made under a name that is free, is written at its end
through a handle, and gets a second name by a hard link, again only if that name is free.
-/

namespace Foundation

structure Disk (ν : Type) where
  names : ν → Option Nat
  bytes : Nat → Bytes
  next : Nat
  named : ∀ name file, names name = some file → file < next
  fresh : ∀ file, next ≤ file → bytes file = []

namespace Disk

variable {ν : Type}

def append (disk : Disk ν) (file : Nat) (bytes : Bytes) : Disk ν where
  names := disk.names
  bytes := fun other =>
    if other = file ∧ file < disk.next then disk.bytes file ++ bytes else disk.bytes other
  next := disk.next
  named := disk.named
  fresh := by
    intro other h
    rw [if_neg (by rintro ⟨rfl, hlt⟩; omega)]
    exact disk.fresh other h

lemma bytes_append_self {disk : Disk ν} {file : Nat} (hfile : file < disk.next) (bytes : Bytes) :
    (disk.append file bytes).bytes file = disk.bytes file ++ bytes := if_pos ⟨rfl, hfile⟩

lemma bytes_append_of_ne {disk : Disk ν} {file other : Nat} (hne : other ≠ file)
    (bytes : Bytes) : (disk.append file bytes).bytes other = disk.bytes other :=
  if_neg fun h => hne h.1

variable [DecidableEq ν]

def create (disk : Disk ν) (name : ν) : Disk ν where
  names := Function.update disk.names name (some disk.next)
  bytes := disk.bytes
  next := disk.next + 1
  named := by
    intro other file h
    rw [Function.update_apply] at h
    split at h
    · cases h
      exact Nat.lt_succ_self _
    · exact Nat.lt_succ_of_lt (disk.named other file h)
  fresh := fun file h => disk.fresh file (Nat.le_of_succ_le h)

def link (disk : Disk ν) (file : Nat) (hfile : file < disk.next) (name : ν) : Disk ν where
  names := Function.update disk.names name (some file)
  bytes := disk.bytes
  next := disk.next
  named := by
    intro other file' h
    rw [Function.update_apply] at h
    split at h
    · cases h
      exact hfile
    · exact disk.named other file' h
  fresh := disk.fresh

def unlink (disk : Disk ν) (name : ν) : Disk ν where
  names := Function.update disk.names name none
  bytes := disk.bytes
  next := disk.next
  named := by
    intro other file h
    rw [Function.update_apply] at h
    split at h
    · cases h
    · exact disk.named other file h
  fresh := disk.fresh

/-! ## What the calls change -/

variable (disk : Disk ν) (name : ν) (file : Nat)

@[simp] lemma names_create :
    (disk.create name).names = Function.update disk.names name (some disk.next) := rfl

@[simp] lemma names_link (hfile : file < disk.next) :
    (disk.link file hfile name).names = Function.update disk.names name (some file) := rfl

@[simp] lemma names_unlink :
    (disk.unlink name).names = Function.update disk.names name none := rfl

lemma unlink_create {disk : Disk ν} {name other : ν} (hne : other ≠ name) :
    (disk.create name).unlink other = (disk.unlink other).create name := by
  simp only [create, unlink, mk.injEq, and_true]
  exact Function.update_comm hne.symm ..

/-! ## Changes about one file -/

structure Touches (file : Nat) (disk disk' : Disk ν) : Prop where
  bytes : ∀ other, other ≠ file → disk'.bytes other = disk.bytes other
  names : ∀ name, disk'.names name ≠ disk.names name →
    (disk.names name = none ∨ disk.names name = some file) ∧
      (disk'.names name = none ∨ disk'.names name = some file)

variable {disk} {disk' disk'' : Disk ν} {name} {file}

omit [DecidableEq ν] in
lemma Touches.refl (file : Nat) (disk : Disk ν) : Touches file disk disk :=
  ⟨fun _ _ => rfl, fun _ h => absurd rfl h⟩

omit [DecidableEq ν] in
lemma Touches.trans (h : Touches file disk disk') (h' : Touches file disk' disk'') :
    Touches file disk disk'' := by
  refine ⟨fun other hne => (h'.bytes other hne).trans (h.bytes other hne), fun name hne => ?_⟩
  by_cases hfirst : disk'.names name = disk.names name
  · have hsec := h'.names name (hfirst ▸ hne)
    exact ⟨hfirst ▸ hsec.1, hsec.2⟩
  · by_cases hsec : disk''.names name = disk'.names name
    · exact ⟨(h.names name hfirst).1, hsec ▸ (h.names name hfirst).2⟩
    · exact ⟨(h.names name hfirst).1, (h'.names name hsec).2⟩

omit [DecidableEq ν] in
lemma touches_append (bytes : Bytes) : Touches file disk (disk.append file bytes) :=
  ⟨fun _ hne => bytes_append_of_ne hne bytes, fun _ h => absurd rfl h⟩

lemma touches_update {value : Option Nat}
    (hbytes : disk'.bytes = disk.bytes) (hnames : disk'.names = Function.update disk.names name value)
    (hbefore : disk.names name = none ∨ disk.names name = some file)
    (hafter : value = none ∨ value = some file) : Touches file disk disk' := by
  refine ⟨fun other _ => by rw [hbytes], fun other hne => ?_⟩
  rcases eq_or_ne other name with rfl | hother
  · rw [hnames, Function.update_self]
    exact ⟨hbefore, hafter⟩
  · rw [hnames, Function.update_of_ne hother] at hne
    exact absurd rfl hne

lemma touches_create (hfree : disk.names name = none) :
    Touches disk.next disk (disk.create name) := touches_update rfl rfl (.inl hfree) (.inr rfl)

lemma touches_link (hfile : file < disk.next) (hfree : disk.names name = none) :
    Touches file disk (disk.link file hfile name) :=
  touches_update rfl rfl (.inl hfree) (.inr rfl)

lemma touches_unlink (hname : disk.names name = some file) :
    Touches file disk (disk.unlink name) := touches_update rfl rfl (.inr hname) (.inl rfl)

omit [DecidableEq ν] in
lemma Touches.names_iff (h : Touches file disk disk') {other : Nat} (hne : other ≠ file)
    (name : ν) : disk'.names name = some other ↔ disk.names name = some other := by
  by_cases hsame : disk'.names name = disk.names name
  · rw [hsame]
  · obtain ⟨hbefore, hafter⟩ := h.names name hsame
    have hnei : ∀ value : Option Nat, value = none ∨ value = some file → value ≠ some other := by
      rintro value (rfl | rfl) heq
      · cases heq
      · exact hne (Option.some.inj heq).symm
    exact ⟨fun h => absurd h (hnei _ hafter), fun h => absurd h (hnei _ hbefore)⟩

end Disk

end Foundation
