import XeniaPeer.Foundation.Codes

/-!
# A directory of inodes

One directory as the calls of several processes see it. A name is an entry that leads to an inode,
and the bytes belong to the inode: two names can share one, and a process that has opened an inode
keeps reading it whatever becomes of the name.
-/

namespace Foundation

structure InodeDir (ν : Type) where
  entries : ν → Option Nat
  bytes : Nat → Bytes
  next : Nat
  bounded : ∀ name i, entries name = some i → i < next

namespace InodeDir

variable {ν : Type} [DecidableEq ν]

def empty : InodeDir ν := ⟨fun _ => none, fun _ => [], 0, nofun⟩

def holds (d : InodeDir ν) (name : ν) : Option Bytes := (d.entries name).map d.bytes

omit [DecidableEq ν] in
lemma holds_eq_some {d : InodeDir ν} {name : ν} {b : Bytes} :
    d.holds name = some b ↔ ∃ i, d.entries name = some i ∧ d.bytes i = b := by
  simp [holds]

section

variable (d : InodeDir ν)

def create (name : ν) : InodeDir ν where
  entries := Function.update d.entries name (some d.next)
  bytes := Function.update d.bytes d.next []
  next := d.next + 1
  bounded := by
    intro other i h
    rw [Function.update_apply] at h
    split at h
    · have := Option.some.inj h
      omega
    · have := d.bounded other i h
      omega

def append (i : Nat) (b : Bytes) : InodeDir ν :=
  { d with bytes := Function.update d.bytes i (d.bytes i ++ b) }

def setEntry (name : ν) (entry : Option Nat) (h : ∀ i, entry = some i → i < d.next) : InodeDir ν where
  entries := Function.update d.entries name entry
  bytes := d.bytes
  next := d.next
  bounded := by
    intro other i hi
    rw [Function.update_apply] at hi
    split at hi
    · exact h i hi
    · exact d.bounded other i hi

def link (old new : ν) : InodeDir ν :=
  d.setEntry new (d.entries old) (d.bounded old)

def unlink (name : ν) : InodeDir ν :=
  d.setEntry name none nofun

def rename (old new : ν) : InodeDir ν := (d.link old new).unlink old

/-- The directory with other entries and bytes, as far as the entries lead to its inodes. -/
def restored (entries : ν → Option Nat) (bytes : Nat → Bytes) : InodeDir ν where
  entries name := (entries name).filter (fun i => decide (i < d.next))
  bytes := bytes
  next := d.next
  bounded := by
    intro name i h
    simpa using (Option.filter_eq_some_iff.mp h).2

end

variable {d : InodeDir ν} {name other old new : ν} {i j : Nat} {b : Bytes}

@[simp] lemma create_entries_self : (d.create name).entries name = some d.next :=
  Function.update_self ..

@[simp] lemma create_entries_ne (h : other ≠ name) :
    (d.create name).entries other = d.entries other := Function.update_of_ne h ..

@[simp] lemma create_bytes_self : (d.create name).bytes d.next = [] := Function.update_self ..

@[simp] lemma create_bytes_ne (h : i ≠ d.next) : (d.create name).bytes i = d.bytes i :=
  Function.update_of_ne h ..

omit [DecidableEq ν] in
@[simp] lemma append_entries : (d.append i b).entries = d.entries := rfl

omit [DecidableEq ν] in
@[simp] lemma append_bytes_self : (d.append i b).bytes i = d.bytes i ++ b :=
  Function.update_self ..

omit [DecidableEq ν] in
@[simp] lemma append_bytes_ne (h : j ≠ i) : (d.append i b).bytes j = d.bytes j :=
  Function.update_of_ne h ..

omit [DecidableEq ν] in
/-- An inode that holds the beginning of some contents, with the next part of them appended. -/
lemma append_bytes_take {contents : Bytes} {written n : Nat}
    (h : d.bytes i = contents.take written) :
    (d.append i ((contents.drop written).take n)).bytes i =
      contents.take (written + ((contents.drop written).take n).length) := by
  rw [append_bytes_self, h, List.length_take, List.take_add (j := min _ _), ← List.take_eq_take_min]

/-- The beginning of some bytes, with the next part of them read. -/
lemma prefix_append_take {got : Bytes} {n : Nat} (h : got <+: b) :
    got ++ (b.drop got.length).take n <+: b := by
  obtain ⟨rest, rfl⟩ := h
  rw [List.drop_left]
  exact (List.prefix_append_right_inj got).mpr (List.take_prefix ..)

@[simp] lemma link_bytes : (d.link old new).bytes = d.bytes := rfl

@[simp] lemma link_entries_self : (d.link old new).entries new = d.entries old :=
  Function.update_self ..

@[simp] lemma link_entries_ne (h : other ≠ new) :
    (d.link old new).entries other = d.entries other := Function.update_of_ne h ..

@[simp] lemma unlink_bytes : (d.unlink name).bytes = d.bytes := rfl

@[simp] lemma unlink_entries_ne (h : other ≠ name) :
    (d.unlink name).entries other = d.entries other := Function.update_of_ne h ..

end InodeDir

end Foundation
