import Mathlib.Data.List.Dedup
import Mathlib.Data.Vector.Basic
import Mathlib.Algebra.Order.Ring.Nat
import XeniaPeer.Foundation.Checks

/-!
# Byte codes that can be read back

A field encoding is a *prefix code* on a set `S` when an encoded value of `S` can be cut off the
front of any byte string in one way only (`PrefixCodeOn`). Prefix codes compose by concatenation, so
that a message layout is injective as soon as each of its fields is a prefix code and the last one
is injective.
-/

namespace Foundation

abbrev Bytes := List UInt8

abbrev FixedBytes (n : Nat) := List.Vector UInt8 n

-- Membership in a list of keys or digests then decides by one named instance everywhere.
instance lawfulBEqDigest : LawfulBEq (FixedBytes 32) := inferInstance

def FixedBytes.ofBytes? (n : Nat) (b : Bytes) : Option (FixedBytes n) :=
  if h : b.length = n then some ⟨b, h⟩ else none

variable {n : Nat} {b : Bytes}

@[simp] lemma FixedBytes.ofBytes?_eq_some {v : FixedBytes n} :
    FixedBytes.ofBytes? n b = some v ↔ v.toList = b := by
  unfold FixedBytes.ofBytes?
  constructor
  · intro h
    split at h
    · cases h
      rfl
    · cases h
  · rintro rfl
    rw [dif_pos v.toList_length]
    rfl

def utf8 (s : String) : Bytes := s.toByteArray.data.toList

lemma utf8_injective : Function.Injective utf8 := by
  intro s t h
  have hdata : s.toByteArray.data = t.toByteArray.data := Array.toList_inj.mp h
  exact String.toByteArray_inj.mp (ByteArray.ext hdata)

def fromUtf8 (b : Bytes) : Option String := String.fromUTF8? ⟨b.toArray⟩

lemma fromUtf8_eq_some {s : String} : fromUtf8 b = some s ↔ utf8 s = b := by
  unfold fromUtf8 String.fromUTF8?
  constructor
  · intro h
    split at h
    · cases h
      rfl
    · cases h
  · rintro rfl
    have hval : (⟨(utf8 s).toArray⟩ : ByteArray).IsValidUTF8 := s.isValidUTF8
    rw [dif_pos hval]
    rfl

/-- Two lower-case digits for each byte. -/
def lowerHex (b : Bytes) : String :=
  String.ofList (b.flatMap (fun x => [Nat.digitChar (x.toNat / 16), Nat.digitChar (x.toNat % 16)]))

/-! ## Fixed-width numbers -/

def leBytes : Nat → Nat → Bytes
  | 0, _ => []
  | w + 1, n => UInt8.ofNat (n % 256) :: leBytes w (n / 256)

def beBytes (w n : Nat) : Bytes := (leBytes w n).reverse

@[simp] lemma leBytes_length (w n : Nat) : (leBytes w n).length = w := by
  induction w generalizing n with
  | zero => rfl
  | succ w ih => simp [leBytes, ih]

@[simp] lemma beBytes_length (w n : Nat) : (beBytes w n).length = w := by
  simp [beBytes]

lemma leBytes_injOn (w : Nat) : Set.InjOn (leBytes w) {n | n < 256 ^ w} := by
  induction w with
  | zero =>
    intro n hn m hm _
    simp only [pow_zero, Set.mem_ofPred_eq] at hn hm
    omega
  | succ w ih =>
    intro n hn m hm h
    simp only [pow_succ, Set.mem_ofPred_eq] at hn hm
    simp only [leBytes, List.cons.injEq] at h
    have hlow : n % 256 = m % 256 := by
      have := congrArg UInt8.toNat h.1
      simpa using this
    have hhigh : n / 256 = m / 256 :=
      ih (Nat.div_lt_of_lt_mul (by omega)) (Nat.div_lt_of_lt_mul (by omega)) h.2
    omega

lemma beBytes_injOn (w : Nat) : Set.InjOn (beBytes w) {n | n < 256 ^ w} := by
  intro n hn m hm h
  exact leBytes_injOn w hn hm (List.reverse_injective h)

def natOfLe : Bytes → Nat
  | [] => 0
  | b :: bs => b.toNat + 256 * natOfLe bs

def natOfBe (b : Bytes) : Nat := natOfLe b.reverse

lemma natOfLe_leBytes (w n : Nat) : natOfLe (leBytes w n) = n % 256 ^ w := by
  induction w generalizing n with
  | zero => rw [pow_zero, Nat.mod_one, leBytes, natOfLe]
  | succ w ih =>
    rw [leBytes, natOfLe, ih, pow_succ, Nat.mul_comm (256 ^ w), Nat.mod_mul]
    simp

lemma natOfLe_lt (b : Bytes) : natOfLe b < 256 ^ b.length := by
  induction b with
  | nil => simp [natOfLe]
  | cons x b ih =>
    have hx := x.toNat_lt
    rw [natOfLe, List.length_cons, pow_succ]
    omega

lemma leBytes_natOfLe (b : Bytes) : leBytes b.length (natOfLe b) = b := by
  induction b with
  | nil => rfl
  | cons x b ih =>
    have hx := x.toNat_lt
    have hlow : (x.toNat + 256 * natOfLe b) % 256 = x.toNat := by omega
    have hhigh : (x.toNat + 256 * natOfLe b) / 256 = natOfLe b := by omega
    rw [natOfLe, List.length_cons, leBytes, hlow, hhigh, ih, UInt8.ofNat_toNat]

lemma natOfBe_beBytes {w : Nat} (h : n < 256 ^ w) : natOfBe (beBytes w n) = n := by
  rw [natOfBe, beBytes, List.reverse_reverse, natOfLe_leBytes, Nat.mod_eq_of_lt h]

/-! ## Prefix codes -/

def PrefixCodeOn {α β : Type} (S : Set α) (enc : α → List β) : Prop :=
  ∀ a ∈ S, ∀ b ∈ S, ∀ s t, enc a ++ s = enc b ++ t → a = b ∧ s = t

section PrefixCodes

variable {α β γ : Type} {S : Set α} {T : Set γ} {enc : α → List β} {enc' : γ → List β}

lemma PrefixCodeOn.injOn (h : PrefixCodeOn S enc) : Set.InjOn enc S := by
  intro a ha b hb hab
  exact (h a ha b hb [] [] (by rw [hab])).1

lemma prefixCodeOn_of_length {n : Nat} (hlen : ∀ a ∈ S, (enc a).length = n)
    (hinj : Set.InjOn enc S) : PrefixCodeOn S enc := by
  intro a ha b hb s t h
  obtain ⟨hab, hst⟩ := List.append_inj h ((hlen a ha).trans (hlen b hb).symm)
  exact ⟨hinj ha hb hab, hst⟩

lemma PrefixCodeOn.comp (h : PrefixCodeOn S enc) {f : γ → α} (hmaps : Set.MapsTo f T S)
    (hinj : Set.InjOn f T) : PrefixCodeOn T (fun c => enc (f c)) := by
  intro c hc d hd s t heq
  obtain ⟨hfeq, hst⟩ := h _ (hmaps hc) _ (hmaps hd) s t heq
  exact ⟨hinj hc hd hfeq, hst⟩

variable {N : Set Nat} {len : Nat → List β}

lemma PrefixCodeOn.lengthPrefixed (h : PrefixCodeOn N len) :
    PrefixCodeOn {bs : List β | bs.length ∈ N} (fun bs => len bs.length ++ bs) := by
  intro a ha b hb s t heq
  simp only [List.append_assoc] at heq
  obtain ⟨hlen, hrest⟩ := h _ ha _ hb _ _ heq
  exact List.append_inj hrest hlen

lemma PrefixCodeOn.option (h : PrefixCodeOn S enc) (present absent : β) (hne : present ≠ absent) :
    PrefixCodeOn {o : Option α | ∀ a ∈ o, a ∈ S}
      (fun o => match o with
        | some a => present :: enc a
        | none => [absent]) := by
  intro o ho o' ho' s t heq
  cases o with
  | none =>
    cases o' with
    | none => exact ⟨rfl, by simpa using heq⟩
    | some b =>
      simp only [List.cons_append, List.cons.injEq] at heq
      exact absurd heq.1.symm hne
  | some a =>
    cases o' with
    | none =>
      simp only [List.cons_append, List.cons.injEq] at heq
      exact absurd heq.1 hne
    | some b =>
      simp only [List.cons_append, List.cons.injEq] at heq
      obtain ⟨hab, hst⟩ := h a (ho a rfl) b (ho' b rfl) s t heq.2
      exact ⟨congrArg some hab, hst⟩

variable {s t : List β}

lemma PrefixCodeOn.flatMap_inj (h : PrefixCodeOn S enc) {xs ys : List α} (hxs : ∀ x ∈ xs, x ∈ S)
    (hys : ∀ y ∈ ys, y ∈ S) (hlen : xs.length = ys.length)
    (heq : xs.flatMap enc ++ s = ys.flatMap enc ++ t) : xs = ys ∧ s = t := by
  induction xs generalizing ys with
  | nil =>
    have hnil : ys = [] := List.length_eq_zero_iff.mp hlen.symm
    subst hnil
    exact ⟨rfl, heq⟩
  | cons x xs ih =>
    cases ys with
    | nil => cases hlen
    | cons y ys =>
      simp only [List.flatMap_cons, List.append_assoc] at heq
      obtain ⟨hxy, hrest⟩ := h x (hxs x (by simp)) y (hys y (by simp)) _ _ heq
      obtain ⟨htail, hst⟩ := ih (fun a ha => hxs a (List.mem_cons_of_mem _ ha))
        (fun a ha => hys a (List.mem_cons_of_mem _ ha)) (by simpa using hlen) hrest
      exact ⟨by rw [hxy, htail], hst⟩

lemma PrefixCodeOn.list (h : PrefixCodeOn S enc) (hlen : PrefixCodeOn N len) :
    PrefixCodeOn {xs : List α | xs.length ∈ N ∧ ∀ x ∈ xs, x ∈ S}
      (fun xs => len xs.length ++ xs.flatMap enc) := by
  intro xs hxs ys hys s t heq
  simp only [List.append_assoc] at heq
  obtain ⟨hcount, hrest⟩ := hlen _ hxs.1 _ hys.1 _ _ heq
  exact h.flatMap_inj hxs.2 hys.2 hcount hrest

lemma append_cancel_header {tag sep schema sep' : List β}
    (h : tag ++ (sep ++ (schema ++ (sep' ++ s))) = tag ++ (sep ++ (schema ++ (sep' ++ t)))) :
    s = t := List.append_cancel_left (List.append_cancel_left
    (List.append_cancel_left (List.append_cancel_left h)))

lemma append_ne_of_not_prefix {d d' : List β} (h : ¬ d <+: d') (h' : ¬ d' <+: d)
    (s t : List β) : d ++ s ≠ d' ++ t := by
  intro heq
  rcases List.prefix_or_prefix_of_prefix (List.prefix_append d s)
    (heq ▸ List.prefix_append d' t) with hd | hd
  · exact h hd
  · exact h' hd

end PrefixCodes

/-! ## The codes of the standard field types -/

lemma prefixCodeOn_fixedBytes (n : Nat) :
    PrefixCodeOn Set.univ (List.Vector.toList : FixedBytes n → Bytes) :=
  prefixCodeOn_of_length (n := n) (fun a _ => a.toList_length) (List.Vector.toList_injective.injOn)

lemma prefixCodeOn_leBytes (w : Nat) : PrefixCodeOn {n | n < 256 ^ w} (leBytes w) :=
  prefixCodeOn_of_length (n := w) (fun _ _ => leBytes_length _ _) (leBytes_injOn w)

lemma prefixCodeOn_beBytes (w : Nat) : PrefixCodeOn {n | n < 256 ^ w} (beBytes w) :=
  prefixCodeOn_of_length (n := w) (fun _ _ => beBytes_length _ _) (beBytes_injOn w)

def u16Le (n : UInt16) : Bytes := leBytes 2 n.toNat

def u32Le (n : UInt32) : Bytes := leBytes 4 n.toNat

def u64Le (n : UInt64) : Bytes := leBytes 8 n.toNat

def u64Be (n : UInt64) : Bytes := beBytes 8 n.toNat

lemma prefixCodeOn_u64Le : PrefixCodeOn Set.univ u64Le :=
  (prefixCodeOn_leBytes 8).comp (fun n _ => n.toNat_lt) (fun _ _ _ _ h => UInt64.toNat_inj.mp h)

lemma prefixCodeOn_u64Be : PrefixCodeOn Set.univ u64Be :=
  (prefixCodeOn_beBytes 8).comp (fun n _ => n.toNat_lt) (fun _ _ _ _ h => UInt64.toNat_inj.mp h)

lemma fixedBytes_append_inj {n : Nat} {a b : FixedBytes n} {s t : Bytes} :
    a.toList ++ s = b.toList ++ t ↔ a = b ∧ s = t :=
  ⟨prefixCodeOn_fixedBytes n _ trivial _ trivial _ _, fun ⟨hab, hst⟩ => by rw [hab, hst]⟩

lemma u64Be_append_inj {a b : UInt64} {s t : Bytes} :
    u64Be a ++ s = u64Be b ++ t ↔ a = b ∧ s = t :=
  ⟨prefixCodeOn_u64Be _ trivial _ trivial _ _, fun ⟨hab, hst⟩ => by rw [hab, hst]⟩

variable {α : Type}

lemma injOn_of_nodup_map {β : Type} [DecidableEq α] {f : α → β} {xs : List α}
    (h : (xs.dedup.map f).Nodup) : Set.InjOn f {x | x ∈ xs} := by
  intro x hx y hy hxy
  exact List.inj_on_of_nodup_map h (List.mem_dedup.mpr hx) (List.mem_dedup.mpr hy) hxy

/-! ## Serialisers -/

/-- A binary serialiser of lists: the number of elements comes first, and what is written can be
read back. -/
structure VecFormat (α : Type) where
  serialize : List α → Option Bytes
  deserialize : Bytes → Option (List α)
  length_first : ∀ {xs b}, serialize xs = some b → ∃ rest, b = leBytes 8 xs.length ++ rest
  deserialize_serialize : ∀ {xs b}, serialize xs = some b → deserialize b = some xs

structure TextFormat (α : Type) where
  toVec : α → Option Bytes
  fromSlice : Bytes → Option α
  fromSlice_toVec : ∀ {a b}, toVec a = some b → fromSlice (b ++ [10]) = some a

structure ValueFormat (α : Type) where
  toVec : α → Bytes
  fromSlice : Bytes → Option α
  fromSlice_toVec : ∀ a, fromSlice (toVec a) = some a

lemma ValueFormat.toVec_injective (format : ValueFormat α) : Function.Injective format.toVec := by
  intro a b h
  have hread := congrArg format.fromSlice h
  rwa [format.fromSlice_toVec, format.fromSlice_toVec, Option.some.injEq] at hread

def VecFormat.tabled {α : Type} [DecidableEq α] (table : List (List α)) : VecFormat α where
  serialize xs :=
    if xs ∈ table then some (leBytes 8 xs.length ++ List.replicate (table.idxOf xs) 0) else none
  deserialize b := table[b.length - 8]?
  length_first := by
    intro xs b h
    split at h
    · cases h
      exact ⟨_, rfl⟩
    · cases h
  deserialize_serialize := by
    intro xs b h
    split at h
    · rename_i hmem
      cases h
      simp [List.getElem?_idxOf hmem]
    · cases h

def TextFormat.tabled {α : Type} [DecidableEq α] (table : List α) : TextFormat α where
  toVec a := if a ∈ table then some (List.replicate (table.idxOf a) 48) else none
  fromSlice b := table[b.length - 1]?
  fromSlice_toVec := by
    intro a b h
    split at h
    · rename_i hmem
      cases h
      simp [List.getElem?_idxOf hmem]
    · cases h

def TextFormat.coded {α : Type} [DecidableEq α] (encode : α → Bytes) (decode : Bytes → Option α) :
    TextFormat α where
  toVec a := if decode (encode a) = some a then some (encode a) else none
  fromSlice b := decode b.dropLast
  fromSlice_toVec := by
    intro a b h
    split at h
    · rename_i hdecode
      cases h
      rw [List.dropLast_concat, hdecode]
    · cases h

lemma TextFormat.coded_toVec [DecidableEq α] {encode : α → Bytes} {decode : Bytes → Option α}
    {a : α} (h : decode (encode a) = some a) :
    (TextFormat.coded encode decode).toVec a = some (encode a) := if_pos h

end Foundation
