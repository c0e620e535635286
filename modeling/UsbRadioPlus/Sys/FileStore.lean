import Mathlib.Data.List.Basic
import Mathlib.Logic.Function.Basic

/-!
# One directory of a file system that may crash

A `FileStore P α μ` holds files (inodes) of items of type `α` with attributes of type `μ`, and binds
names of type `P` to them. The operations are those of a system call each, on success.

What is not synchronized may be lost. A file that was not synchronized since it was last changed comes
back from a crash with any items and any attributes. A name that was bound anew since the directory
was last synchronized comes back with one of its bindings since then, each name for itself. Changes of
the directory are numbered (`stamp`), so that bindings can be compared by age.

* `bindings s p`: the bindings of `p` that a crash may bring back, the present one first.
* `Sound Q p s`: each of them is to a synchronized file of `Q`.
* `Since t p s`: each of them has the stamp `t` or a later one.
* `Refers p i s`: one of them is to the file `i`.
-/

namespace Sys

/-- A file. -/
structure Inode (α μ : Type) where
  data : List α
  attrs : μ
  /-- It was synchronized since it was last changed. -/
  stable : Bool

/-- What a name is bound to, and the number of the change that bound it. -/
structure Binding where
  stamp : Nat
  inode : Option Nat
  deriving DecidableEq

/-- The files and the names of one directory. -/
structure FileStore (P α μ : Type) where
  inodes : Nat → Inode α μ
  /-- The first inode that was never used. -/
  next : Nat
  /-- The number of the next change of the directory. -/
  clock : Nat
  present : P → Binding
  /-- The bindings in front of the present one, back to the last synchronization. -/
  earlier : P → List Binding

namespace FileStore

variable {P α μ : Type} (s : FileStore P α μ)

/-- The bindings of a name that a crash may bring back, the present one first. -/
def bindings (p : P) : List Binding := s.present p :: s.earlier p

/-- The file that the running system finds under a name. -/
def lookup (p : P) : Option Nat := (s.present p).inode

/-! ## The operations on files, and the synchronization -/

/-- The file under a number. -/
def change (i : Nat) (file : Inode α μ) : FileStore P α μ :=
  { s with inodes := Function.update s.inodes i file }

/-- Items behind the end of a file. -/
def append (i : Nat) (items : List α) : FileStore P α μ :=
  s.change i { s.inodes i with data := (s.inodes i).data ++ items, stable := false }

/-- The attributes of a file. -/
def setAttrs (i : Nat) (f : μ → μ) : FileStore P α μ :=
  s.change i { s.inodes i with attrs := f (s.inodes i).attrs, stable := false }

/-- `fsync` of a file. -/
def sync (i : Nat) : FileStore P α μ := s.change i { s.inodes i with stable := true }

/-- `fsync` of the directory. -/
def syncEntries : FileStore P α μ := { s with earlier := fun _ => [] }

/-- A crash, and the restart behind it: which of its bindings each name comes back with, and what
the files hold that were not synchronized. -/
def crash (choice : P → Nat) (torn : Nat → List α × μ) : FileStore P α μ :=
  { s with
    inodes := fun i => if (s.inodes i).stable then s.inodes i else ⟨(torn i).1, (torn i).2, true⟩
    present := fun p => (s.bindings p).getD (choice p) (s.present p)
    earlier := fun _ => [] }

/-- A crash may bring back the name for the file. -/
def Refers (p : P) (i : Nat) : Prop := ∃ b ∈ s.bindings p, b.inode = some i

/-- Whatever comes back under the name, it is a synchronized file of `Q`. -/
def Sound (Q : List α → μ → Prop) (p : P) : Prop :=
  ∀ i, s.Refers p i → i < s.next ∧ (s.inodes i).stable ∧ Q (s.inodes i).data (s.inodes i).attrs

/-- What comes back under the name was bound by the change `t` or by a later one. -/
def Since (t : Nat) (p : P) : Prop := ∀ b ∈ s.bindings p, t ≤ b.stamp

/-- The bindings were made by changes in front of the next one. -/
def Dated : Prop := ∀ p, ∀ b ∈ s.bindings p, b.stamp < s.clock

section
variable {s} {p q : P} {i j t : Nat} {Q : List α → μ → Prop}

@[simp] theorem bindings_change (file : Inode α μ) : (s.change i file).bindings q = s.bindings q :=
  rfl

@[simp] theorem lookup_change (file : Inode α μ) : (s.change i file).lookup q = s.lookup q := rfl

@[simp] theorem next_change (file : Inode α μ) : (s.change i file).next = s.next := rfl

@[simp] theorem clock_change (file : Inode α μ) : (s.change i file).clock = s.clock := rfl

theorem inodes_change_self (file : Inode α μ) : (s.change i file).inodes i = file := by
  simp [change]

theorem inodes_change_ne (file : Inode α μ) (h : j ≠ i) :
    (s.change i file).inodes j = s.inodes j := by
  simp [change, h]

theorem bindings_syncEntries : s.syncEntries.bindings q = [s.present q] := rfl

theorem mem_bindings_present : s.present q ∈ s.bindings q := List.mem_cons_self

/-- A crash brings back one of the bindings. -/
theorem bindings_crash (choice : P → Nat) (torn : Nat → List α × μ) (q : P) :
    ∃ b ∈ s.bindings q, (s.crash choice torn).bindings q = [b] := by
  refine ⟨(s.bindings q).getD (choice q) (s.present q), ?_, rfl⟩
  rw [List.getD_eq_getElem?_getD]
  cases h : (s.bindings q)[choice q]? with
  | none => exact mem_bindings_present
  | some b => exact List.mem_of_getElem? h

theorem inodes_crash (choice : P → Nat) (torn : Nat → List α × μ) (h : (s.inodes i).stable) :
    (s.crash choice torn).inodes i = s.inodes i := by
  simp [crash, h]

theorem refers_lookup (h : s.lookup p = some i) : s.Refers p i :=
  ⟨s.present p, mem_bindings_present, h⟩

@[simp] theorem refers_change (file : Inode α μ) : (s.change i file).Refers q j ↔ s.Refers q j :=
  Iff.rfl

theorem mem_of_syncEntries {b : Binding} (h : b ∈ s.syncEntries.bindings q) : b = s.present q := by
  rwa [bindings_syncEntries, List.mem_singleton] at h

theorem mem_of_crash {choice : P → Nat} {torn : Nat → List α × μ} {b : Binding}
    (h : b ∈ (s.crash choice torn).bindings q) : b ∈ s.bindings q := by
  obtain ⟨b', hb', heq⟩ := bindings_crash (s := s) choice torn q
  rw [heq, List.mem_singleton] at h
  exact h ▸ hb'

theorem Refers.of_syncEntries (h : s.syncEntries.Refers q i) : s.Refers q i := by
  obtain ⟨b, hb, hi⟩ := h
  exact ⟨b, mem_of_syncEntries hb ▸ mem_bindings_present, hi⟩

theorem Refers.of_crash {choice : P → Nat} {torn : Nat → List α × μ}
    (h : (s.crash choice torn).Refers q i) : s.Refers q i := by
  obtain ⟨b, hb, hi⟩ := h
  exact ⟨b, mem_of_crash hb, hi⟩

/-- Changing a file that cannot come back under the name keeps the name sound. -/
theorem Sound.change (h : s.Sound Q q) (hi : ¬ s.Refers q i) (file : Inode α μ) :
    (s.change i file).Sound Q q := by
  intro j hj
  have hne : j ≠ i := by rintro rfl; exact hi hj
  rw [inodes_change_ne file hne]
  exact h j hj

theorem Sound.syncEntries (h : s.Sound Q q) : s.syncEntries.Sound Q q :=
  fun i hi => h i hi.of_syncEntries

theorem Sound.crash (h : s.Sound Q q) (choice : P → Nat) (torn : Nat → List α × μ) :
    (s.crash choice torn).Sound Q q := by
  intro i hi
  have hs := h i hi.of_crash
  rw [inodes_crash choice torn hs.2.1]
  exact hs

theorem Since.syncEntries (h : t ≤ (s.present q).stamp) : s.syncEntries.Since t q :=
  fun _ hb => mem_of_syncEntries hb ▸ h

theorem Since.crash (h : s.Since t q) (choice : P → Nat) (torn : Nat → List α × μ) :
    (s.crash choice torn).Since t q :=
  fun b hb => h b (mem_of_crash hb)

theorem Dated.syncEntries (h : s.Dated) : s.syncEntries.Dated :=
  fun q _ hb => mem_of_syncEntries hb ▸ h q _ mem_bindings_present

theorem Dated.crash (h : s.Dated) (choice : P → Nat) (torn : Nat → List α × μ) :
    (s.crash choice torn).Dated :=
  fun q b hb => h q b (mem_of_crash hb)

end

/-! ## The operations on names -/

section
variable [DecidableEq P]

/-- A name for another file, or for none. -/
def rebind (p : P) (v : Option Nat) : FileStore P α μ :=
  { s with
    clock := s.clock + 1
    present := Function.update s.present p ⟨s.clock, v⟩
    earlier := Function.update s.earlier p (s.bindings p) }

/-- `open` with `O_CREAT` and `O_EXCL`, of a name that is not bound. -/
def create (p : P) (attrs : μ) : FileStore P α μ :=
  { (s.change s.next ⟨[], attrs, false⟩).rebind p (some s.next) with next := s.next + 1 }

/-- `link`, to a name that is not bound. -/
def link (p q : P) : FileStore P α μ := s.rebind q (s.lookup p)

/-- A name that is removed. -/
def unlink (p : P) : FileStore P α μ := s.rebind p none

/-- `rename`; of two names for one file it does nothing. -/
def rename (p q : P) : FileStore P α μ :=
  if s.lookup p = s.lookup q then s else (s.link p q).unlink p

variable {s} {p q : P} {i j t : Nat} {v : Option Nat} {b : Binding} {Q : List α → μ → Prop}

theorem bindings_rebind_self : (s.rebind p v).bindings p = ⟨s.clock, v⟩ :: s.bindings p := by
  simp [rebind, bindings]

theorem bindings_rebind_ne (h : q ≠ p) : (s.rebind p v).bindings q = s.bindings q := by
  simp [rebind, bindings, h]

theorem mem_bindings_rebind (h : b ∈ (s.rebind p v).bindings q) :
    b ∈ s.bindings q ∨ q = p ∧ b = ⟨s.clock, v⟩ := by
  by_cases hq : q = p
  · subst hq
    rw [bindings_rebind_self, List.mem_cons] at h
    exact h.symm.imp_right fun h => ⟨rfl, h⟩
  · exact .inl (by rwa [bindings_rebind_ne hq] at h)

theorem lookup_rebind_self : (s.rebind p v).lookup p = v := by simp [rebind, lookup]

theorem lookup_rebind_ne (h : q ≠ p) : (s.rebind p v).lookup q = s.lookup q := by
  simp [rebind, lookup, h]

@[simp] theorem inodes_rebind : (s.rebind p v).inodes = s.inodes := rfl

@[simp] theorem next_rebind : (s.rebind p v).next = s.next := rfl

@[simp] theorem clock_rebind : (s.rebind p v).clock = s.clock + 1 := rfl

theorem refers_rebind (h : (s.rebind p v).Refers q i) : s.Refers q i ∨ q = p ∧ v = some i := by
  obtain ⟨b, hb, hi⟩ := h
  rcases mem_bindings_rebind hb with h | ⟨hq, rfl⟩
  · exact .inl ⟨b, h, hi⟩
  · exact .inr ⟨hq, hi⟩

/-- Binding a name keeps every name sound where the file is synchronized and of `Q`. -/
theorem Sound.rebind (h : s.Sound Q q) (hv : q = p → ∀ i, v = some i →
    i < s.next ∧ (s.inodes i).stable ∧ Q (s.inodes i).data (s.inodes i).attrs) :
    (s.rebind p v).Sound Q q :=
  fun i hi => (refers_rebind hi).elim (h i) fun hp => hv hp.1 i hp.2

theorem Since.rebind (h : s.Since t q) (ht : t ≤ s.clock) : (s.rebind p v).Since t q := by
  intro b hb
  rcases mem_bindings_rebind hb with hb | ⟨-, rfl⟩
  · exact h b hb
  · exact ht

theorem Dated.rebind (h : s.Dated) : (s.rebind p v).Dated := by
  intro q b hb
  rcases mem_bindings_rebind hb with hb | ⟨-, rfl⟩
  · exact Nat.lt_succ_of_lt (h q b hb)
  · exact Nat.lt_succ_self _

end

end FileStore

end Sys
