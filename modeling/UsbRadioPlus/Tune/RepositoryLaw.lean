import UsbRadioPlus.Tune.RepositoryProtocol

/-!
# One call of an operation of the store

What an operation knows holds of the directory (`Facts`, `Owned`). A call that its protocol allows
keeps that (`effect_perform`): it changes names that were free or that of its own temporary file, and
the configuration; it writes to its own temporary file only (`Rely`). Whatever the configuration may
come back as from a crash stays a complete version of it.
-/

namespace UsbRadioPlus
namespace Tune
namespace Repository

open Rust Sys

/-! ## What holds of a directory -/

section
variable (repo : ConfigRepository)

/-- What is known of the attributes of a temporary file. -/
def Temporary.Fits (t : Temporary) (a : Attrs) : Prop :=
  (∀ owner, t.owner = some owner → (a.owner, a.group) = owner) ∧
    ∀ mode, t.mode = some mode → a.mode = mode

/-- A temporary file is as its operation knows it. -/
structure Owned (d : Directory) (t : Temporary) : Prop where
  name : t.name ≠ repo.configName
  lookup : d.lookup t.name = some t.file
  fresh : t.file < d.next
  data : (d.inodes t.file).data = t.data
  fits : t.Fits (d.inodes t.file).attrs
  stable : t.stable = true → (d.inodes t.file).stable = true
  alone : t.linked = false → ∀ name, d.Refers name t.file → name = t.name

/-- The change `n` bound the configuration to a file of these contents, and none unbound it since. -/
structure BoundTo (d : Directory) (n : Nat) (data : List UInt8) : Prop where
  dated : n < d.clock
  present : n ≤ (d.present repo.configName).stamp
  data : ∀ b ∈ d.bindings repo.configName, n ≤ b.stamp →
    ∃ i, b.inode = some i ∧ (b.stamp = n → (d.inodes i).data = data)

/-- A backup: its name, its file, and what that holds. -/
structure Backup where
  name : Str
  file : Nat
  data : List UInt8
  attrs : Attrs

/-- The backup stands, in a file of its own. -/
structure Backed (d : Directory) (b : Backup) : Prop where
  name : b.name ≠ repo.configName
  lookup : d.lookup b.name = some b.file
  fresh : b.file < d.next
  stable : (d.inodes b.file).stable = true
  data : (d.inodes b.file).data = b.data
  attrs : (d.inodes b.file).attrs = b.attrs
  apart : ¬ d.Refers repo.configName b.file

variable (Complete : List UInt8 → Prop) (Kept : Attrs → Prop)

/-- A complete version of the configuration. -/
def Version (data : List UInt8) (attrs : Attrs) : Prop := Complete data ∧ Kept attrs

/-- What an operation knows, its temporary file apart. -/
structure Facts (d : Directory) (history : Option Nat) (k : Known) : Prop where
  metadata : ∀ a, k.metadata = some a → Kept a
  contents : ∀ bytes, k.contents = some bytes → Complete bytes
  opened : ∀ i, k.opened = some i →
    i < d.next ∧ (d.inodes i).stable = true ∧ Complete (d.inodes i).data
  bound : ∀ data, k.bound = some data → ∃ n, history = some n ∧ BoundTo repo d n data
  synced : k.synced = true → ∀ data n, k.bound = some data → history = some n →
    d.Since n repo.configName
  backup : ∀ name file, k.backup = some (name, file) →
    ∃ data attrs, Version Complete Kept data attrs ∧ Backed repo d ⟨name, file, data, attrs⟩
  settled : k.synced = true → ∀ name file, k.backup = some (name, file) → d.earlier name = []

/-- What a call of another operation may change: `names` and the configuration are bound, to `files`
and to new ones; `files` are written. -/
structure Rely (names : Str → Prop) (files : Nat → Prop) (d d' : Directory) : Prop where
  next : d.next ≤ d'.next
  clock : d.clock ≤ d'.clock
  inodes : ∀ i, i < d.next → ¬ files i → d'.inodes i = d.inodes i
  untouched : ∀ name, name ≠ repo.configName → ¬ names name →
    d'.present name = d.present name ∧ (d.earlier name = [] → d'.earlier name = [])
  bindings : ∀ name, ∀ b ∈ d'.bindings name, b ∈ d.bindings name ∨
    d.clock ≤ b.stamp ∧ ∀ i, b.inode = some i → files i ∨ d.next ≤ i
  bound : ∀ b ∈ d'.bindings repo.configName, b ∈ d.bindings repo.configName ∨ b.inode ≠ none
  present : (d.present repo.configName).stamp ≤ (d'.present repo.configName).stamp

end

section
variable {repo : ConfigRepository} {Complete : List UInt8 → Prop} {Kept : Attrs → Prop}
  {names : Str → Prop} {files : Nat → Prop} {d d' : Directory} {k : Known} {t : Temporary}
  {history : Option Nat}

theorem Rely.refl : Rely repo names files d d :=
  ⟨Nat.le_refl _, Nat.le_refl _, fun _ _ _ => rfl, fun _ _ _ => ⟨rfl, id⟩, fun _ _ h => .inl h,
    fun _ h => .inl h, Nat.le_refl _⟩

/-- A name comes to refer to written and to new files only. -/
theorem Rely.refers (h : Rely repo names files d d') {name : Str} {i : Nat}
    (hi : d'.Refers name i) : d.Refers name i ∨ files i ∨ d.next ≤ i := by
  obtain ⟨b, hb, hbi⟩ := hi
  rcases h.bindings name b hb with hold | ⟨-, hnew⟩
  · exact .inl ⟨b, hold, hbi⟩
  · exact .inr (hnew i hbi)

theorem Rely.since (h : Rely repo names files d d') {n : Nat} {name : Str}
    (hn : d.Since n name) (hclock : n ≤ d.clock) : d'.Since n name := by
  intro b hb
  rcases h.bindings name b hb with hold | ⟨hnew, -⟩
  · exact hn b hold
  · omega

theorem Rely.lookup (h : Rely repo names files d d') {name : Str} (hne : name ≠ repo.configName)
    (hname : ¬ names name) : d'.lookup name = d.lookup name :=
  congrArg Binding.inode (h.untouched name hne hname).1

theorem Owned.rely (hr : Rely repo names files d d') (h : Owned repo d t) (hname : ¬ names t.name)
    (hfile : ¬ files t.file) : Owned repo d' t := by
  have hinode := hr.inodes t.file h.fresh hfile
  refine ⟨h.name, (hr.lookup h.name hname).trans h.lookup, Nat.lt_of_lt_of_le h.fresh hr.next,
    by rw [hinode]; exact h.data, by rw [hinode]; exact h.fits, by rw [hinode]; exact h.stable,
    fun halone name hi => ?_⟩
  rcases hr.refers hi with hold | hwritten | hnew
  · exact h.alone halone name hold
  · exact absurd hwritten hfile
  · exact absurd h.fresh (Nat.not_lt.mpr hnew)

theorem Owned.rely_sync (h : Owned repo d t) : Owned repo d.syncEntries t :=
  ⟨h.name, h.lookup, h.fresh, h.data, h.fits, h.stable,
    fun halone name hi => h.alone halone name hi.of_syncEntries⟩

theorem BoundTo.rely (hr : Rely repo names files d d') {n : Nat} {data : List UInt8}
    (h : BoundTo repo d n data)
    (hconfig : ∀ i, d.Refers repo.configName i → i < d.next ∧ ¬ files i) :
    BoundTo repo d' n data := by
  refine ⟨Nat.lt_of_lt_of_le h.dated hr.clock, Nat.le_trans h.present hr.present,
    fun b hb hstamp => ?_⟩
  rcases hr.bindings _ b hb with hold | ⟨hnew, -⟩
  · obtain ⟨i, hi, hdata⟩ := h.data b hold hstamp
    obtain ⟨hlt, hfile⟩ := hconfig i ⟨b, hold, hi⟩
    exact ⟨i, hi, by rw [hr.inodes i hlt hfile]; exact hdata⟩
  · have hdated := h.dated
    rcases hr.bound b hb with hold | hbound
    · obtain ⟨i, hi, hdata⟩ := h.data b hold hstamp
      exact ⟨i, hi, fun heq => absurd heq (by omega)⟩
    · obtain ⟨i, hi⟩ := Option.ne_none_iff_exists'.mp hbound
      exact ⟨i, hi, fun heq => absurd heq (by omega)⟩

theorem Backed.rely (hr : Rely repo names files d d') {b : Backup} (h : Backed repo d b)
    (hname : ¬ names b.name) (hfile : ¬ files b.file) : Backed repo d' b := by
  have hinode := hr.inodes b.file h.fresh hfile
  refine ⟨h.name, (hr.lookup h.name hname).trans h.lookup, Nat.lt_of_lt_of_le h.fresh hr.next,
    by rw [hinode]; exact h.stable, by rw [hinode]; exact h.data, by rw [hinode]; exact h.attrs,
    fun hi => ?_⟩
  rcases hr.refers hi with hold | hwritten | hnew
  · exact h.apart hold
  · exact hfile hwritten
  · exact absurd h.fresh (Nat.not_lt.mpr hnew)

theorem Rely.trans {d'' : Directory} (h : Rely repo names files d d')
    (h' : Rely repo names files d' d'') : Rely repo names files d d'' := by
  refine ⟨Nat.le_trans h.next h'.next, Nat.le_trans h.clock h'.clock, fun i hi hfile => ?_,
    fun name hne hname => ?_, fun name b hb => ?_, fun b hb => ?_,
    Nat.le_trans h.present h'.present⟩
  · rw [h'.inodes i (Nat.lt_of_lt_of_le hi h.next) hfile, h.inodes i hi hfile]
  · obtain ⟨hpresent, hearlier⟩ := h.untouched name hne hname
    obtain ⟨hpresent', hearlier'⟩ := h'.untouched name hne hname
    exact ⟨hpresent'.trans hpresent, fun he => hearlier' (hearlier he)⟩
  · rcases h'.bindings name b hb with hb | ⟨hstamp, hnew⟩
    · exact h.bindings name b hb
    · exact .inr ⟨Nat.le_trans h.clock hstamp,
        fun i hi => (hnew i hi).imp_right (Nat.le_trans h.next)⟩
  · exact (h'.bound b hb).elim (h.bound b) .inr

/-- Binding a name that may be bound, to a file that may be. -/
theorem rely_rebind (hdated : d.Dated) {name : Str} {v : Option Nat}
    (hname : names name ∨ name = repo.configName)
    (hv : ∀ i, v = some i → files i ∨ d.next ≤ i) (hbound : name = repo.configName → v ≠ none) :
    Rely repo names files d (d.rebind name v) := by
  refine ⟨Nat.le_refl _, Nat.le_succ _, fun _ _ _ => rfl, fun other hne hother => ?_,
    fun other b hb => ?_, fun b hb => ?_, ?_⟩
  · have hdiff : other ≠ name := by
      rintro rfl
      exact hname.elim hother hne
    have hsame := FileStore.bindings_rebind_ne (s := d) (v := v) hdiff
    exact ⟨(List.cons.inj hsame).1, fun he => (List.cons.inj hsame).2.trans he⟩
  · rcases FileStore.mem_bindings_rebind hb with hb | ⟨-, rfl⟩
    · exact .inl hb
    · exact .inr ⟨Nat.le_refl _, hv⟩
  · rcases FileStore.mem_bindings_rebind hb with hb | ⟨heq, rfl⟩
    · exact .inl hb
    · exact .inr (hbound heq.symm)
  · by_cases hconfig : repo.configName = name
    · rw [← hconfig]
      have hlt := hdated repo.configName _ FileStore.mem_bindings_present
      have hnow : ((d.rebind repo.configName v).present repo.configName).stamp = d.clock := by
        simp [FileStore.rebind]
      omega
    · have hsame := FileStore.bindings_rebind_ne (s := d) (v := v) hconfig
      rw [(List.cons.inj hsame).1]

/-- A file that the operation does not write keeps what is known of it. -/
structure Spares (names : Str → Prop) (files : Nat → Prop) (k : Known) : Prop where
  opened : ∀ i, k.opened = some i → ¬ files i
  backup : ∀ name file, k.backup = some (name, file) → ¬ names name ∧ ¬ files file

theorem Facts.rely (hr : Rely repo names files d d') (h : Facts repo Complete Kept d history k)
    (hs : Spares names files k)
    (hconfig : ∀ i, d.Refers repo.configName i → i < d.next ∧ ¬ files i) :
    Facts repo Complete Kept d' history k where
  metadata := h.metadata
  contents := h.contents
  opened i hi := by
    obtain ⟨hlt, hstable, hdata⟩ := h.opened i hi
    rw [hr.inodes i hlt (hs.opened i hi)]
    exact ⟨Nat.lt_of_lt_of_le hlt hr.next, hstable, hdata⟩
  bound data hdata := by
    obtain ⟨n, hn, hto⟩ := h.bound data hdata
    exact ⟨n, hn, hto.rely hr hconfig⟩
  synced hsynced data n hdata hn := by
    obtain ⟨n', hn', hto⟩ := h.bound data hdata
    obtain rfl : n' = n := Option.some.inj (hn'.symm.trans hn)
    exact hr.since (h.synced hsynced data n' hdata hn) (Nat.le_of_lt hto.dated)
  backup name file hb := by
    obtain ⟨data, attrs, hversion, hbacked⟩ := h.backup name file hb
    exact ⟨data, attrs, hversion, hbacked.rely hr (hs.backup name file hb).1
      (hs.backup name file hb).2⟩
  settled hsynced name file hb := by
    obtain ⟨data, attrs, -, hbacked⟩ := h.backup name file hb
    exact (hr.untouched name hbacked.name (hs.backup name file hb).1).2
      (h.settled hsynced name file hb)

end

/-! ## The effect of a call -/

section
variable (repo : ConfigRepository) (Complete : List UInt8 → Prop) (Kept : Attrs → Prop)
  (Absent : Prop)

/-- The configuration may come back as complete versions only, and as nothing only where it may be
absent. -/
structure Intact (d : Directory) : Prop where
  dated : d.Dated
  used : ∀ name i, d.Refers name i → i < d.next
  sound : d.Sound (Version Complete Kept) repo.configName
  present : ¬ Absent → ∀ b ∈ d.bindings repo.configName, b.inode ≠ none

/-- The names that an operation may bind. -/
def Touches (d : Directory) (k : Known) (name : Str) : Prop :=
  d.lookup name = none ∨ ∃ t, k.temporary = some t ∧ t.name = name

/-- The files that an operation may write, or bind a second name to. -/
def Writes (k : Known) (i : Nat) : Prop :=
  ∃ t, k.temporary = some t ∧ t.linked = false ∧ t.file = i

/-- An operation and the directory in front of a call. -/
structure Local (d : Directory) (history : Option Nat) (k : Known) : Prop where
  intact : Intact repo Complete Kept Absent d
  facts : Facts repo Complete Kept d history k
  owned : ∀ t, k.temporary = some t → Owned repo d t
  opened : ∀ i, k.opened = some i → ¬ Writes k i
  backup : ∀ name file t, k.backup = some (name, file) → k.temporary = some t → t.name ≠ name

/-- The history of an operation behind a call. -/
def boundAfter (d d' : Directory) (history : Option Nat) : Option Nat :=
  if d'.present repo.configName = d.present repo.configName then history
  else some (d'.present repo.configName).stamp

/-- What a call does to the directory and to the knowledge of its operation. -/
structure Effect (d d' : Directory) (history : Option Nat) (k k' : Known) : Prop where
  rely : Rely repo (Touches d k) (Writes k) d d'
  intact : Intact repo Complete Kept Absent d'
  facts : Facts repo Complete Kept d' (boundAfter repo d d' history) k'
  owned : ∀ t, k'.temporary = some t → Owned repo d' t
  temporary : ∀ t', k'.temporary = some t' →
    (∃ t, k.temporary = some t ∧ t.name = t'.name ∧ t.file = t'.file ∧
      (t'.linked = false → t.linked = false)) ∨
    d.lookup t'.name = none ∧ d.next ≤ t'.file
  opened : ∀ i, k'.opened = some i → k.opened = some i ∨ d.Refers repo.configName i
  backup : ∀ name file, k'.backup = some (name, file) →
    k.backup = some (name, file) ∨
      d.lookup name = none ∧ ∃ t, k'.temporary = some t ∧ t.name ≠ name ∧ t.linked = true

end

section
variable {repo : ConfigRepository} {Complete : List UInt8 → Prop} {Kept : Attrs → Prop}
  {Absent : Prop} {d d' : Directory} {history : Option Nat} {k k' : Known} {t : Temporary}

/-- What the configuration refers to is written by no operation. -/
theorem Local.config (h : Local repo Complete Kept Absent d history k) :
    ∀ i, d.Refers repo.configName i → i < d.next ∧ ¬ Writes k i := by
  rintro i hi
  refine ⟨(h.intact.sound i hi).1, ?_⟩
  rintro ⟨t, ht, halone, rfl⟩
  have howned := h.owned t ht
  exact howned.name (howned.alone halone _ hi).symm

theorem Local.spares (h : Local repo Complete Kept Absent d history k) :
    Spares (Touches d k) (Writes k) k := by
  refine ⟨h.opened, fun name file hb => ?_⟩
  obtain ⟨data, attrs, -, hbacked⟩ := h.facts.backup name file hb
  refine ⟨?_, ?_⟩
  · rintro (hfree | ⟨t, ht, hname⟩)
    · exact absurd (hbacked.lookup.symm.trans hfree) (by simp)
    · exact h.backup name file t hb ht hname
  · rintro ⟨t, ht, halone, hfile⟩
    have howned := h.owned t ht
    refine h.backup name file t hb ht (howned.alone halone name ?_).symm
    rw [hfile]
    exact FileStore.refers_lookup hbacked.lookup

theorem boundAfter_of_eq (h : d'.present repo.configName = d.present repo.configName) :
    boundAfter repo d d' history = history := if_pos h

/-- A call that binds nothing: the facts that hold in front of it hold behind it. -/
theorem Local.facts_rely (h : Local repo Complete Kept Absent d history k)
    (hr : Rely repo (Touches d k) (Writes k) d d')
    (hpresent : d'.present repo.configName = d.present repo.configName) :
    Facts repo Complete Kept d' (boundAfter repo d d' history) k := by
  rw [boundAfter_of_eq hpresent]
  exact h.facts.rely hr h.spares h.config

theorem Local.effect_refl (h : Local repo Complete Kept Absent d history k) :
    Effect repo Complete Kept Absent d d history k k where
  rely := .refl
  intact := h.intact
  facts := h.facts_rely .refl rfl
  owned := h.owned
  temporary t ht := .inl ⟨t, ht, rfl, rfl, id⟩
  opened _ hi := .inl hi
  backup _ _ hb := .inl hb

/-- A call that answers and changes nothing: the operation learns of the configuration. -/
theorem Local.effect_learn (h : Local repo Complete Kept Absent d history k)
    (htemporary : k'.temporary = k.temporary) (hbound : k'.bound = k.bound)
    (hbackup : k'.backup = k.backup) (hsynced : k'.synced = k.synced)
    (hmetadata : ∀ a, k'.metadata = some a → Kept a)
    (hcontents : ∀ bytes, k'.contents = some bytes → Complete bytes)
    (hopened : ∀ i, k'.opened = some i → k.opened = some i ∨ d.Refers repo.configName i) :
    Effect repo Complete Kept Absent d d history k k' where
  rely := .refl
  intact := h.intact
  facts :=
    { metadata := hmetadata
      contents := hcontents
      opened := fun i hi => (hopened i hi).elim (h.facts.opened i) fun hrefers =>
        have hs := h.intact.sound i hrefers
        ⟨hs.1, hs.2.1, hs.2.2.1⟩
      bound := by rw [boundAfter_of_eq rfl, hbound]; exact h.facts.bound
      synced := by rw [boundAfter_of_eq rfl, hbound, hsynced]; exact h.facts.synced
      backup := by rw [hbackup]; exact h.facts.backup
      settled := by rw [hbackup, hsynced]; exact h.facts.settled }
  owned := by rw [htemporary]; exact h.owned
  temporary t ht := .inl ⟨t, htemporary ▸ ht, rfl, rfl, id⟩
  opened := hopened
  backup _ _ hb := .inl (hbackup ▸ hb)

theorem Known.changing_of (ht : k.temporary = some t) (f : Temporary → Temporary) :
    k.changing f = k.holding (f t) := by
  simp only [Known.changing, Known.holding, ht, Option.map_some]

/-- A call that changes the temporary file. -/
theorem Local.effect_change (h : Local repo Complete Kept Absent d history k)
    (ht : k.temporary = some t) (halone : t.linked = false) {file : Inode UInt8 Attrs}
    {f : Temporary → Temporary} (hname : (f t).name = t.name) (hfile : (f t).file = t.file)
    (hdata : file.data = (f t).data) (hfits : (f t).Fits file.attrs)
    (hstable : (f t).stable = true → file.stable = true) :
    Effect repo Complete Kept Absent d (d.change t.file file) history k (k.changing f) := by
  have howned := h.owned t ht
  have hwrites : Writes k t.file := ⟨t, ht, halone, rfl⟩
  have hrely : Rely repo (Touches d k) (Writes k) d (d.change t.file file) :=
    ⟨Nat.le_refl _, Nat.le_refl _,
      fun i _ hi => FileStore.inodes_change_ne file (by rintro rfl; exact hi hwrites),
      fun _ _ _ => ⟨rfl, id⟩, fun _ _ hb => .inl hb, fun _ hb => .inl hb, Nat.le_refl _⟩
  have hfacts := h.facts_rely hrely rfl
  rw [Known.changing_of ht]
  refine ⟨hrely, ⟨h.intact.dated, h.intact.used, h.intact.sound.change ?_ file,
    h.intact.present⟩, ?_, ?_, ?_, fun _ hi => .inl hi, fun _ _ hb => .inl hb⟩
  · exact fun hi => (h.config _ hi).2 hwrites
  · exact ⟨hfacts.1, hfacts.2, hfacts.3, hfacts.4, hfacts.5, hfacts.6, hfacts.7⟩
  · rintro _ ⟨⟩
    refine ⟨hname ▸ howned.name, ?_, hfile ▸ howned.fresh, ?_, ?_, ?_, fun _ name hi => ?_⟩
    · rw [hname, hfile]
      exact howned.lookup
    · rw [hfile, FileStore.inodes_change_self]
      exact hdata
    · rw [hfile, FileStore.inodes_change_self]
      exact hfits
    · rw [hfile, FileStore.inodes_change_self]
      exact hstable
    · rw [hname]
      exact howned.alone halone name (hfile ▸ hi)
  · rintro _ ⟨⟩
    exact .inl ⟨t, ht, hname.symm, hfile.symm, fun _ => halone⟩

/-- The call for the attributes of the temporary file. -/
theorem Local.effect_fileMetadata (h : Local repo Complete Kept Absent d history k)
    (ht : k.temporary = some t) {a : Attrs} (ha : (d.inodes t.file).attrs = a) :
    Effect repo Complete Kept Absent d d history k
      (k.changing fun t => { t with owner := some (a.owner, a.group), mode := some a.mode }) := by
  have howned := h.owned t ht
  have hfacts := h.facts_rely .refl rfl
  rw [Known.changing_of ht]
  refine ⟨.refl, h.intact, ⟨hfacts.1, hfacts.2, hfacts.3, hfacts.4, hfacts.5, hfacts.6, hfacts.7⟩,
    ?_, ?_, fun _ hi => .inl hi, fun _ _ hb => .inl hb⟩
  · rintro _ ⟨⟩
    refine ⟨howned.name, howned.lookup, howned.fresh, howned.data, ?_, howned.stable, howned.alone⟩
    rw [ha]
    exact ⟨fun _ ho => Option.some.inj ho, fun _ hm => Option.some.inj hm⟩
  · rintro _ ⟨⟩
    exact .inl ⟨t, ht, rfl, rfl, id⟩

theorem Intact.rebind (h : Intact repo Complete Kept Absent d) {name : Str} {v : Option Nat}
    (hused : ∀ i, v = some i → i < d.next)
    (hversion : name = repo.configName → ∃ i, v = some i ∧ (d.inodes i).stable = true ∧
      Version Complete Kept (d.inodes i).data (d.inodes i).attrs) :
    Intact repo Complete Kept Absent (d.rebind name v) := by
  refine ⟨h.dated.rebind, fun other i hi => ?_, h.sound.rebind fun heq i hi => ?_,
    fun habsent b hb => ?_⟩
  · exact (FileStore.refers_rebind hi).elim (h.used other i) fun hv => hused i hv.2
  · obtain ⟨j, hj, hstable, hv⟩ := hversion heq.symm
    obtain rfl : j = i := Option.some.inj (hj.symm.trans hi)
    exact ⟨hused j hi, hstable, hv⟩
  · rcases FileStore.mem_bindings_rebind hb with hb | ⟨heq, rfl⟩
    · exact h.present habsent b hb
    · obtain ⟨j, hj, -⟩ := hversion heq.symm
      simp [hj]

theorem Local.effect_createNew (h : Local repo Complete Kept Absent d history k) {name : Str}
    (hname : name ≠ repo.configName) (hfree : d.lookup name = none) (attrs : Attrs) :
    Effect repo Complete Kept Absent d (d.create name attrs) history k
      (k.holding (.new name d.next)) := by
  have hsame {other : Str} (hne : other ≠ name) :
      (d.create name attrs).bindings other = d.bindings other :=
    FileStore.bindings_rebind_ne (s := d.change d.next ⟨[], attrs, false⟩) hne
  have hmem {other : Str} {b : Binding} (hb : b ∈ (d.create name attrs).bindings other) :
      b ∈ d.bindings other ∨ other = name ∧ b = ⟨d.clock, some d.next⟩ :=
    FileStore.mem_bindings_rebind (s := d.change d.next ⟨[], attrs, false⟩) hb
  have hinode (i : Nat) (hi : i < d.next) : (d.create name attrs).inodes i = d.inodes i :=
    FileStore.inodes_change_ne _ (Nat.ne_of_lt hi)
  have hpresent : (d.create name attrs).present repo.configName = d.present repo.configName :=
    (List.cons.inj (hsame hname.symm)).1
  have hrely : Rely repo (Touches d k) (Writes k) d (d.create name attrs) := by
    refine ⟨Nat.le_succ _, Nat.le_succ _, fun i hi _ => hinode i hi, fun other _ hother => ?_,
      fun other b hb => ?_, fun b hb => .inl ((hmem hb).resolve_right fun hnew => hname hnew.1.symm),
      Nat.le_of_eq (congrArg Binding.stamp hpresent.symm)⟩
    · have hne : other ≠ name := by
        rintro rfl
        exact hother (.inl hfree)
      have hother := hsame hne
      exact ⟨(List.cons.inj hother).1, fun he => (List.cons.inj hother).2.trans he⟩
    · rcases hmem hb with hb | ⟨-, rfl⟩
      · exact .inl hb
      · exact .inr ⟨Nat.le_refl _, fun i hi => .inr (Nat.le_of_eq (Option.some.inj hi))⟩
  have hrefers {other : Str} {i : Nat} (hi : (d.create name attrs).Refers other i) :
      d.Refers other i ∨ other = name ∧ i = d.next := by
    obtain ⟨b, hb, hbi⟩ := hi
    rcases hmem hb with hb | ⟨hother, rfl⟩
    · exact .inl ⟨b, hb, hbi⟩
    · exact .inr ⟨hother, (Option.some.inj hbi).symm⟩
  refine ⟨hrely, ⟨fun other b hb => ?_, fun other i hi => ?_, fun i hi => ?_, fun habsent b hb => ?_⟩,
    ?_, ?_, ?_, fun _ hi => .inl hi, fun _ _ hb => .inl hb⟩
  · rcases hmem hb with hb | ⟨-, rfl⟩
    · exact Nat.lt_succ_of_lt (h.intact.dated other b hb)
    · exact Nat.lt_succ_self _
  · rcases hrefers hi with hi | ⟨-, rfl⟩
    · exact Nat.lt_succ_of_lt (h.intact.used other i hi)
    · exact Nat.lt_succ_self _
  · have hold := (hrefers hi).resolve_right fun hnew => hname hnew.1.symm
    have hsound := h.intact.sound i hold
    rw [hinode i hsound.1]
    exact ⟨Nat.lt_succ_of_lt hsound.1, hsound.2⟩
  · exact h.intact.present habsent b ((hmem hb).resolve_right fun hnew => hname hnew.1.symm)
  · have := h.facts_rely hrely hpresent
    exact ⟨this.1, this.2, this.3, this.4, this.5, this.6, this.7⟩
  · rintro _ ⟨⟩
    have hnew : (d.create name attrs).inodes d.next = ⟨[], attrs, false⟩ :=
      FileStore.inodes_change_self _
    refine ⟨hname, FileStore.lookup_rebind_self, Nat.lt_succ_self _, congrArg Inode.data hnew,
      ⟨nofun, nofun⟩, nofun, fun _ other hi => ?_⟩
    exact (hrefers hi).elim (fun hold => absurd (h.intact.used _ _ hold) (Nat.lt_irrefl _))
      fun hother => hother.1
  · rintro _ ⟨⟩
    exact .inr ⟨hfree, Nat.le_refl _⟩

/-- A file whose known attributes are those of the configuration. -/
theorem Temporary.Copies.kept (hcopies : t.Copies k) (hk : ∀ a, k.metadata = some a → Kept a)
    {attrs : Attrs} (hfits : t.Fits attrs) : Kept attrs := by
  obtain ⟨a, ha, howner, hmode⟩ := hcopies
  obtain ⟨hownerEq, hgroupEq⟩ := Prod.mk.inj (hfits.1 _ howner)
  have hmodeEq := hfits.2 _ hmode
  obtain ⟨owner, group, mode⟩ := attrs
  obtain ⟨owner', group', mode'⟩ := a
  obtain ⟨rfl, rfl, rfl⟩ : owner = owner' ∧ group = group' ∧ mode = mode' :=
    ⟨hownerEq, hgroupEq, hmodeEq⟩
  exact hk _ ha

/-- What a ready temporary file holds is complete. -/
theorem Temporary.Ready.complete {operation : Operation} (hready : t.Ready operation k)
    (hk : ∀ bytes, k.contents = some bytes → Complete bytes)
    (hoperation : ∀ text, operation = .writeAtomic text → Complete text.bytes) :
    Complete t.data := by
  rcases hready.data with hcontents | ⟨text, rfl, hdata⟩
  · exact hk _ hcontents
  · exact hdata ▸ hoperation text rfl

/-- The configuration, bound to the temporary file. -/
theorem Local.bind_config (h : Local repo Complete Kept Absent d history k)
    (ht : k.temporary = some t) (halone : t.linked = false) (hstable : t.stable = true)
    (hcomplete : Complete t.data) (hkept : Kept (d.inodes t.file).attrs) :
    Rely repo (Touches d k) (Writes k) d (d.rebind repo.configName (some t.file)) ∧
      Intact repo Complete Kept Absent (d.rebind repo.configName (some t.file)) ∧
      BoundTo repo (d.rebind repo.configName (some t.file)) d.clock t.data := by
  have howned := h.owned t ht
  refine ⟨rely_rebind h.intact.dated (.inr rfl) ?_ nofun, h.intact.rebind ?_ fun _ => ?_,
    Nat.lt_succ_self _, ?_, fun b hb hstamp => ?_⟩
  · rintro _ ⟨⟩
    exact .inl ⟨t, ht, halone, rfl⟩
  · rintro _ ⟨⟩
    exact howned.fresh
  · exact ⟨t.file, rfl, howned.stable hstable, howned.data ▸ hcomplete, hkept⟩
  · simp [FileStore.rebind]
  · rcases FileStore.mem_bindings_rebind hb with hb | ⟨-, rfl⟩
    · exact absurd hstamp (Nat.not_le.mpr (h.intact.dated _ b hb))
    · exact ⟨t.file, rfl, fun _ => howned.data⟩

theorem BoundTo.rebind_ne {n : Nat} {data : List UInt8} (h : BoundTo repo d n data) {name : Str}
    {v : Option Nat} (hname : name ≠ repo.configName) : BoundTo repo (d.rebind name v) n data := by
  have hsame := FileStore.bindings_rebind_ne (s := d) (v := v) hname.symm
  refine ⟨Nat.lt_succ_of_lt h.dated, ?_, fun b hb => h.data b (hsame ▸ hb)⟩
  rw [(List.cons.inj hsame).1]
  exact h.present

/-- The facts behind a call that bound the configuration by the change `d.clock`. -/
theorem Local.facts_bound (h : Local repo Complete Kept Absent d history k)
    (hr : Rely repo (Touches d k) (Writes k) d d') (hsynced : k'.synced = false)
    (hmetadata : k'.metadata = k.metadata) (hcontents : k'.contents = k.contents)
    (hopened : k'.opened = k.opened) (hbackup : k'.backup = k.backup) {data : List UInt8}
    (hbound : k'.bound = some data) (hto : BoundTo repo d' d.clock data)
    (hstamp : (d'.present repo.configName).stamp = d.clock) :
    Facts repo Complete Kept d' (boundAfter repo d d' history) k' := by
  have hold := h.facts.rely hr h.spares h.config
  have hchanged : boundAfter repo d d' history = some d.clock := by
    rw [boundAfter, if_neg, hstamp]
    intro hsame
    have := h.intact.dated repo.configName _ FileStore.mem_bindings_present
    rw [hsame] at hstamp
    omega
  refine ⟨hmetadata ▸ hold.metadata, hcontents ▸ hold.contents, hopened ▸ hold.opened,
    fun data' hdata' => ?_, fun hs => ?_, hbackup ▸ hold.backup, fun hs => ?_⟩
  · obtain rfl : data' = data := Option.some.inj (hdata'.symm.trans hbound)
    exact ⟨d.clock, hchanged, hto⟩
  · exact absurd hs (by simp [hsynced])
  · exact absurd hs (by simp [hsynced])

theorem Local.effect_rename (h : Local repo Complete Kept Absent d history k)
    (ht : k.temporary = some t) {operation : Operation} (hready : t.Ready operation k)
    (hcopies : t.Copies k) (hsynced : k.synced = false)
    (hoperation : ∀ text, operation = .writeAtomic text → Complete text.bytes) :
    Effect repo Complete Kept Absent d (d.rename t.name repo.configName) history k
      { k with temporary := none, bound := k.temporary.map Temporary.data } := by
  have howned := h.owned t ht
  have hdiff : d.lookup t.name ≠ d.lookup repo.configName := by
    intro hsame
    rw [howned.lookup] at hsame
    exact (h.config _ (FileStore.refers_lookup hsame.symm)).2 ⟨t, ht, hready.alone, rfl⟩
  have heq : d.rename t.name repo.configName =
      (d.rebind repo.configName (some t.file)).rebind t.name none := by
    rw [FileStore.rename, if_neg hdiff, FileStore.unlink, FileStore.link, howned.lookup]
  obtain ⟨hr₁, hi₁, hto₁⟩ := h.bind_config ht hready.alone hready.stable
    (hready.complete h.facts.contents hoperation) (hcopies.kept h.facts.metadata howned.fits)
  have hr₂ : Rely repo (Touches d k) (Writes k) (d.rebind repo.configName (some t.file))
      (d.rename t.name repo.configName) := by
    rw [heq]
    exact rely_rebind hi₁.dated (.inl (.inr ⟨t, ht, rfl⟩))
      (fun _ h => absurd h (Option.some_ne_none _).symm) fun h => absurd h howned.name
  have hpresent : (d.rename t.name repo.configName).present repo.configName =
      ⟨d.clock, some t.file⟩ := by
    rw [heq]
    have hsame := FileStore.bindings_rebind_ne (s := d.rebind repo.configName (some t.file))
      (v := none) howned.name.symm
    rw [(List.cons.inj hsame).1]
    simp [FileStore.rebind]
  refine ⟨hr₁.trans hr₂, ?_, ?_, fun _ h => absurd h (Option.some_ne_none _).symm,
    fun _ h => absurd h (Option.some_ne_none _).symm, fun _ hi => .inl hi, fun _ _ hb => .inl hb⟩
  · rw [heq]
    exact hi₁.rebind (fun _ h => absurd h (Option.some_ne_none _).symm) fun hname => absurd hname howned.name
  · refine h.facts_bound (hr₁.trans hr₂) hsynced rfl rfl rfl rfl (by rw [ht]; rfl)
      ?_ (congrArg Binding.stamp hpresent)
    rw [heq]
    exact hto₁.rebind_ne howned.name

theorem Local.effect_create (h : Local repo Complete Kept Absent d history k)
    (ht : k.temporary = some t) {operation : Operation} (hready : t.Ready operation k)
    (hmode : t.mode = some newConfigMode) (hsynced : k.synced = false)
    (hoperation : ∀ text, operation = .writeAtomic text → Complete text.bytes)
    (hfree : d.lookup repo.configName = none)
    (hcreate : Absent → ∀ a : Attrs, a.mode = newConfigMode → Kept a) :
    Effect repo Complete Kept Absent d (d.link t.name repo.configName) history k
      { k.changing fun t => { t with linked := true } with
        bound := k.temporary.map Temporary.data } := by
  have howned := h.owned t ht
  have habsent : Absent := by
    by_contra hno
    exact h.intact.present hno _ FileStore.mem_bindings_present hfree
  have heq : d.link t.name repo.configName = d.rebind repo.configName (some t.file) := by
    rw [FileStore.link, howned.lookup]
  obtain ⟨hr, hi, hto⟩ := h.bind_config ht hready.alone hready.stable
    (hready.complete h.facts.contents hoperation) (hcreate habsent _ (howned.fits.2 _ hmode))
  rw [heq]
  refine ⟨hr, hi, ?_, fun t' ht' => ?_, fun t' ht' => ?_, fun _ hi => .inl hi, fun _ _ hb => .inl hb⟩
  · exact h.facts_bound hr hsynced rfl rfl rfl rfl (by rw [ht]; rfl) hto (by simp [FileStore.rebind])
  · simp only [Known.changing, ht, Option.map_some] at ht'
    obtain rfl := Option.some.inj ht'
    exact ⟨howned.name, (FileStore.lookup_rebind_ne howned.name).trans howned.lookup, howned.fresh,
      howned.data, howned.fits, howned.stable, fun h => absurd h Bool.false_ne_true.symm⟩
  · simp only [Known.changing, ht, Option.map_some] at ht'
    obtain rfl := Option.some.inj ht'
    exact .inl ⟨t, ht, rfl, rfl, fun h => absurd h Bool.false_ne_true.symm⟩

theorem Local.effect_backup (h : Local repo Complete Kept Absent d history k)
    (ht : k.temporary = some t) {operation : Operation} (hready : t.Ready operation k)
    (hcopies : t.Copies k) (hsynced : k.synced = false)
    (hoperation : ∀ text, operation = .writeAtomic text → Complete text.bytes)
    {destination : Str} (hne : destination ≠ repo.configName)
    (hfree : d.lookup destination = none) :
    Effect repo Complete Kept Absent d (d.link t.name destination) history k
      { k.changing fun t => { t with linked := true } with
        backup := k.temporary.map fun t => (destination, t.file) } := by
  have howned := h.owned t ht
  have hdiff : t.name ≠ destination := by
    rintro rfl
    exact absurd (howned.lookup.symm.trans hfree) (by simp)
  have heq : d.link t.name destination = d.rebind destination (some t.file) := by
    rw [FileStore.link, howned.lookup]
  have hr : Rely repo (Touches d k) (Writes k) d (d.rebind destination (some t.file)) := by
    refine rely_rebind h.intact.dated (.inl (.inl hfree)) ?_ fun h => absurd h hne
    rintro _ ⟨⟩
    exact .inl ⟨t, ht, hready.alone, rfl⟩
  have hpresent : (d.rebind destination (some t.file)).present repo.configName =
      d.present repo.configName :=
    (List.cons.inj (FileStore.bindings_rebind_ne (s := d) hne.symm)).1
  have hi : Intact repo Complete Kept Absent (d.rebind destination (some t.file)) := by
    refine h.intact.rebind ?_ fun hname => absurd hname hne
    rintro _ ⟨⟩
    exact howned.fresh
  have hfacts := h.facts_rely hr hpresent
  rw [heq]
  refine ⟨hr, hi, ⟨hfacts.1, hfacts.2, hfacts.3, hfacts.4, hfacts.5, fun name file hb => ?_,
    fun hs => absurd hs (by simp [Known.changing, hsynced])⟩, fun t' ht' => ?_, fun t' ht' => ?_,
    fun _ hi => .inl hi, fun name file hb => ?_⟩
  · simp only [ht, Option.map_some, Option.some.injEq, Prod.mk.injEq] at hb
    obtain ⟨rfl, rfl⟩ := hb
    refine ⟨t.data, _, ⟨hready.complete h.facts.contents hoperation,
      hcopies.kept h.facts.metadata howned.fits⟩, ?_⟩
    refine ⟨hne, FileStore.lookup_rebind_self, howned.fresh, howned.stable hready.stable,
      howned.data, rfl, fun hrefers => ?_⟩
    rcases FileStore.refers_rebind hrefers with hold | ⟨hconfig, -⟩
    · exact (h.config _ hold).2 ⟨t, ht, hready.alone, rfl⟩
    · exact hne hconfig.symm
  · simp only [Known.changing, ht, Option.map_some] at ht'
    obtain rfl := Option.some.inj ht'
    exact ⟨howned.name, (FileStore.lookup_rebind_ne hdiff).trans howned.lookup, howned.fresh,
      howned.data, howned.fits, howned.stable, nofun⟩
  · simp only [Known.changing, ht, Option.map_some] at ht'
    obtain rfl := Option.some.inj ht'
    exact .inl ⟨t, ht, rfl, rfl, nofun⟩
  · simp only [ht, Option.map_some, Option.some.injEq, Prod.mk.injEq] at hb
    obtain ⟨rfl, rfl⟩ := hb
    exact .inr ⟨hfree, { t with linked := true }, by simp [Known.changing, ht], hdiff, rfl⟩

theorem Local.effect_removeFile (h : Local repo Complete Kept Absent d history k)
    (ht : k.temporary = some t) :
    Effect repo Complete Kept Absent d (d.unlink t.name) history k
      { k with temporary := none } := by
  have howned := h.owned t ht
  have hr : Rely repo (Touches d k) (Writes k) d (d.unlink t.name) :=
    rely_rebind h.intact.dated (.inl (.inr ⟨t, ht, rfl⟩)) nofun fun h => absurd h howned.name
  have hpresent : (d.unlink t.name).present repo.configName = d.present repo.configName :=
    (List.cons.inj (FileStore.bindings_rebind_ne (s := d) howned.name.symm)).1
  have hfacts := h.facts_rely hr hpresent
  exact ⟨hr, h.intact.rebind nofun fun hname => absurd hname howned.name,
    ⟨hfacts.1, hfacts.2, hfacts.3, hfacts.4, hfacts.5, hfacts.6, hfacts.7⟩, nofun, nofun,
    fun _ hi => .inl hi, fun _ _ hb => .inl hb⟩

theorem Local.effect_syncDirectory (h : Local repo Complete Kept Absent d history k) :
    Effect repo Complete Kept Absent d d.syncEntries history k { k with synced := true } := by
  have hr : Rely repo (Touches d k) (Writes k) d d.syncEntries :=
    ⟨Nat.le_refl _, Nat.le_refl _, fun _ _ _ => rfl, fun _ _ _ => ⟨rfl, fun _ => rfl⟩,
      fun _ b hb => .inl (FileStore.mem_of_syncEntries hb ▸ FileStore.mem_bindings_present),
      fun b hb => .inl (FileStore.mem_of_syncEntries hb ▸ FileStore.mem_bindings_present),
      Nat.le_refl _⟩
  have hfacts := h.facts_rely hr rfl
  have hi : Intact repo Complete Kept Absent d.syncEntries :=
    ⟨h.intact.dated.syncEntries, fun name i hi => h.intact.used name i hi.of_syncEntries,
      h.intact.sound.syncEntries, fun habsent b hb => h.intact.present habsent b
        (FileStore.mem_of_syncEntries hb ▸ FileStore.mem_bindings_present)⟩
  refine ⟨hr, hi, ⟨hfacts.1, hfacts.2, hfacts.3, hfacts.4, fun _ data n hdata hn => ?_, hfacts.6,
    fun _ _ _ _ => rfl⟩, fun t ht => (h.owned t ht).rely_sync, fun t ht => .inl ⟨t, ht, rfl, rfl, id⟩,
    fun _ hi => .inl hi, fun _ _ hb => .inl hb⟩
  obtain ⟨n', hn', hto⟩ := hfacts.bound data hdata
  obtain rfl : n' = n := Option.some.inj (hn'.symm.trans hn)
  exact FileStore.Since.syncEntries hto.present

/-! ## Every call that the protocol allows -/

/-- The samples are complete, and so is a text that is written; a new configuration may have any owner
where none stood. -/
structure Offers (env : Environment) (Complete : List UInt8 → Prop) (Kept : Attrs → Prop)
    (Absent : Prop) : Prop where
  samples : ∀ path bytes, env.samples path = some bytes → Complete bytes
  created : Absent → ∀ a : Attrs, a.mode = newConfigMode → Kept a

/-- A call that fails changes nothing, and its operation learns nothing. -/
theorem perform_fault (env : Environment) (process sequence number : Nat) (e : ErrorKind)
    (c : Call) : (perform env process sequence d (some e) number c).2 = d ∧
      after repo k c (perform env process sequence d (some e) number c).1 = k := by
  cases c with
  | createNew | rename | removeFile => simp only [perform]; split <;> exact ⟨rfl, rfl⟩
  | hardLink => simp only [perform]; split <;> exact ⟨rfl, rfl⟩
  | _ => exact ⟨rfl, rfl⟩

/-- **A call that the protocol allows has the effect that the other operations rely on.** -/
theorem Local.effect_perform {env : Environment} (henv : Offers env Complete Kept Absent)
    {operation : Operation} (hoperation : ∀ text, operation = .writeAtomic text → Complete text.bytes)
    (h : Local repo Complete Kept Absent d history k) (process sequence number : Nat)
    (fault : Option ErrorKind) (c : Call) (hmay : may repo operation k c) :
    Effect repo Complete Kept Absent d (perform env process sequence d fault number c).2 history k
      (after repo k c (perform env process sequence d fault number c).1) := by
  cases fault with
  | some e =>
    obtain ⟨hd, hk⟩ := @perform_fault repo d k env process sequence number e c
    rw [hd, hk]
    exact h.effect_refl
  | none =>
    cases c with
    | createDirAll | tryExists | now | processId | fetchAdd | openDirectory => exact h.effect_refl
    | readSample path =>
      simp only [perform, asking, Option.elim_none]
      cases hs : env.samples path with
      | none => exact h.effect_refl
      | some bytes =>
        refine h.effect_learn rfl rfl rfl rfl h.facts.metadata ?_ fun _ hi => .inl hi
        rintro _ ⟨⟩
        exact henv.samples path bytes hs
    | metadata name =>
      obtain rfl : name = repo.configName := hmay
      simp only [perform, asking, Option.elim_none]
      cases hl : d.lookup repo.configName with
      | none => exact h.effect_refl
      | some i =>
        refine h.effect_learn rfl rfl rfl rfl ?_ h.facts.contents fun _ hi => .inl hi
        rintro _ ⟨⟩
        exact (h.intact.sound i (FileStore.refers_lookup hl)).2.2.2
    | openFile name =>
      obtain rfl : name = repo.configName := hmay
      simp only [perform, asking, Option.elim_none]
      cases hl : d.lookup repo.configName with
      | none => exact h.effect_refl
      | some i =>
        refine h.effect_learn rfl rfl rfl rfl h.facts.metadata h.facts.contents ?_
        rintro _ ⟨⟩
        exact .inr (FileStore.refers_lookup hl)
    | readToEnd file =>
      refine h.effect_learn rfl rfl rfl rfl h.facts.metadata ?_ fun _ hi => .inl hi
      rintro _ ⟨⟩
      exact (h.facts.opened file hmay).2.2
    | createNew name =>
      simp only [perform]
      cases hl : d.lookup name with
      | none => exact h.effect_createNew hmay.1 hl _
      | some i => exact h.effect_refl
    | write file buffer =>
      obtain ⟨t, ht, rfl, halone⟩ := hmay
      have hmin : buffer.take (min number buffer.length) = buffer.take number := by simp
      simp only [perform, changing, Option.elim_none, after, hmin]
      exact h.effect_change ht halone rfl rfl
        (congrArg (· ++ buffer.take number) (h.owned t ht).data) (h.owned t ht).fits
        fun h => absurd h Bool.false_ne_true
    | fileMetadata file =>
      obtain ⟨t, ht, rfl, -⟩ := hmay
      exact h.effect_fileMetadata ht rfl
    | fchown file owner group =>
      obtain ⟨t, ht, rfl, halone⟩ := hmay
      exact h.effect_change ht halone rfl rfl (h.owned t ht).data
        ⟨fun _ hp => Option.some.inj hp, (h.owned t ht).fits.2⟩
        fun h => absurd h Bool.false_ne_true
    | setPermissions file mode =>
      obtain ⟨t, ht, rfl, halone⟩ := hmay
      exact h.effect_change ht halone rfl rfl (h.owned t ht).data
        ⟨(h.owned t ht).fits.1, fun _ hp => Option.some.inj hp⟩
        fun h => absurd h Bool.false_ne_true
    | syncAll file =>
      obtain ⟨t, ht, rfl, halone⟩ := hmay
      exact h.effect_change ht halone rfl rfl (h.owned t ht).data (h.owned t ht).fits fun _ => rfl
    | rename source destination =>
      obtain ⟨t, ht, rfl, rfl, -, hready, hcopies, hsynced⟩ := hmay
      simp only [perform, (h.owned t ht).lookup]
      exact h.effect_rename ht hready hcopies hsynced hoperation
    | hardLink source destination =>
      obtain ⟨t, ht, rfl, hready, hlink, hsynced⟩ := hmay
      simp only [perform, (h.owned t ht).lookup]
      cases hl : d.lookup destination with
      | some i => exact h.effect_refl
      | none =>
        rcases hlink with ⟨-, rfl, hmode⟩ | ⟨-, hne, hcopies⟩
        · have := h.effect_create ht hready hmode hsynced hoperation hl henv.created
          simpa only [changing, Option.elim_none, after, if_pos] using this
        · have := h.effect_backup ht hready hcopies hsynced hoperation hne hl
          simpa only [changing, Option.elim_none, after, if_neg hne] using this
    | removeFile name =>
      obtain ⟨t, ht, rfl⟩ := hmay
      simp only [perform, (h.owned t ht).lookup]
      exact h.effect_removeFile ht
    | syncDirectory => exact h.effect_syncDirectory

end

end Repository
end Tune
end UsbRadioPlus
