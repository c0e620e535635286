import UsbRadioPlus.Tune.RepositoryLaw

/-!
# Runs of the store

`Coherent`: what every operation under way knows holds, the operations keep out of each other's way,
and what was promised holds (`Promises`): the backups that were made, and the versions of the
configuration that no crash may undo. Every step keeps it (`Coherent.step`), be it a call, a kill or a
crash. The results are about every run, of any number of processes.
-/

namespace UsbRadioPlus
namespace Tune
namespace Repository

open Rust Sys

/-- The configuration comes back as what the change `n` bound it to, or as something later. -/
structure Lasting (repo : ConfigRepository) (d : Directory) (n : Nat) (data : List UInt8) :
    Prop where
  dated : n < d.clock
  since : d.Since n repo.configName
  data : ∀ b ∈ d.bindings repo.configName,
    ∃ i, b.inode = some i ∧ (b.stamp = n → (d.inodes i).data = data)

/-- What the store has promised: backups, and versions of the configuration by their number. -/
structure Promises where
  backups : Backup → Prop
  versions : Nat → List UInt8 → Prop

/-- The history of an operation, where it is under way. -/
def historyOf (w : World) (id : Nat) : Option Nat := (w.running id).bind Running.bound

section
variable (repo : ConfigRepository) (Complete : List UInt8 → Prop) (Kept : Attrs → Prop)
  (Absent : Prop)

/-- What holds of the directory and of every process. -/
structure Coherent (w : World) (know : Nat → Known) (promises : Promises) : Prop where
  intact : Intact repo Complete Kept Absent w.directory
  idle : ∀ id, w.running id = none → know id = .nothing
  follows : ∀ id r, w.running id = some r →
    r.rest.Follows (protocol repo r.operation) (Ends r.operation) (know id)
  texts : ∀ id r text, w.running id = some r → r.operation = .writeAtomic text →
    Complete text.bytes
  facts : ∀ id, Facts repo Complete Kept w.directory (historyOf w id) (know id)
  owned : ∀ id t, (know id).temporary = some t → Owned repo w.directory t
  apart : ∀ id id' t t', (know id).temporary = some t → (know id').temporary = some t' →
    t.name = t'.name → id = id'
  opened : ∀ id id' i, (know id).opened = some i → ¬ Writes (know id') i
  backup : ∀ id id' name file t, (know id).backup = some (name, file) →
    (know id').temporary = some t → t.name ≠ name
  backups : ∀ b, promises.backups b → Backed repo w.directory b ∧ w.directory.earlier b.name = [] ∧
    ∀ id t, (know id).temporary = some t → t.name ≠ b.name
  versions : ∀ n data, promises.versions n data → Lasting repo w.directory n data

/-- The texts that the operations are given to write are complete. -/
def Given (_ : World) : Label → Prop
  | .start _ _ (.writeAtomic text) => Complete text.bytes
  | _ => True

end

section
variable {repo : ConfigRepository} {Complete : List UInt8 → Prop} {Kept : Attrs → Prop}
  {Absent : Prop} {w w' : World} {know : Nat → Known} {promises : Promises} {env : Environment}
  {d d' : Directory} {history : Option Nat} {k k' : Known} {names : Str → Prop} {files : Nat → Prop}

theorem facts_nothing : Facts repo Complete Kept d history .nothing :=
  ⟨nofun, nofun, nofun, nofun, nofun, nofun, nofun⟩

theorem Lasting.rely {n : Nat} {data : List UInt8} (h : Lasting repo d n data)
    (hr : Rely repo names files d d')
    (hconfig : ∀ i, d.Refers repo.configName i → i < d.next ∧ ¬ files i) :
    Lasting repo d' n data := by
  refine ⟨Nat.lt_of_lt_of_le h.dated hr.clock, hr.since h.since (Nat.le_of_lt h.dated),
    fun b hb => ?_⟩
  rcases hr.bound b hb with hold | hbound
  · obtain ⟨i, hi, hdata⟩ := h.data b hold
    obtain ⟨hlt, hfile⟩ := hconfig i ⟨b, hold, hi⟩
    exact ⟨i, hi, by rw [hr.inodes i hlt hfile]; exact hdata⟩
  · rcases hr.bindings _ b hb with hold | ⟨hnew, -⟩
    · obtain ⟨i, hi, hdata⟩ := h.data b hold
      obtain ⟨hlt, hfile⟩ := hconfig i ⟨b, hold, hi⟩
      exact ⟨i, hi, by rw [hr.inodes i hlt hfile]; exact hdata⟩
    · obtain ⟨i, hi⟩ := Option.ne_none_iff_exists'.mp hbound
      have hdated := h.dated
      exact ⟨i, hi, fun heq => absurd heq (by omega)⟩

/-! ## A call -/

theorem Coherent.local (h : Coherent repo Complete Kept Absent w know promises) (id : Nat) :
    Local repo Complete Kept Absent w.directory (historyOf w id) (know id) :=
  ⟨h.intact, h.facts id, h.owned id, h.opened id id, h.backup id id⟩

/-- What another operation relies on. -/
theorem Coherent.spares (h : Coherent repo Complete Kept Absent w know promises) (id id' : Nat) :
    Spares (Touches w.directory (know id)) (Writes (know id)) (know id') := by
  refine ⟨fun i hi => h.opened id' id i hi, fun name file hb => ?_⟩
  obtain ⟨data, attrs, -, hbacked⟩ := (h.facts id').backup name file hb
  refine ⟨?_, ?_⟩
  · rintro (hfree | ⟨t, ht, hname⟩)
    · exact absurd (hbacked.lookup.symm.trans hfree) (by simp)
    · exact h.backup id' id name file t hb ht hname
  · rintro ⟨t, ht, halone, hfile⟩
    refine h.backup id' id name file t hb ht (((h.owned id t ht).alone halone name ?_).symm)
    rw [hfile]
    exact FileStore.refers_lookup hbacked.lookup

/-- The temporary files of two operations have nothing in common. -/
theorem Coherent.temporaries (h : Coherent repo Complete Kept Absent w know promises)
    {id id' : Nat} (hne : id' ≠ id) {t : Temporary} (ht : (know id').temporary = some t) :
    ¬ Touches w.directory (know id) t.name ∧ ¬ Writes (know id) t.file := by
  have howned := h.owned id' t ht
  refine ⟨?_, ?_⟩
  · rintro (hfree | ⟨t', ht', hname⟩)
    · exact absurd (howned.lookup.symm.trans hfree) (by simp)
    · exact hne (h.apart id' id t t' ht ht' hname.symm)
  · rintro ⟨t', ht', halone, hfile⟩
    have hrefers : w.directory.Refers t.name t'.file := by
      rw [hfile]
      exact FileStore.refers_lookup howned.lookup
    exact hne (h.apart id' id t t' ht ht' ((h.owned id t' ht').alone halone _ hrefers))

/-- What is free in front of a call is no other operation's. -/
theorem Coherent.not_free (h : Coherent repo Complete Kept Absent w know promises) {id : Nat}
    {t : Temporary} (ht : (know id).temporary = some t) {name : Str}
    (hfree : w.directory.lookup name = none) : t.name ≠ name := by
  rintro rfl
  exact absurd ((h.owned id t ht).lookup.symm.trans hfree) (by simp)

section
variable {id : Nat} {r : Running} {rest : Prog Outcome} {sequence : Nat → Nat}

/-- Behind a call of `id`: its temporary file is the one from before, or a new one. -/
theorem Effect.writes
    (he : Effect repo Complete Kept Absent w.directory d' (historyOf w id) (know id) k')
    {id' i : Nat} (hi : Writes (Function.update know id k' id') i) :
    Writes (know id') i ∨ id' = id ∧ w.directory.next ≤ i := by
  by_cases hid : id' = id
  · subst hid
    rw [Function.update_self] at hi
    obtain ⟨t', ht', halone, rfl⟩ := hi
    rcases he.temporary t' ht' with ⟨t, ht, -, hfile, hlinked⟩ | ⟨-, hnew⟩
    · exact .inl ⟨t, ht, hlinked halone, hfile⟩
    · exact .inr ⟨rfl, hnew⟩
  · rw [Function.update_of_ne hid] at hi
    exact .inl hi

/-- Behind a call of `id`, a temporary file stands under its name from before, or under a new one. -/
theorem Effect.temporary_name
    (he : Effect repo Complete Kept Absent w.directory d' (historyOf w id) (know id) k')
    {id' : Nat} {t' : Temporary} (ht' : (Function.update know id k' id').temporary = some t') :
    (∃ t, (know id').temporary = some t ∧ t.name = t'.name) ∨
      id' = id ∧ w.directory.lookup t'.name = none := by
  by_cases hid : id' = id
  · subst hid
    rw [Function.update_self] at ht'
    rcases he.temporary t' ht' with ⟨t, ht, hname, -⟩ | ⟨hfree, -⟩
    · exact .inl ⟨t, ht, hname⟩
    · exact .inr ⟨rfl, hfree⟩
  · rw [Function.update_of_ne hid] at ht'
    exact .inl ⟨t', ht', rfl⟩

/-- **The effect of a call keeps the operations coherent.** -/
theorem Coherent.effect (h : Coherent repo Complete Kept Absent w know promises)
    (hr : w.running id = some r)
    (he : Effect repo Complete Kept Absent w.directory d' (historyOf w id) (know id) k')
    (hrest : rest.Follows (protocol repo r.operation) (Ends r.operation) k') :
    Coherent repo Complete Kept Absent
      ⟨d', sequence, Function.update w.running id (some { r with
        rest := rest, bound := boundAfter repo w.directory d' r.bound })⟩
      (Function.update know id k') promises := by
  have hlocal := h.local id
  refine ⟨he.intact, fun id' hid => ?_, fun id' r' hr' => ?_, fun id' r' text hr' hop => ?_,
    fun id' => ?_, fun id' t ht => ?_, fun id₁ id₂ t₁ t₂ ht₁ ht₂ hname => ?_,
    fun id₁ id₂ i hi hw => ?_, fun id₁ id₂ name file t hb ht => ?_, fun b hb => ?_,
    fun n data hn => (h.versions n data hn).rely he.rely hlocal.config⟩
  · by_cases hdiff : id' = id
    · subst hdiff
      simp at hid
    · simp only [Function.update_of_ne hdiff] at hid ⊢
      exact h.idle id' hid
  · by_cases hdiff : id' = id
    · subst hdiff
      simp only [Function.update_self, Option.some.injEq] at hr' ⊢
      subst hr'
      exact hrest
    · simp only [Function.update_of_ne hdiff] at hr' ⊢
      exact h.follows id' r' hr'
  · by_cases hdiff : id' = id
    · subst hdiff
      simp only [Function.update_self, Option.some.injEq] at hr'
      subst hr'
      exact h.texts id' r text hr hop
    · simp only [Function.update_of_ne hdiff] at hr'
      exact h.texts id' r' text hr' hop
  · by_cases hdiff : id' = id
    · subst hdiff
      have hfacts := he.facts
      simpa [historyOf, hr] using hfacts
    · have hold := (h.facts id').rely he.rely (h.spares id id') hlocal.config
      simpa [historyOf, Function.update_of_ne hdiff] using hold
  · by_cases hdiff : id' = id
    · subst hdiff
      rw [Function.update_self] at ht
      exact he.owned t ht
    · rw [Function.update_of_ne hdiff] at ht
      obtain ⟨hname, hfile⟩ := h.temporaries hdiff ht
      exact (h.owned id' t ht).rely he.rely hname hfile
  · rcases he.temporary_name ht₁ with ⟨t₁', ht₁', h₁⟩ | ⟨rfl, hfree₁⟩ <;>
      rcases he.temporary_name ht₂ with ⟨t₂', ht₂', h₂⟩ | ⟨rfl, hfree₂⟩
    · exact h.apart id₁ id₂ t₁' t₂' ht₁' ht₂' (h₁.trans (hname.trans h₂.symm))
    · exact absurd (h₁.trans hname) (h.not_free ht₁' hfree₂)
    · exact absurd (h₂.trans hname.symm) (h.not_free ht₂' hfree₁)
    · rfl
  · have hold : (know id₁).opened = some i ∨ w.directory.Refers repo.configName i := by
      by_cases hdiff : id₁ = id
      · subst hdiff
        rw [Function.update_self] at hi
        exact he.opened i hi
      · rw [Function.update_of_ne hdiff] at hi
        exact .inl hi
    have hlt : i < w.directory.next :=
      hold.elim (fun ho => ((h.facts id₁).opened i ho).1) fun hc => h.intact.used _ _ hc
    rcases he.writes hw with hw | ⟨-, hnew⟩
    · exact hold.elim (fun ho => h.opened id₁ id₂ i ho hw) fun hc => ((h.local id₂).config i hc).2 hw
    · omega
  · by_cases hnew : (know id₁).backup = some (name, file)
    · rcases he.temporary_name ht with ⟨t', ht', hname⟩ | ⟨-, hfree⟩
      · exact hname ▸ h.backup id₁ id₂ name file t' hnew ht'
      · rintro rfl
        obtain ⟨data, attrs, -, hbacked⟩ := (h.facts id₁).backup _ file hnew
        exact absurd (hbacked.lookup.symm.trans hfree) (by simp)
    · by_cases hdiff : id₁ = id
      · subst hdiff
        rw [Function.update_self] at hb
        obtain ⟨hfree, t', ht', hname', -⟩ := (he.backup name file hb).resolve_left hnew
        rcases he.temporary_name ht with ⟨t'', ht'', hname⟩ | ⟨rfl, -⟩
        · exact hname ▸ h.not_free ht'' hfree
        · rw [Function.update_self] at ht
          obtain rfl := Option.some.inj (ht'.symm.trans ht)
          exact hname'
      · rw [Function.update_of_ne hdiff] at hb
        exact absurd hb hnew
  · obtain ⟨hbacked, hearlier, hnames⟩ := h.backups b hb
    have htouches : ¬ Touches w.directory (know id) b.name := by
      rintro (hfree | ⟨t, ht, hname⟩)
      · exact absurd (hbacked.lookup.symm.trans hfree) (by simp)
      · exact hnames id t ht hname
    have hwrites : ¬ Writes (know id) b.file := by
      rintro ⟨t, ht, halone, hfile⟩
      refine hnames id t ht ((h.owned id t ht).alone halone b.name ?_).symm
      rw [hfile]
      exact FileStore.refers_lookup hbacked.lookup
    refine ⟨hbacked.rely he.rely htouches hwrites,
      (he.rely.untouched b.name hbacked.name htouches).2 hearlier, fun id' t ht => ?_⟩
    rcases he.temporary_name ht with ⟨t', ht', hname⟩ | ⟨-, hfree⟩
    · exact hname ▸ hnames id' t' ht'
    · intro hname
      rw [hname] at hfree
      exact absurd (hbacked.lookup.symm.trans hfree) (by simp)

end

/-! ## Every step -/

theorem Coherent.call (h : Coherent repo Complete Kept Absent w know promises)
    (henv : Offers env Complete Kept Absent) {id number : Nat} {fault : Option ErrorKind}
    (hstep : step repo env w (.call id fault number) = some w') :
    ∃ know', Coherent repo Complete Kept Absent w' know' promises := by
  obtain ⟨r, hr, hexec⟩ := Option.bind_eq_some_iff.mp hstep
  have hfollows := h.follows id r hr
  have hhistory : historyOf w id = r.bound := by simp [historyOf, hr]
  obtain ⟨process, operation, rest, bound⟩ := r
  cases rest with
  | done outcome => cases hexec
  | call c next =>
    obtain ⟨hmay, hnext⟩ := hfollows
    have he := (h.local id).effect_perform henv (fun text => h.texts id _ text hr) process
      (w.sequence process) number fault c hmay
    obtain rfl := Option.some.inj hexec
    exact ⟨_, h.effect hr he (hnext _)⟩

theorem Coherent.start (h : Coherent repo Complete Kept Absent w know promises) {id process : Nat}
    {operation : Operation} (hgiven : ∀ text, operation = .writeAtomic text → Complete text.bytes)
    (hstep : step repo env w (.start id process operation) = some w') :
    ∃ know', Coherent repo Complete Kept Absent w' know' promises := by
  simp only [step] at hstep
  cases hidle : w.running id with
  | some r => simp [hidle] at hstep
  | none =>
    simp only [hidle, Option.some.injEq] at hstep
    subst hstep
    have hnothing := h.idle id hidle
    refine ⟨know, h.intact, fun id' hid => ?_, fun id' r hr => ?_, fun id' r text hr hop => ?_,
      fun id' => ?_, h.owned, h.apart, h.opened, h.backup, h.backups, h.versions⟩
    all_goals by_cases hdiff : id' = id
    · subst hdiff
      exact hnothing
    · simp only [Function.update_of_ne hdiff] at hid
      exact h.idle id' hid
    · subst hdiff
      simp only [Function.update_self, Option.some.injEq] at hr
      subst hr
      rw [hnothing]
      exact follows_program operation
    · simp only [Function.update_of_ne hdiff] at hr
      exact h.follows id' r hr
    · subst hdiff
      simp only [Function.update_self, Option.some.injEq] at hr
      subst hr
      exact hgiven text hop
    · simp only [Function.update_of_ne hdiff] at hr
      exact h.texts id' r text hr hop
    · subst hdiff
      rw [hnothing]
      exact facts_nothing
    · simpa [historyOf, Function.update_of_ne hdiff] using h.facts id'

theorem filter_cases {α : Type} (p : α → Bool) (o : Option α) : o.filter p = none ∨ o.filter p = o := by
  cases o with
  | none => exact .inl rfl
  | some a => cases hp : p a <;> simp [Option.filter, hp]

/-- Operations that end without a further call leave the others coherent. -/
theorem Coherent.fewer (h : Coherent repo Complete Kept Absent w know promises)
    (hdirectory : w'.directory = w.directory)
    (hrunning : ∀ id, w'.running id = none ∨ w'.running id = w.running id) :
    ∃ know', Coherent repo Complete Kept Absent w' know' promises := by
  let know' : Nat → Known := fun id => (w'.running id).elim .nothing fun _ => know id
  have hknow (id : Nat) : know' id = .nothing ∨ know' id = know id := by
    cases hid : w'.running id with
    | none => exact .inl (by simp only [know', hid, Option.elim_none])
    | some r => exact .inr (by simp only [know', hid, Option.elim_some])
  have htemporary {id : Nat} {t : Temporary} (ht : (know' id).temporary = some t) :
      (know id).temporary = some t := by
    rcases hknow id with heq | heq
    · rw [heq] at ht
      cases ht
    · rwa [heq] at ht
  have hrunning' {id : Nat} {r : Running} (hr : w'.running id = some r) :
      w.running id = some r ∧ know' id = know id := by
    refine ⟨?_, by simp only [know', hr, Option.elim_some]⟩
    rcases hrunning id with hnone | hsame
    · simp [hnone] at hr
    · exact hsame ▸ hr
  refine ⟨know', ?_, fun id hid => ?_, fun id r hr => ?_, fun id r text hr => ?_, fun id => ?_,
    fun id t ht => ?_, fun id id' t t' ht ht' => h.apart id id' t t' (htemporary ht) (htemporary ht'),
    fun id id' i hi => ?_, fun id id' name file t hb ht => ?_, fun b hb => ?_, ?_⟩
  · exact hdirectory ▸ h.intact
  · simp only [know', hid, Option.elim_none]
  · obtain ⟨hr, heq⟩ := hrunning' hr
    exact heq ▸ h.follows id r hr
  · exact h.texts id r text (hrunning' hr).1
  · rw [hdirectory]
    cases hid : w'.running id with
    | none =>
      simp only [know', hid, Option.elim_none]
      exact facts_nothing
    | some r =>
      obtain ⟨hr, heq⟩ := hrunning' hid
      have hhistory : historyOf w' id = historyOf w id := by simp [historyOf, hid, hr]
      rw [heq, hhistory]
      exact h.facts id
  · exact hdirectory ▸ h.owned id t (htemporary ht)
  · rintro ⟨t, ht, hw⟩
    rcases hknow id with heq | heq
    · rw [heq] at hi
      cases hi
    · exact h.opened id id' i (heq ▸ hi) ⟨t, htemporary ht, hw⟩
  · rcases hknow id with heq | heq
    · rw [heq] at hb
      cases hb
    · exact h.backup id id' name file t (heq ▸ hb) (htemporary ht)
  · obtain ⟨hbacked, hearlier, hnames⟩ := h.backups b hb
    rw [hdirectory]
    exact ⟨hbacked, hearlier, fun id t ht => hnames id t (htemporary ht)⟩
  · exact hdirectory ▸ h.versions

/-- A crash brings a name that was synchronized back as it was. -/
theorem present_crash {choice : Str → Nat} {torn : Nat → List UInt8 × Attrs} {name : Str}
    (hearlier : d.earlier name = []) : (d.crash choice torn).present name = d.present name := by
  have hmem : (d.crash choice torn).present name ∈ d.bindings name :=
    FileStore.mem_of_crash FileStore.mem_bindings_present
  simpa [FileStore.bindings, hearlier] using hmem

theorem Coherent.crash (h : Coherent repo Complete Kept Absent w know promises)
    (choice : Str → Nat) (torn : Nat → List UInt8 × Attrs) :
    ∃ know', Coherent repo Complete Kept Absent
      ⟨w.directory.crash choice torn, fun _ => 0, fun _ => none⟩ know' promises := by
  refine ⟨fun _ => .nothing, ⟨h.intact.dated.crash choice torn, fun name i hi => ?_,
    h.intact.sound.crash choice torn, fun habsent b hb => ?_⟩, fun _ _ => rfl, nofun, nofun,
    fun _ => facts_nothing, nofun, nofun, nofun, nofun, fun b hb => ?_, fun n data hn => ?_⟩
  · exact h.intact.used name i hi.of_crash
  · exact h.intact.present habsent b (FileStore.mem_of_crash hb)
  · obtain ⟨hbacked, hearlier, -⟩ := h.backups b hb
    have hinode := FileStore.inodes_crash choice torn hbacked.stable
    refine ⟨⟨hbacked.name, ?_, hbacked.fresh, ?_, ?_, ?_, fun hi => hbacked.apart hi.of_crash⟩, rfl,
      nofun⟩
    · exact (congrArg Binding.inode (present_crash hearlier)).trans hbacked.lookup
    · exact hinode ▸ hbacked.stable
    · exact hinode ▸ hbacked.data
    · exact hinode ▸ hbacked.attrs
  · obtain ⟨hdated, hsince, hdata⟩ := h.versions n data hn
    refine ⟨hdated, hsince.crash choice torn, fun b hb => ?_⟩
    have hold := FileStore.mem_of_crash hb
    obtain ⟨i, hi, hdata⟩ := hdata b hold
    refine ⟨i, hi, fun hstamp => ?_⟩
    have hstable := (h.intact.sound i ⟨b, hold, hi⟩).2.1
    exact (congrArg Inode.data (FileStore.inodes_crash choice torn hstable)).trans (hdata hstamp)

/-- **Every step keeps the operations coherent, and what was promised.** -/
theorem Coherent.step (h : Coherent repo Complete Kept Absent w know promises)
    (henv : Offers env Complete Kept Absent) {label : Label} (hgiven : Given Complete w label)
    (hstep : Repository.step repo env w label = some w') :
    ∃ know', Coherent repo Complete Kept Absent w' know' promises := by
  cases label with
  | start id process operation =>
    refine h.start ?_ hstep
    rintro text rfl
    exact hgiven
  | call id fault number => exact h.call henv hstep
  | kill process =>
    obtain rfl := Option.some.inj hstep
    exact h.fewer rfl fun id => filter_cases _ (w.running id)
  | crash choice torn =>
    obtain rfl := Option.some.inj hstep
    exact h.crash choice torn

/-! ## Runs -/

/-- Every step of a run that starts coherent leaves the operations coherent. -/
theorem Coherent.run (henv : Offers env Complete Kept Absent) {init : World → Prop}
    (h : ∃ know, Coherent repo Complete Kept Absent w know promises) {labels : List Label}
    (hgiven : (system repo env init).Meets (Given Complete) w labels)
    (hrun : (system repo env init).run w labels = some w') :
    ∃ know, Coherent repo Complete Kept Absent w' know promises :=
  hgiven.kept (I := fun w => ∃ know, Coherent repo Complete Kept Absent w know promises)
    (fun _ _ _ ⟨_, h⟩ hC hstep => h.step henv hC hstep) h hrun

end

section
variable (repo : ConfigRepository)

/-- A machine on which no operation is under way, with a synchronized configuration or none. -/
structure Begins (w : World) : Prop where
  running : ∀ id, w.running id = none
  dated : w.directory.Dated
  used : ∀ name i, w.directory.Refers name i → i < w.directory.next
  earlier : w.directory.earlier repo.configName = []
  stable : ∀ i, w.directory.lookup repo.configName = some i →
    (w.directory.inodes i).stable = true

variable {repo} {Complete : List UInt8 → Prop} {Kept : Attrs → Prop} {w₀ : World}

theorem Begins.coherent (h : Begins repo w₀)
    (hversion : ∀ i, w₀.directory.lookup repo.configName = some i →
      Version Complete Kept (w₀.directory.inodes i).data (w₀.directory.inodes i).attrs) :
    Coherent repo Complete Kept (w₀.directory.lookup repo.configName = none) w₀
      (fun _ => .nothing) ⟨fun _ => False, fun _ _ => False⟩ := by
  have hbinding {b : Binding} (hb : b ∈ w₀.directory.bindings repo.configName) :
      b = w₀.directory.present repo.configName := by
    simpa [FileStore.bindings, h.earlier] using hb
  refine ⟨⟨h.dated, h.used, fun i hi => ?_, fun habsent b hb => ?_⟩, fun _ _ => rfl,
    fun id r hr => ?_, fun id r _ hr => ?_, fun _ => facts_nothing,
    fun _ t ht => absurd ht (Option.some_ne_none t).symm,
    fun _ _ t _ ht => absurd ht (Option.some_ne_none t).symm,
    fun _ _ i hi => absurd hi (Option.some_ne_none i).symm,
    fun _ _ name file _ hb => absurd hb (Option.some_ne_none (name, file)).symm,
    fun _ => False.elim, fun _ _ => False.elim⟩
  · obtain ⟨b, hb, hbi⟩ := hi
    have hlookup : w₀.directory.lookup repo.configName = some i :=
      (congrArg Binding.inode (hbinding hb)).symm.trans hbi
    exact ⟨h.used _ i (FileStore.refers_lookup hlookup), h.stable i hlookup, hversion i hlookup⟩
  · exact hbinding hb ▸ habsent
  · exact absurd hr (by simp [h.running id])
  · exact absurd hr (by simp [h.running id])

/-- Without a claim on what is complete, every beginning is coherent. -/
theorem Begins.coherent_any (h : Begins repo w₀) :
    ∃ know, Coherent repo (fun _ => True) (fun _ => True)
      (w₀.directory.lookup repo.configName = none) w₀ know ⟨fun _ => False, fun _ _ => False⟩ :=
  ⟨_, h.coherent fun _ _ => ⟨trivial, trivial⟩⟩

end

end Repository
end Tune
end UsbRadioPlus
