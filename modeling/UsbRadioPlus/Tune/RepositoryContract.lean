import UsbRadioPlus.Tune.Menus
import UsbRadioPlus.Tune.RepositoryRun

/-!
# What the store guarantees

Of every run, with any number of processes, failures, kills and crashes:

* the configuration is always a complete version (`configuration_complete`);
* a version that was written with success comes back from every crash, or a later one does
  (`written_lasts`);
* one operation at most creates the configuration, and no creation replaces one (`created_alone`,
  `creation_keeps`);
* a backup that was made with success stays as it is (`backup_lasts`).

An operation that writes ends in one of the three ways that the tuner reckons with (`write_answer`).
-/

namespace UsbRadioPlus
namespace Tune
namespace Repository

open Rust Sys

variable {repo : ConfigRepository} {env : Environment} {init : World → Prop} {w₀ w w' : World}
  {labels later : List Label}

/-! ## A machine

One process replaces the configuration `c`; or creates it from the sample `s`. -/

/-- One configuration and one sample. -/
def exampleRepository : ConfigRepository := ⟨['c'], [['s']]⟩

/-- The sample can be read. -/
def exampleEnvironment : Environment :=
  ⟨fun path => if path = ['s'] then some [115] else none, fun _ => ⟨1, 1, 0o600⟩⟩

/-- With the file of the configuration, if there is one. -/
def exampleBegin (file : Option Nat) : World where
  directory :=
    { inodes := fun _ => ⟨[111], ⟨0, 0, 0o644⟩, true⟩
      next := 1
      clock := 1
      present := fun name => ⟨0, if name = ['c'] then file else none⟩
      earlier := fun _ => [] }
  sequence := fun _ => 0
  running := fun _ => none

theorem exampleBegin_begins {file : Option Nat} (hfile : ∀ i, file = some i → i = 0) :
    Begins exampleRepository (exampleBegin file) := by
  refine ⟨fun _ => rfl, fun name b hb => ?_, ?_, rfl, fun _ _ => rfl⟩
  · rw [List.mem_singleton.mp hb]
    exact Nat.zero_lt_one
  rintro name i ⟨b, hb, hi⟩
  obtain rfl : b = ⟨0, if name = ['c'] then file else none⟩ := List.mem_singleton.mp hb
  by_cases hname : name = ['c']
  · have hi : file = some i := by simpa [hname] using hi
    simp [hfile i hi, exampleBegin]
  · simp [hname] at hi

/-- A text of one character. -/
def exampleText : Text := ⟨[110], ⟨['n'], rfl⟩⟩

/-- The calls of one operation, each of which answers. -/
def callsOf (id n : Nat) : List Label := List.replicate n (.call id none 9)

/-- The next calls of an operation. -/
def exampleCalls (n : Nat) : List Label := callsOf 0 n

/-- A whole replacement. -/
def exampleWrite : List Label := .start 0 7 (.writeAtomic exampleText) :: exampleCalls 12

/-- The texts of the example. -/
def ExampleComplete (bytes : List UInt8) : Prop := bytes = [110] ∨ bytes = [111] ∨ bytes = [115]

/-- The permissions that the example keeps. -/
def ExampleKept (a : Attrs) : Prop := a.mode = 0o644

theorem example_samples (path : Str) (bytes : List UInt8)
    (h : exampleEnvironment.samples path = some bytes) : ExampleComplete bytes := by
  by_cases hpath : path = ['s'] <;> simp_all [exampleEnvironment, ExampleComplete]

theorem meets_exampleCalls {Complete : List UInt8 → Prop} (n : Nat) (w : World) :
    (system exampleRepository exampleEnvironment fun _ => True).Meets (Given Complete) w
      (exampleCalls n) := by
  refine .of_mem (fun label hlabel w => ?_) w
  rw [List.eq_of_mem_replicate hlabel]
  trivial

/-! ## Complete versions -/

/-- **The configuration is always complete.** Whatever is bound to its name, or may come back under it
from a crash, is a synchronized file of one of the texts that are complete (the first one, the samples
and those that were written), with the attributes of the first one; a configuration that stood at the
beginning is never missing, and what `read` answers is complete. -/
theorem configuration_complete {Complete : List UInt8 → Prop} {Kept : Attrs → Prop}
    (hbegins : Begins repo w₀)
    (hfirst : ∀ i, w₀.directory.lookup repo.configName = some i →
      Complete (w₀.directory.inodes i).data ∧ Kept (w₀.directory.inodes i).attrs)
    (hsamples : ∀ path bytes, env.samples path = some bytes → Complete bytes)
    (hcreated : w₀.directory.lookup repo.configName = none →
      ∀ a : Attrs, a.mode = newConfigMode → Kept a)
    (hgiven : (system repo env init).Meets (Given Complete) w₀ labels)
    (hrun : (system repo env init).run w₀ labels = some w) :
    (∀ i, w.directory.Refers repo.configName i → (w.directory.inodes i).stable = true ∧
      Complete (w.directory.inodes i).data ∧ Kept (w.directory.inodes i).attrs) ∧
    (w₀.directory.lookup repo.configName ≠ none →
      ∀ b ∈ w.directory.bindings repo.configName, b.inode ≠ none) ∧
    ∀ id r text, w.running id = some r → r.operation = .read →
      r.rest = .done (.read (.ok text)) → Complete text.bytes := by
  obtain ⟨know, h⟩ := Coherent.run ⟨hsamples, hcreated⟩ ⟨_, hbegins.coherent hfirst⟩ hgiven hrun
  refine ⟨fun i hi => (h.intact.sound i hi).2, h.intact.present, fun id r text hr hop hrest => ?_⟩
  have hends := h.follows id r hr
  rw [hrest, hop] at hends
  exact (h.facts id).contents _ hends

theorem configuration_complete_write : ∃ w,
    (system exampleRepository exampleEnvironment fun _ => True).run (exampleBegin (some 0))
      exampleWrite = some w ∧
    ∀ i, w.directory.Refers exampleRepository.configName i → (w.directory.inodes i).stable = true ∧
      ExampleComplete (w.directory.inodes i).data ∧ ExampleKept (w.directory.inodes i).attrs :=
  ⟨_, rfl, (@configuration_complete exampleRepository exampleEnvironment (fun _ => True) _ _
    exampleWrite ExampleComplete ExampleKept
    (exampleBegin_begins fun _ h => (Option.some.inj h).symm) (fun _ _ => ⟨.inr (.inl rfl), rfl⟩)
    example_samples (fun h => absurd h (by decide))
    ⟨.inl rfl, fun w' _ => meets_exampleCalls 12 w'⟩ rfl).1⟩

/-! ## Versions and backups that last -/

theorem given_any (w : World) (label : Label) : Given (fun _ => True) w label := by
  match label with
  | .start _ _ (.writeAtomic _) => trivial
  | .start _ _ .ensureExists | .start _ _ .read | .start _ _ .createBackup => trivial
  | .call .. | .kill _ | .crash .. => trivial

theorem offers_any (env : Environment) (Absent : Prop) :
    Offers env (fun _ => True) (fun _ => True) Absent :=
  ⟨fun _ _ _ => trivial, fun _ _ _ => trivial⟩

/-- Every run from the beginning leaves the operations coherent. -/
theorem Begins.reached (hbegins : Begins repo w₀)
    (hrun : (system repo env init).run w₀ labels = some w) :
    ∃ know, Coherent repo (fun _ => True) (fun _ => True)
      (w₀.directory.lookup repo.configName = none) w know ⟨fun _ => False, fun _ _ => False⟩ :=
  Coherent.run (offers_any env _) hbegins.coherent_any (.of_forall given_any _ _) hrun

section
variable {Complete : List UInt8 → Prop} {Kept : Attrs → Prop} {Absent : Prop}
  {know : Nat → Known} {promises : Promises} {id n : Nat} {data : List UInt8}

/-- Without the claim on what is complete. -/
theorem Coherent.any (h : Coherent repo Complete Kept Absent w know promises) :
    Coherent repo (fun _ => True) (fun _ => True) Absent w know promises :=
  { h with
    intact := { h.intact with
      sound := fun i hi => ⟨(h.intact.sound i hi).1, (h.intact.sound i hi).2.1, trivial, trivial⟩ }
    texts := fun _ _ _ _ _ => trivial
    facts := fun id => { h.facts id with
      metadata := fun _ _ => trivial
      contents := fun _ _ => trivial
      opened := fun i hi => ⟨((h.facts id).opened i hi).1, ((h.facts id).opened i hi).2.1, trivial⟩
      backup := fun name file hb =>
        have ⟨data, attrs, _, hbacked⟩ := (h.facts id).backup name file hb
        ⟨data, attrs, ⟨trivial, trivial⟩, hbacked⟩ } }

/-- A version that is bound and synchronized lasts. -/
theorem Coherent.lasting (h : Coherent repo Complete Kept Absent w know promises)
    (hbound : (know id).bound = some data) (hsynced : (know id).synced = true) :
    ∃ n, historyOf w id = some n ∧ Lasting repo w.directory n data := by
  obtain ⟨n, hn, hto⟩ := (h.facts id).bound data hbound
  have hsince := (h.facts id).synced hsynced data n hbound hn
  exact ⟨n, hn, hto.dated, hsince, fun b hb => hto.data b hb (hsince b hb)⟩

/-- What lasts in a coherent state lasts in every later one. -/
theorem Coherent.lasting_run (h : Coherent repo Complete Kept Absent w know promises)
    (henv : Offers env Complete Kept Absent) (hlasting : Lasting repo w.directory n data)
    (hgiven : (system repo env init).Meets (Given Complete) w later)
    (hrun : (system repo env init).run w later = some w') :
    Lasting repo w'.directory n data := by
  have hpromised : Coherent repo Complete Kept Absent w know
      ⟨promises.backups, fun m d => m = n ∧ d = data⟩ :=
    { h with versions := by rintro _ _ ⟨rfl, rfl⟩; exact hlasting }
  obtain ⟨know', h'⟩ := Coherent.run henv ⟨know, hpromised⟩ hgiven hrun
  exact h'.versions n data ⟨rfl, rfl⟩

end

/-- An operation that writes ends in one of the three ways that the tuner reckons with. -/
theorem write_answer (hbegins : Begins repo w₀)
    (hrun : (system repo env init).run w₀ labels = some w) {id : Nat} {r : Running} {text : Text}
    {result : Except RepositoryError Unit} (hid : w.running id = some r)
    (hoperation : r.operation = .writeAtomic text) (hdone : r.rest = .done (.wrote result))
    (display : RepositoryError → Str) : ∃ answer : WriteAnswer,
      answer.replaces = r.bound.isSome ∧ answer.result = result.mapError display := by
  obtain ⟨know, h⟩ := hbegins.reached hrun
  have hends := h.follows id r hid
  rw [hdone, hoperation] at hends
  cases result with
  | ok =>
    obtain ⟨n, hn, -⟩ := h.lasting hends.1 hends.2
    have hbound : r.bound = some n := by simpa [historyOf, hid] using hn
    exact ⟨.written, by rw [hbound]; rfl, rfl⟩
  | error e =>
    cases hbound : r.bound with
    | none => exact ⟨.refused (display e), rfl, rfl⟩
    | some n => exact ⟨.unsynced (display e), rfl, rfl⟩

/-- **A written version lasts.** Once `write_atomic` has succeeded, in every later state of the run
everything that the configuration may come back as is this version, or was bound by a later change. -/
theorem written_lasts (hbegins : Begins repo w₀)
    (hrun : (system repo env init).run w₀ labels = some w) {id : Nat} {r : Running} {text : Text}
    (hid : w.running id = some r) (hoperation : r.operation = .writeAtomic text)
    (hdone : r.rest = .done (.wrote (.ok ())))
    (hlater : (system repo env init).run w later = some w') :
    ∃ n, r.bound = some n ∧ ∀ b ∈ w'.directory.bindings repo.configName, n ≤ b.stamp ∧
      ∃ i, b.inode = some i ∧ (b.stamp = n → (w'.directory.inodes i).data = text.bytes) := by
  obtain ⟨know, h⟩ := hbegins.reached hrun
  have hends := h.follows id r hid
  rw [hdone, hoperation] at hends
  obtain ⟨n, hn, hlasting⟩ := h.lasting hends.1 hends.2
  have hlasts := h.lasting_run (offers_any env _) hlasting (.of_forall given_any _ _) hlater
  exact ⟨n, by simpa [historyOf, hid] using hn, fun b hb => ⟨hlasts.since b hb, hlasts.data b hb⟩⟩

theorem written_lasts_crash : ∃ w w',
    (system exampleRepository exampleEnvironment fun _ => True).run (exampleBegin (some 0))
      exampleWrite = some w ∧
    (system exampleRepository exampleEnvironment fun _ => True).run w
      [.crash (fun _ => 0) fun _ => ([], ⟨0, 0, 0⟩)] = some w' ∧
    ∃ n, some 2 = some n ∧ ∀ b ∈ w'.directory.bindings exampleRepository.configName, n ≤ b.stamp ∧
      ∃ i, b.inode = some i ∧ (b.stamp = n → (w'.directory.inodes i).data = [110]) :=
  ⟨_, _, rfl, rfl, @written_lasts exampleRepository exampleEnvironment (fun _ => True) _ _ _
    exampleWrite [.crash (fun _ => 0) fun _ => ([], ⟨0, 0, 0⟩)]
    (exampleBegin_begins fun _ h => (Option.some.inj h).symm) rfl 0
    ⟨7, .writeAtomic exampleText, .done (.wrote (.ok ())), some 2⟩ exampleText rfl rfl rfl rfl⟩

/-- **A backup lasts.** Once `create_backup` has succeeded, its name stands in every later state of the
run for one and the same file, which is a complete version of the configuration and not the file of
the configuration itself. -/
theorem backup_lasts {Complete : List UInt8 → Prop} {Kept : Attrs → Prop}
    (hbegins : Begins repo w₀)
    (hfirst : ∀ i, w₀.directory.lookup repo.configName = some i →
      Complete (w₀.directory.inodes i).data ∧ Kept (w₀.directory.inodes i).attrs)
    (hsamples : ∀ path bytes, env.samples path = some bytes → Complete bytes)
    (hcreated : w₀.directory.lookup repo.configName = none →
      ∀ a : Attrs, a.mode = newConfigMode → Kept a)
    (hgiven : (system repo env init).Meets (Given Complete) w₀ labels)
    (hrun : (system repo env init).run w₀ labels = some w) {id : Nat} {r : Running} {name : Str}
    (hid : w.running id = some r) (hoperation : r.operation = .createBackup)
    (hdone : r.rest = .done (.backedUp (.ok name))) :
    ∃ file data attrs, Complete data ∧ Kept attrs ∧
      ∀ later w', (system repo env init).run w later = some w' →
        w'.directory.bindings name = [w'.directory.present name] ∧
        w'.directory.lookup name = some file ∧ (w'.directory.inodes file).data = data ∧
        (w'.directory.inodes file).attrs = attrs ∧ ¬ w'.directory.Refers repo.configName file := by
  have henv : Offers env Complete Kept (w₀.directory.lookup repo.configName = none) :=
    ⟨hsamples, hcreated⟩
  obtain ⟨know, h⟩ := Coherent.run henv ⟨_, hbegins.coherent hfirst⟩ hgiven hrun
  have hends := h.follows id r hid
  rw [hdone, hoperation] at hends
  obtain ⟨⟨file, hbackup⟩, htemporary, hsynced⟩ := hends
  obtain ⟨data, attrs, hversion, hbacked⟩ := (h.facts id).backup name file hbackup
  refine ⟨file, data, attrs, hversion.1, hversion.2, fun later w' hlater => ?_⟩
  have hpromised : Coherent repo (fun _ => True) (fun _ => True) _ w know
      ⟨(· = ⟨name, file, data, attrs⟩), fun _ _ => False⟩ :=
    { h.any with
      backups := by
        rintro _ rfl
        exact ⟨hbacked, (h.facts id).settled hsynced name file hbackup,
          fun id' t ht => h.backup id id' name file t hbackup ht⟩
      versions := nofun }
  obtain ⟨know', h'⟩ := Coherent.run (offers_any env _) ⟨know, hpromised⟩
    (.of_forall given_any _ _) hlater
  obtain ⟨hkept, hearlier, -⟩ := h'.backups _ rfl
  exact ⟨by simp [FileStore.bindings, hearlier], hkept.lookup, hkept.data, hkept.attrs, hkept.apart⟩

theorem backup_lasts_example : ∃ w,
    (system exampleRepository exampleEnvironment fun _ => True).run (exampleBegin (some 0))
      (.start 0 7 .createBackup :: exampleCalls 18) = some w ∧
    ∃ file data attrs, ExampleComplete data ∧ ExampleKept attrs ∧
      ∀ later w', (system exampleRepository exampleEnvironment fun _ => True).run w later = some w' →
        w'.directory.bindings "c.bak.9.7.0".toList = [w'.directory.present "c.bak.9.7.0".toList] ∧
        w'.directory.lookup "c.bak.9.7.0".toList = some file ∧
        (w'.directory.inodes file).data = data ∧ (w'.directory.inodes file).attrs = attrs ∧
        ¬ w'.directory.Refers exampleRepository.configName file :=
  ⟨_, rfl, @backup_lasts exampleRepository exampleEnvironment (fun _ => True) _ _
    (.start 0 7 .createBackup :: exampleCalls 18) ExampleComplete ExampleKept
    (exampleBegin_begins fun _ h => (Option.some.inj h).symm) (fun _ _ => ⟨.inr (.inl rfl), rfl⟩)
    example_samples (fun h => absurd h (by decide))
    ⟨trivial, fun w' _ => meets_exampleCalls 18 w'⟩ rfl 0
    ⟨7, .createBackup, .done (.backedUp (.ok "c.bak.9.7.0".toList)), none⟩ "c.bak.9.7.0".toList
    rfl rfl rfl⟩

/-! ## Creation -/

/-- What a call does to the configuration: nothing, or it binds it; and an operation that creates
binds it only where it was not bound. -/
theorem Local.perform_present {Complete : List UInt8 → Prop} {Kept : Attrs → Prop} {Absent : Prop}
    {d : Directory} {history : Option Nat} {k : Known} {operation : Operation}
    (h : Local repo Complete Kept Absent d history k) (process sequence number : Nat)
    (fault : Option ErrorKind) (c : Call) (hmay : may repo operation k c) :
    (perform env process sequence d fault number c).2.present repo.configName =
        d.present repo.configName ∨
      ((perform env process sequence d fault number c).2.lookup repo.configName).isSome ∧
        ((∃ text, operation = .writeAtomic text) ∨ d.lookup repo.configName = none) := by
  cases fault with
  | some e =>
    exact .inl (congrArg (fun s : Directory => s.present repo.configName)
      (@perform_fault repo d k env process sequence number e c).1)
  | none =>
    cases c with
    | createNew name =>
      simp only [perform]
      cases hl : d.lookup name with
      | none =>
        exact .inl (List.cons.inj (FileStore.bindings_rebind_ne
          (s := d.change d.next ⟨[], env.creator process, false⟩) hmay.1.symm)).1
      | some i => exact .inl rfl
    | rename source destination =>
      obtain ⟨t, ht, rfl, rfl, hwrites, -⟩ := hmay
      have howned := h.owned t ht
      simp only [perform, howned.lookup]
      refine .inr ⟨?_, .inl hwrites⟩
      simp only [changing, Option.elim_none, FileStore.rename]
      split
      · rename_i heq
        rw [← heq, howned.lookup]
        rfl
      · rw [FileStore.unlink, FileStore.lookup_rebind_ne howned.name.symm, FileStore.link,
          FileStore.lookup_rebind_self, howned.lookup]
        rfl
    | hardLink source destination =>
      obtain ⟨t, ht, rfl, -, hlink, -⟩ := hmay
      have howned := h.owned t ht
      simp only [perform, howned.lookup]
      cases hl : d.lookup destination with
      | some i => exact .inl rfl
      | none =>
        rcases hlink with ⟨-, rfl, -⟩ | ⟨-, hne, -⟩
        · refine .inr ⟨?_, .inr hl⟩
          simp only [changing, Option.elim_none, FileStore.link, FileStore.lookup_rebind_self,
            howned.lookup]
          rfl
        · exact .inl (List.cons.inj (FileStore.bindings_rebind_ne (s := d) hne.symm)).1
    | removeFile name =>
      obtain ⟨t, ht, rfl⟩ := hmay
      have howned := h.owned t ht
      simp only [perform, howned.lookup]
      exact .inl (List.cons.inj (FileStore.bindings_rebind_ne (s := d) howned.name.symm)).1
    | _ => exact .inl rfl

/-- The operations that bound the configuration and still stand: it is bound, and of those that create
there is one at most. -/
structure Firm (repo : ConfigRepository) (w : World) : Prop where
  bound : ∀ id r, w.running id = some r → r.bound ≠ none →
    (w.directory.lookup repo.configName).isSome
  alone : ∀ id id' r r', w.running id = some r → w.running id' = some r' →
    r.operation = .ensureExists → r'.operation = .ensureExists → r.bound ≠ none → r'.bound ≠ none →
    id = id'

/-- What a step does to the configuration and to the operations. -/
inductive StepCase (repo : ConfigRepository) (w w' : World) : Label → Prop where
  | start {id process : Nat} {operation : Operation} (hidle : w.running id = none)
      (hdirectory : w'.directory = w.directory)
      (hrunning : w'.running = Function.update w.running id
        (some ⟨process, operation, operation.program repo, none⟩)) :
      StepCase repo w w' (.start id process operation)
  | call {id : Nat} {fault : Option ErrorKind} {number : Nat} {r : Running} {rest : Prog Outcome}
      (hrunning : w.running id = some r) (hcalls : ∀ outcome, r.rest ≠ .done outcome)
      (hrunning' : w'.running = Function.update w.running id (some { r with
        rest := rest, bound := boundAfter repo w.directory w'.directory r.bound }))
      (hpresent : w'.directory.present repo.configName = w.directory.present repo.configName ∨
        (w'.directory.lookup repo.configName).isSome ∧
          ((∃ text, r.operation = .writeAtomic text) ∨
            w.directory.lookup repo.configName = none)) :
      StepCase repo w w' (.call id fault number)
  | kill {process : Nat} (hdirectory : w'.directory = w.directory)
      (hrunning : ∀ id, w'.running id = none ∨ w'.running id = w.running id) :
      StepCase repo w w' (.kill process)
  | crash {choice : Str → Nat} {torn : Nat → List UInt8 × Attrs}
      (hrunning : ∀ id, w'.running id = none) : StepCase repo w w' (.crash choice torn)

theorem Coherent.stepCase {Complete : List UInt8 → Prop} {Kept : Attrs → Prop} {Absent : Prop}
    {know : Nat → Known} {promises : Promises} {label : Label}
    (h : Coherent repo Complete Kept Absent w know promises)
    (hstep : Repository.step repo env w label = some w') : StepCase repo w w' label := by
  cases label with
  | start id process operation =>
    simp only [Repository.step] at hstep
    cases hidle : w.running id with
    | some r => simp [hidle] at hstep
    | none =>
      simp only [hidle, Option.some.injEq] at hstep
      subst hstep
      exact .start hidle rfl rfl
  | call id fault number =>
    obtain ⟨r, hr, hexec⟩ := Option.bind_eq_some_iff.mp hstep
    have hfollows := h.follows id r hr
    obtain ⟨process, operation, rest, bound⟩ := r
    cases rest with
    | done outcome => cases hexec
    | call c next =>
      have hpresent := @Local.perform_present repo env _ _ _ _ _ _ _ (h.local id) process
        (w.sequence process) number fault c hfollows.1
      obtain rfl := Option.some.inj hexec
      exact .call hr (fun outcome hdone => by cases hdone) rfl hpresent
  | kill process =>
    obtain rfl := Option.some.inj hstep
    exact .kill rfl fun id => filter_cases _ (w.running id)
  | crash choice torn =>
    obtain rfl := Option.some.inj hstep
    exact .crash fun _ => rfl

theorem update_eq_some {f : Nat → Option Running} {id id' : Nat} {r r' : Running}
    (h : Function.update f id (some r) id' = some r') :
    id' = id ∧ r' = r ∨ id' ≠ id ∧ f id' = some r' := by
  by_cases hid : id' = id
  · subst hid
    rw [Function.update_self] at h
    exact .inl ⟨rfl, (Option.some.inj h).symm⟩
  · rw [Function.update_of_ne hid] at h
    exact .inr ⟨hid, h⟩

theorem Firm.step {label : Label} (h : Firm repo w) (hcase : StepCase repo w w' label) :
    Firm repo w' := by
  cases hcase with
  | start hidle hdirectory hrunning =>
    have hold {id : Nat} {r : Running} (hr : w'.running id = some r) (hbound : r.bound ≠ none) :
        w.running id = some r := by
      rw [hrunning] at hr
      rcases update_eq_some hr with ⟨-, rfl⟩ | ⟨-, hr⟩
      · exact absurd rfl hbound
      · exact hr
    exact ⟨fun id r hr hbound => hdirectory ▸ h.bound id r (hold hr hbound) hbound,
      fun id id' r r' hr hr' hop hop' hbound hbound' =>
        h.alone id id' r r' (hold hr hbound) (hold hr' hbound') hop hop' hbound hbound'⟩
  | @call id₀ _ _ r₀ rest hr₀ _ hrunning hpresent =>
    rcases hpresent with hsame | ⟨hsome, hfree⟩
    · -- The configuration stays: every operation has the history that it had.
      have hlookup : w'.directory.lookup repo.configName = w.directory.lookup repo.configName :=
        congrArg Binding.inode hsame
      have hold {id : Nat} {r : Running} (hr : w'.running id = some r) :
          ∃ r', w.running id = some r' ∧ r'.operation = r.operation ∧ r'.bound = r.bound := by
        rw [hrunning, boundAfter_of_eq hsame] at hr
        rcases update_eq_some hr with ⟨rfl, rfl⟩ | ⟨-, hr⟩
        · exact ⟨r₀, hr₀, rfl, rfl⟩
        · exact ⟨r, hr, rfl, rfl⟩
      refine ⟨fun id r hr hbound => ?_, fun id id' r r' hr hr' hop hop' hbound hbound' => ?_⟩
      · obtain ⟨r₁, hr₁, -, hb₁⟩ := hold hr
        rw [hlookup]
        exact h.bound id r₁ hr₁ (hb₁ ▸ hbound)
      · obtain ⟨r₁, hr₁, ho₁, hb₁⟩ := hold hr
        obtain ⟨r₂, hr₂, ho₂, hb₂⟩ := hold hr'
        exact h.alone id id' r₁ r₂ hr₁ hr₂ (ho₁.trans hop) (ho₂.trans hop') (hb₁ ▸ hbound)
          (hb₂ ▸ hbound')
    · refine ⟨fun _ _ _ _ => hsome, fun id id' r r' hr hr' hop hop' hbound hbound' => ?_⟩
      rw [hrunning] at hr hr'
      rcases hfree with ⟨text, hwrites⟩ | hfree
      · -- A text was written: both operations stood in front of the call.
        rcases update_eq_some hr with ⟨-, rfl⟩ | ⟨-, hr⟩
        · exact absurd (hwrites.symm.trans hop) nofun
        · rcases update_eq_some hr' with ⟨-, rfl⟩ | ⟨-, hr'⟩
          · exact absurd (hwrites.symm.trans hop') nofun
          · exact h.alone id id' r r' hr hr' hop hop' hbound hbound'
      · -- The configuration was not bound: no operation but this one has bound it.
        have hnew {id : Nat} {r r' : Running}
            (hr : Function.update w.running id₀ (some r') id = some r) (hbound : r.bound ≠ none) :
            id = id₀ := by
          rcases update_eq_some hr with ⟨hid, -⟩ | ⟨-, hr⟩
          · exact hid
          · exact absurd (h.bound id r hr hbound) (by simp [hfree])
        exact (hnew hr hbound).trans (hnew hr' hbound').symm
  | kill hdirectory hrunning =>
    have hold {id : Nat} {r : Running} (hr : w'.running id = some r) : w.running id = some r := by
      rcases hrunning id with hnone | hsame
      · simp [hnone] at hr
      · exact hsame ▸ hr
    exact ⟨fun id r hr hbound => hdirectory ▸ h.bound id r (hold hr) hbound,
      fun id id' r r' hr hr' => h.alone id id' r r' (hold hr) (hold hr')⟩
  | crash hrunning =>
    exact ⟨fun id r hr => absurd hr (by simp [hrunning id]),
      fun id _ r _ hr => absurd hr (by simp [hrunning id])⟩

theorem Begins.firm (hbegins : Begins repo w₀)
    (hrun : (system repo env init).run w₀ labels = some w) : Firm repo w := by
  have hmeets : (system repo env init).Meets (Given fun _ => True) w₀ labels :=
    .of_forall given_any _ _
  have hfirm : Firm repo w₀ :=
    ⟨fun id r hr => absurd hr (by simp [hbegins.running id]),
      fun id _ r _ hr => absurd hr (by simp [hbegins.running id])⟩
  refine (hmeets.kept (I := fun w => Firm repo w ∧ ∃ know, Coherent repo (fun _ => True)
    (fun _ => True) (w₀.directory.lookup repo.configName = none) w know
    ⟨fun _ => False, fun _ _ => False⟩) ?_ ⟨hfirm, hbegins.coherent_any⟩ hrun).1
  rintro w label w' ⟨hfirm, know, h⟩ hgiven hstep
  exact ⟨hfirm.step (h.stepCase hstep), h.step (offers_any env _) hgiven hstep⟩

/-- **One operation creates the configuration.** Of the operations that still stand, one at most has
created the configuration; and what it created lasts: the configuration is never missing again, and
is what it created or was bound later. -/
theorem created_alone (hbegins : Begins repo w₀)
    (hrun : (system repo env init).run w₀ labels = some w) {id : Nat} {r : Running}
    (hid : w.running id = some r) (hoperation : r.operation = .ensureExists)
    (hdone : r.rest = .done (.ensured (.ok .created))) :
    (∀ id' r', w.running id' = some r' → r'.operation = .ensureExists →
      r'.rest = .done (.ensured (.ok .created)) → id' = id) ∧
    ∃ n, r.bound = some n ∧ ∀ later w', (system repo env init).run w later = some w' →
      ∀ b ∈ w'.directory.bindings repo.configName, n ≤ b.stamp ∧ b.inode ≠ none := by
  obtain ⟨know, h⟩ := hbegins.reached hrun
  have hcreated {id : Nat} {r : Running} (hid : w.running id = some r)
      (hoperation : r.operation = .ensureExists)
      (hdone : r.rest = .done (.ensured (.ok .created))) :
      ∃ n data, r.bound = some n ∧ Lasting repo w.directory n data := by
    have hends := h.follows id r hid
    rw [hdone, hoperation] at hends
    obtain ⟨⟨data, hdata⟩, hsynced⟩ := hends
    obtain ⟨n, hn, hlasting⟩ := h.lasting hdata hsynced
    exact ⟨n, data, by simpa [historyOf, hid] using hn, hlasting⟩
  obtain ⟨n, data, hn, hlasting⟩ := hcreated hid hoperation hdone
  refine ⟨fun id' r' hid' hoperation' hdone' => ?_, n, hn, fun later w' hlater b hb => ?_⟩
  · obtain ⟨n', -, hn', -⟩ := hcreated hid' hoperation' hdone'
    exact (hbegins.firm hrun).alone id' id r' r hid' hid hoperation' hoperation (by simp [hn'])
      (by simp [hn])
  · have hlasts := h.lasting_run (offers_any env _) hlasting (.of_forall given_any _ _) hlater
    obtain ⟨i, hi, -⟩ := hlasts.data b hb
    exact ⟨hlasts.since b hb, by simp [hi]⟩

theorem created_alone_example : ∃ w,
    (system exampleRepository exampleEnvironment fun _ => True).run (exampleBegin none)
      (.start 0 7 .ensureExists :: exampleCalls 13) = some w ∧
    (∀ id' r', w.running id' = some r' → r'.operation = .ensureExists →
      r'.rest = .done (.ensured (.ok .created)) → id' = 0) ∧
    ∃ n, some 2 = some n ∧ ∀ later w',
      (system exampleRepository exampleEnvironment fun _ => True).run w later = some w' →
      ∀ b ∈ w'.directory.bindings exampleRepository.configName, n ≤ b.stamp ∧ b.inode ≠ none :=
  ⟨_, rfl, @created_alone exampleRepository exampleEnvironment (fun _ => True) _ _
    (.start 0 7 .ensureExists :: exampleCalls 13) (@exampleBegin_begins none nofun) rfl 0
    ⟨7, .ensureExists, .done (.ensured (.ok .created)), some 2⟩ rfl rfl rfl⟩

/-- A step of a run that writes no text, and without a crash. -/
def Creates (_ : World) : Label → Prop
  | .start _ _ (.writeAtomic _) | .crash .. => False
  | _ => True

/-- No text is being written: every `write_atomic` has ended. -/
def Unwritten (w : World) : Prop :=
  ∀ id r text, w.running id = some r → r.operation = .writeAtomic text →
    ∃ outcome, r.rest = .done outcome

theorem Unwritten.step {label : Label} (h : Unwritten w) (hcase : StepCase repo w w' label)
    (hcreates : Creates w label) : Unwritten w' := by
  intro id r text hr hoperation
  cases hcase with
  | start _ _ hrunning =>
    rw [hrunning] at hr
    rcases update_eq_some hr with ⟨-, rfl⟩ | ⟨-, hr⟩
    · obtain rfl : _ = Operation.writeAtomic text := hoperation
      exact hcreates.elim
    · exact h id r text hr hoperation
  | call hr₀ hcalls hrunning _ =>
    rw [hrunning] at hr
    rcases update_eq_some hr with ⟨rfl, rfl⟩ | ⟨-, hr⟩
    · obtain ⟨outcome, hdone⟩ := h _ _ text hr₀ hoperation
      exact absurd hdone (hcalls outcome)
    · exact h id r text hr hoperation
  | kill _ hrunning =>
    rcases hrunning id with hnone | hsame
    · simp [hnone] at hr
    · exact h id r text (hsame ▸ hr) hoperation
  | crash => exact hcreates.elim

/-- **No creation replaces a configuration.** Where no text is being written, none is written from then on
and the machine does not crash, a configuration that is there stays the file that it is, whatever is
created, read and backed up. -/
theorem creation_keeps (hbegins : Begins repo w₀)
    (hrun : (system repo env init).run w₀ labels = some w) (hidle : Unwritten w) {i : Nat}
    (hlookup : w.directory.lookup repo.configName = some i)
    (hcreates : (system repo env init).Meets Creates w later)
    (hlater : (system repo env init).run w later = some w') :
    w'.directory.lookup repo.configName = some i := by
  refine (hcreates.kept (I := fun w => w.directory.lookup repo.configName = some i ∧ Unwritten w ∧
    ∃ know, Coherent repo (fun _ => True) (fun _ => True)
      (w₀.directory.lookup repo.configName = none) w know ⟨fun _ => False, fun _ _ => False⟩)
    ?_ ⟨hlookup, hidle, hbegins.reached hrun⟩ hlater).1
  rintro w label w' ⟨hlookup, hidle, know, h⟩ hcreates hstep
  have hcase := h.stepCase hstep
  refine ⟨?_, hidle.step hcase hcreates, h.step (offers_any env _) (given_any w label) hstep⟩
  cases hcase with
  | start _ hdirectory _ => exact hdirectory ▸ hlookup
  | call hr hcalls _ hpresent =>
    rcases hpresent with hsame | ⟨-, ⟨text, hwrites⟩ | hfree⟩
    · exact (congrArg Binding.inode hsame).trans hlookup
    · obtain ⟨outcome, hdone⟩ := hidle _ _ text hr hwrites
      exact absurd hdone (hcalls outcome)
    · exact absurd (hlookup.symm.trans hfree) nofun
  | kill hdirectory _ => exact hdirectory ▸ hlookup
  | crash => exact hcreates.elim

/-- Two creations under way, of which the first one ends; then a text that is written. -/
def exampleRace : List Label :=
  [.start 0 7 .ensureExists, .start 1 8 .ensureExists] ++ callsOf 1 9 ++ exampleCalls 13 ++
    .start 2 9 (.writeAtomic exampleText) :: callsOf 2 11

/-- The second creation ends, within a whole backup. -/
def exampleLoser : List Label :=
  .start 3 7 .createBackup :: (callsOf 3 9 ++ callsOf 1 2 ++ callsOf 3 8)

theorem creation_keeps_example : ∃ w w',
    (system exampleRepository exampleEnvironment fun _ => True).run (exampleBegin none)
      exampleRace = some w ∧
    (system exampleRepository exampleEnvironment fun _ => True).run w exampleLoser = some w' ∧
    w'.directory.lookup exampleRepository.configName = some 3 := by
  refine ⟨_, _, rfl, rfl, @creation_keeps exampleRepository exampleEnvironment (fun _ => True) _ _ _
    exampleRace exampleLoser (@exampleBegin_begins none nofun) rfl ?_ 3 rfl (.of_mem ?_ _) rfl⟩
  · rintro (_ | _ | _ | id) r text hr hoperation
    · obtain rfl := Option.some.inj hr
      exact absurd hoperation nofun
    · obtain rfl := Option.some.inj hr
      exact absurd hoperation nofun
    · obtain rfl := Option.some.inj hr
      exact ⟨_, rfl⟩
    · exact absurd hr nofun
  · intro label hlabel w
    simp only [exampleLoser, callsOf, List.mem_cons, List.mem_append, List.mem_replicate] at hlabel
    rcases hlabel with rfl | ((⟨-, rfl⟩ | ⟨-, rfl⟩) | ⟨-, rfl⟩) <;> trivial

end Repository
end Tune
end UsbRadioPlus
