import Mathlib.Logic.Function.Basic
import UsbRadioPlus.Sys.Fallible

/-!
# An update of the hardware mixers (`rust/driver/src/hardware_host.rs`)

An update of a station changes the levels of three logical mixers, each of which stands for one or
more paths of the device. `beginMixerUpdate` keeps the levels from before and writes those that change;
`finishMixerUpdate` commits them or writes all three back, as often as it takes.

The device is foreign: `MixerAnswers` says how each call to it ends, by the number of calls before it,
and so does the discovery of the mixers, which the first use of them makes. A level is computed
from a gain (`mixerLevel`); the arithmetic of it is a parameter.
-/

namespace UsbRadioPlus
namespace Driver

open Sys Fallible

/-- The mixers of a station. -/
inductive HardwareMixer where
  | receive | transmitA | transmitB
  deriving DecidableEq, Repr

/-- A level for each mixer. -/
abbrev MixerLevels : Type := HardwareMixer → Nat

/-- `HardwareMixers`: the paths of the device with their levels, and the logical levels. Discovery
rejects any other number of transmit paths than two. -/
structure HardwareMixers where
  receivePaths : Nat
  device : HardwareMixer → Nat → Nat
  levels : MixerLevels

namespace HardwareMixers

/-- The number of paths that represent a mixer. -/
def paths (self : HardwareMixers) : HardwareMixer → Nat
  | .receive => self.receivePaths
  | _ => 1

/-- The level of one path of a device. -/
def setDevice (self : HardwareMixers) (mixer : HardwareMixer) (path level : Nat) : HardwareMixers :=
  { self with device := Function.update self.device mixer (Function.update (self.device mixer) path level) }

/-- The level of a mixer. -/
def setLogical (self : HardwareMixers) (mixer : HardwareMixer) (level : Nat) : HardwareMixers :=
  { self with levels := Function.update self.levels mixer level }

@[simp] theorem levels_setDevice {self : HardwareMixers} {mixer : HardwareMixer} {path level : Nat} :
    (self.setDevice mixer path level).levels = self.levels := rfl

@[simp] theorem levels_setLogical {self : HardwareMixers} {mixer : HardwareMixer} {level : Nat} :
    (self.setLogical mixer level).levels = Function.update self.levels mixer level := rfl

theorem device_setDevice {self : HardwareMixers} {mixer : HardwareMixer} {path level p : Nat} :
    (self.setDevice mixer path level).device mixer p =
      if p = path then level else self.device mixer p := by
  simp [setDevice, Function.update_apply]

@[simp] theorem paths_setDevice {self : HardwareMixers} {mixer : HardwareMixer} {path level : Nat} :
    (self.setDevice mixer path level).paths = self.paths := by
  funext m
  cases m <;> rfl

@[simp] theorem paths_setLogical {self : HardwareMixers} {mixer : HardwareMixer} {level : Nat} :
    (self.setLogical mixer level).paths = self.paths := by
  funext m
  cases m <;> rfl

end HardwareMixers

/-- What a call of the station fails with. -/
inductive HardwareStationError where
  | busy
  | audio (code : Int)
  deriving DecidableEq, Repr

/-- How the calls end, by the number of calls before. -/
structure MixerAnswers where
  opening : Nat → Except HardwareStationError HardwareMixers
  write : Nat → Except HardwareStationError Unit

/-- The mixers of a station, where they are discovered, and the levels from before an update. -/
structure MixerState where
  mixers : Option HardwareMixers
  updateMixers : Option MixerLevels
  calls : Nat

/-- A part of a mixer update. -/
abbrev Mixing : Type → Type := Fallible MixerState HardwareStationError

section
variable (answers : MixerAnswers)

/-- `mixers()`: discovers them at their first use. -/
def openMixers : Mixing HardwareMixers := do
  match (← Fallible.get).mixers with
  | some mixers => pure mixers
  | none => do
    let s ← Fallible.get
    Fallible.modify fun s => { s with calls := s.calls + 1 }
    let mixers ← Fallible.of (answers.opening s.calls)
    Fallible.modify fun s => { s with mixers := some mixers }
    pure mixers

/-- `Mixer::set_hardware_level`, of one path. -/
def writePath (mixer : HardwareMixer) (level path : Nat) : Mixing Unit := do
  let s ← Fallible.get
  Fallible.modify fun s => { s with calls := s.calls + 1 }
  Fallible.of (answers.write s.calls)
  Fallible.modify fun s => { s with mixers := s.mixers.map (·.setDevice mixer path level) }

/-- `set_mixer_level`: every path, then the logical level. -/
def setMixerLevel (mixer : HardwareMixer) (level : Nat) : Mixing Unit := do
  let mixers ← openMixers answers
  (List.range (mixers.paths mixer)).forM (writePath answers mixer level)
  Fallible.modify fun s => { s with mixers := s.mixers.map (·.setLogical mixer level) }

/-- The mixers in the order in which they are set. -/
def hardwareMixers : List HardwareMixer := [.receive, .transmitA, .transmitB]

variable {F : Type} [BEq F] (mixerLevel : F → Nat)

/-- `begin_mixer_update`: the levels in front of it are kept for the way back. -/
def beginMixerUpdate (old next : HardwareMixer → F) (changed : HardwareMixer → Bool) : Mixing Unit := do
  Fallible.whenever (← Fallible.get).updateMixers.isSome (Fallible.fail .busy)
  let levels := (← openMixers answers).levels
  Fallible.modify fun s => { s with updateMixers := some levels }
  hardwareMixers.forM fun mixer =>
    Fallible.whenever (changed mixer || old mixer != next mixer)
      (setMixerLevel answers mixer (mixerLevel (next mixer)))

/-- `finish_mixer_update`: without a commit the kept levels are set again. -/
def finishMixerUpdate (commit : Bool) : Mixing Unit := do
  match (← Fallible.get).updateMixers with
  | none => pure ()
  | some levels => do
    Fallible.whenever (!commit) (hardwareMixers.forM fun mixer => setMixerLevel answers mixer (levels mixer))
    Fallible.modify fun s => { s with updateMixers := none }

end

/-! ## One mixer -/

variable {answers : MixerAnswers} {m : HardwareMixers} {u : Option MixerLevels}

/-- The state between calls. -/
def Carries (m : HardwareMixers) (u : Option MixerLevels) (s : MixerState) : Prop :=
  s.mixers = some m ∧ s.updateMixers = u

/-- Only paths of one mixer have changed. -/
structure Touched (mixer : HardwareMixer) (m m' : HardwareMixers) : Prop where
  levels : m'.levels = m.levels
  paths : m'.paths = m.paths
  others : ∀ other, other ≠ mixer → m'.device other = m.device other

theorem Touched.refl {mixer : HardwareMixer} : Touched mixer m m := ⟨rfl, rfl, fun _ _ => rfl⟩

theorem Touched.setDevice {mixer : HardwareMixer} {m' : HardwareMixers} (h : Touched mixer m m')
    (path level : Nat) : Touched mixer m (m'.setDevice mixer path level) :=
  ⟨h.levels, HardwareMixers.paths_setDevice.trans h.paths,
    fun other hother => (Function.update_of_ne hother ..).trans (h.others other hother)⟩

/-- Every path of the mixer is at its logical level. -/
def Settled (m : HardwareMixers) (mixer : HardwareMixer) : Prop :=
  ∀ path < m.paths mixer, m.device mixer path = m.levels mixer

theorem openMixers_held {Q : HardwareMixers → MixerState → Prop} {E : HardwareStationError → MixerState → Prop}
    (h : ∀ s, Carries m u s → Q m s) : Triple (Carries m u) (openMixers answers) Q E := by
  intro s hs
  have hrun : openMixers answers s = some (.ok m, s) := by
    simp only [openMixers, Fallible.bind_apply, Fallible.get, hs.1]
    rfl
  rw [hrun]
  exact h s hs

theorem writePath_spec {mixer : HardwareMixer} {level path : Nat} :
    Triple (Carries m u) (writePath answers mixer level path)
      (fun _ => Carries (m.setDevice mixer path level) u) fun _ => Carries m u := by
  refine Triple.get fun s hs => Triple.bindTotal (Q := fun _ s => Carries m u s)
    (Triple.modify fun s' hs' => hs' ▸ hs) fun _ => ?_
  refine Triple.bind (Q := fun _ => Carries m u) (Triple.of (fun _ _ _ h => h) fun _ _ _ h => h) fun _ => ?_
  exact Triple.modify fun s' hs' => ⟨by simp [hs'.1], hs'.2⟩

theorem setMixerLevel_spec {mixer : HardwareMixer} {level : Nat} :
    Triple (Carries m u) (setMixerLevel answers mixer level)
      (fun _ s => ∃ m', Carries m' u s ∧ m'.levels = Function.update m.levels mixer level ∧
        m'.paths = m.paths ∧ Settled m' mixer ∧ ∀ other, other ≠ mixer → m'.device other = m.device other)
      fun _ s => ∃ m', Carries m' u s ∧ Touched mixer m m' := by
  refine Triple.bind (Q := fun m' s => Carries m u s ∧ m' = m) (openMixers_held fun s hs => ⟨hs, rfl⟩)
    fun m' => Triple.of_and fun heq => ?_
  subst heq
  -- Behind the paths that are done, the others are as they were.
  have hloop := Triple.forM (l := List.range (m'.paths mixer)) (f := writePath answers mixer level)
    (I := fun done s => ∃ n, Carries n u s ∧ Touched mixer m' n ∧
      ∀ path ∈ done, n.device mixer path = level)
    (E := fun _ s => ∃ n, Carries n u s ∧ Touched mixer m' n) fun done path rest _ => ?_
  · refine Triple.bind (hloop.imp (fun s hs => ⟨m', hs, Touched.refl, by simp⟩) (fun _ _ h => h)
      fun _ _ h => h) fun _ => Triple.modify fun s hs => ?_
    obtain ⟨n, hheld, htouched, hdone⟩ := hs
    refine ⟨n.setLogical mixer level, ⟨by simp [hheld.1], hheld.2⟩, ?_,
      HardwareMixers.paths_setLogical.trans htouched.paths, fun path hpath => ?_, htouched.others⟩
    · rw [HardwareMixers.levels_setLogical, htouched.levels]
    · rw [HardwareMixers.paths_setLogical, htouched.paths] at hpath
      rw [HardwareMixers.levels_setLogical, Function.update_self]
      exact hdone path (List.mem_range.mpr hpath)
  · refine Triple.of_exists fun n => Triple.of_and fun ⟨htouched, hdone⟩ => ?_
    refine writePath_spec.imp (fun _ h => h) (fun _ s hs => ?_) fun _ s hs => ⟨n, hs, htouched⟩
    refine ⟨_, hs, htouched.setDevice path level, fun p hp => ?_⟩
    rw [HardwareMixers.device_setDevice]
    split
    · rfl
    · rename_i hne
      exact hdone p ((List.mem_append.mp hp).resolve_right fun h => hne (List.mem_singleton.mp h))

/-! ## Rollback -/

/-- The mixers of the list are back at their levels. -/
def Back (levels : MixerLevels) (m : HardwareMixers) (done : List HardwareMixer) : Prop :=
  ∀ mixer ∈ done, m.levels mixer = levels mixer ∧ Settled m mixer

theorem mem_hardwareMixers (mixer : HardwareMixer) : mixer ∈ hardwareMixers := by
  cases mixer <;> decide

/-- A rollback that succeeds restores every mixer; one that fails keeps the levels to restore. -/
theorem rollback_spec (answers : MixerAnswers) {levels : MixerLevels} :
    Triple (fun s => ∃ m, Carries m (some levels) s) (finishMixerUpdate answers false)
      (fun _ s => ∃ m, Carries m none s ∧ Back levels m hardwareMixers)
      fun _ s => ∃ m, Carries m (some levels) s := by
  refine Triple.get fun s hs => ?_
  obtain ⟨m, hm, hu⟩ := hs
  rw [hu]
  have hloop := Triple.forM (l := hardwareMixers)
    (f := fun mixer => setMixerLevel answers mixer (levels mixer))
    (I := fun done s => ∃ n, Carries n (some levels) s ∧ Back levels n done)
    (E := fun _ s => ∃ n, Carries n (some levels) s) fun done mixer rest _ => ?_
  · refine Triple.bind (Q := fun _ s => ∃ n, Carries n (some levels) s ∧ Back levels n hardwareMixers) ?_
      fun _ => Triple.modify fun s ⟨n, hheld, hback⟩ => ⟨n, ⟨hheld.1, rfl⟩, hback⟩
    exact hloop.imp (fun s' hs' => ⟨m, hs' ▸ ⟨hm, hu⟩, by simp [Back]⟩) (fun _ _ h => h) fun _ _ h => h
  · refine Triple.of_exists fun n => Triple.of_and fun hback => ?_
    refine setMixerLevel_spec.imp (fun _ h => h) (fun _ s hs => ?_) fun _ s ⟨n', hheld, _⟩ => ⟨n', hheld⟩
    obtain ⟨n', hheld, hlevels, hpaths, hsettled, hothers⟩ := hs
    refine ⟨n', hheld, fun other hother => ?_⟩
    by_cases heq : other = mixer
    · subst heq
      exact ⟨by rw [hlevels, Function.update_self], hsettled⟩
    · have hdone := hback other ((List.mem_append.mp hother).resolve_right fun h =>
        heq (List.mem_singleton.mp h))
      refine ⟨by rw [hlevels, Function.update_of_ne heq, hdone.1], fun path hpath => ?_⟩
      rw [hlevels, Function.update_of_ne heq, hothers other heq]
      exact hdone.2 path (hpaths ▸ hpath)

/-- A commit keeps the levels as they are, and asks nothing of the device. -/
theorem finish_commit (s : MixerState) :
    finishMixerUpdate answers true s = some (.ok (), { s with updateMixers := none }) := by
  rcases s with ⟨_, _ | _, _⟩ <;> rfl

/-- Without an update there is nothing to finish. -/
theorem finish_idle {s : MixerState} (h : s.updateMixers = none) (commit : Bool) :
    finishMixerUpdate answers commit s = some (.ok (), s) := by
  rcases s with ⟨_, _ | _, _⟩
  · rfl
  · nomatch h

/-- A rollback that is tried until it succeeds. -/
inductive RolledBack (answers : MixerAnswers) : MixerState → MixerState → Prop
  | done {s t : MixerState} (h : finishMixerUpdate answers false s = some (.ok (), t)) :
    RolledBack answers s t
  | retry {s s' t : MixerState} {e : HardwareStationError}
    (h : finishMixerUpdate answers false s = some (.error e, s')) (hrest : RolledBack answers s' t) :
    RolledBack answers s t

/-- However often it fails, a rollback ends at the levels that were kept. -/
theorem RolledBack.restores {levels : MixerLevels} {s t : MixerState} (h : RolledBack answers s t)
    (hs : ∃ m, Carries m (some levels) s) :
    ∃ m, Carries m none t ∧ m.levels = levels ∧ ∀ mixer, Settled m mixer := by
  induction h with
  | done h =>
    have hspec := rollback_spec answers _ hs
    rw [h] at hspec
    obtain ⟨m, hheld, hback⟩ := hspec
    exact ⟨m, hheld, funext fun mixer => (hback mixer (mem_hardwareMixers mixer)).1,
      fun mixer => (hback mixer (mem_hardwareMixers mixer)).2⟩
  | retry h _ ih =>
    have hspec := rollback_spec answers _ hs
    rw [h] at hspec
    exact ih hspec

theorem RolledBack.idle {s t : MixerState} (h : RolledBack answers s t) (hs : s.updateMixers = none) :
    t = s := by
  cases h with
  | done h =>
    rw [finish_idle hs] at h
    exact (Prod.mk.inj (Option.some.inj h)).2.symm
  | retry h _ =>
    rw [finish_idle hs] at h
    nomatch (Prod.mk.inj (Option.some.inj h)).1

/-! ## Beginning an update -/

/-- The levels in force before an update: those that a first use would discover. -/
def levelsBefore (answers : MixerAnswers) (s : MixerState) : Option MixerLevels :=
  match s.mixers with
  | some m => some m.levels
  | none => (answers.opening s.calls).toOption.map (·.levels)

/-- The levels behind writes, the oldest first. -/
def written (levels : MixerLevels) (done : List (HardwareMixer × Nat)) : MixerLevels :=
  done.foldl (fun levels w => Function.update levels w.1 w.2) levels

section
variable {F : Type} [BEq F] (mixerLevel : F → Nat) (old next : HardwareMixer → F)
  (changed : HardwareMixer → Bool)

/-- What an update writes. -/
def updateWrites : List (HardwareMixer × Nat) :=
  hardwareMixers.filterMap fun mixer =>
    if changed mixer || old mixer != next mixer then some (mixer, mixerLevel (next mixer)) else none

/-- The mixers at the levels behind some writes, with those from before kept. -/
def Begun (before : MixerLevels) (done : List (HardwareMixer × Nat)) (s : MixerState) : Prop :=
  ∃ m, Carries m (some before) s ∧ m.levels = written before done

variable {mixerLevel old next changed}

theorem written_append {levels : MixerLevels} {done : List (HardwareMixer × Nat)} {mixer : HardwareMixer}
    {level : Nat} :
    written levels (done ++ [(mixer, level)]) = Function.update (written levels done) mixer level := by
  rw [written, List.foldl_append]
  rfl

/-- The writes of an update whose mixers are there. -/
theorem begin_writes_spec (answers : MixerAnswers) (mixerLevel : F → Nat) (old next : HardwareMixer → F)
    (changed : HardwareMixer → Bool) :
    Triple (Carries m (some m.levels)) (hardwareMixers.forM fun mixer =>
        Fallible.whenever (changed mixer || old mixer != next mixer)
          (setMixerLevel answers mixer (mixerLevel (next mixer))))
      (fun _ => Begun m.levels (updateWrites mixerLevel old next changed))
      fun _ s => ∃ done, done <+: updateWrites mixerLevel old next changed ∧ Begun m.levels done s := by
  let write (mixer : HardwareMixer) : Option (HardwareMixer × Nat) :=
    if changed mixer || old mixer != next mixer then some (mixer, mixerLevel (next mixer)) else none
  refine (Triple.forM (I := fun done => Begun m.levels (done.filterMap write))
    fun done mixer rest hl => ?_).imp (fun s hs => ⟨m, hs, rfl⟩) (fun _ _ h => h) fun _ _ h => h
  have happend : (done ++ [mixer]).filterMap write = done.filterMap write ++ (write mixer).toList := by
    rw [List.filterMap_append, List.filterMap_cons, List.filterMap_nil]
    cases write mixer <;> rfl
  refine Triple.whenever (fun hc => ?_) fun hc s hs => ?_
  · have hwrite : write mixer = some (mixer, mixerLevel (next mixer)) := if_pos hc
    rw [happend, hwrite]
    refine Triple.of_exists fun n => Triple.of_and fun hlevels => ?_
    refine setMixerLevel_spec.imp (fun _ h => h) (fun _ s hs => ?_) fun _ s hs => ?_
    · obtain ⟨n', hheld, hset, -⟩ := hs
      exact ⟨n', hheld, by rw [hset, hlevels, Option.toList_some, written_append]⟩
    · obtain ⟨n', hheld, htouched⟩ := hs
      refine ⟨done.filterMap write, ?_, n', hheld, htouched.levels.trans hlevels⟩
      rw [updateWrites, hl, List.filterMap_append]
      exact List.prefix_append ..
  · have hwrite : write mixer = none := if_neg (by rw [hc]; exact Bool.false_ne_true)
    rw [happend, hwrite, Option.toList_none, List.append_nil]
    exact hs

/-- The mixers are there behind a first use, unless it fails. -/
theorem openMixers_cases (answers : MixerAnswers) {s : MixerState} (h : s.updateMixers = none) :
    (∃ m s', openMixers answers s = some (.ok m, s') ∧ levelsBefore answers s = some m.levels ∧
      Carries m none s') ∨
    ∃ e s', openMixers answers s = some (.error e, s') ∧ levelsBefore answers s = none ∧
      s'.mixers = none ∧ s'.updateMixers = none := by
  obtain ⟨mixers, update, calls⟩ := s
  obtain rfl : update = none := h
  cases mixers with
  | some m => exact .inl ⟨m, _, rfl, rfl, rfl, rfl⟩
  | none =>
    cases hopen : answers.opening calls with
    | ok m =>
      refine .inl ⟨m, ⟨some m, none, calls + 1⟩, ?_, ?_, rfl, rfl⟩
      · simp [openMixers, Fallible.bind_apply, Fallible.get, Fallible.modify, Fallible.of, hopen]
        rfl
      · simp [levelsBefore, hopen, Except.toOption]
    | error e =>
      refine .inr ⟨e, ⟨none, none, calls + 1⟩, ?_, ?_, rfl, rfl⟩
      · simp [openMixers, Fallible.bind_apply, Fallible.get, Fallible.modify, Fallible.of, hopen]
      · simp [levelsBefore, hopen, Except.toOption]

theorem begin_spec {s s' : MixerState} {r : Except HardwareStationError Unit}
    (h : s.updateMixers = none)
    (hbegin : beginMixerUpdate answers mixerLevel old next changed s = some (r, s')) :
    (levelsBefore answers s = none ∧ s'.mixers = none ∧ s'.updateMixers = none ∧ r ≠ .ok ()) ∨
      ∃ before done, levelsBefore answers s = some before ∧ Begun before done s' ∧
        done <+: updateWrites mixerLevel old next changed ∧
        (r = .ok () → done = updateWrites mixerLevel old next changed) := by
  have hidle : beginMixerUpdate answers mixerLevel old next changed s = (do
      let levels := (← openMixers answers).levels
      Fallible.modify fun s => { s with updateMixers := some levels }
      hardwareMixers.forM fun mixer =>
        Fallible.whenever (changed mixer || old mixer != next mixer)
          (setMixerLevel answers mixer (mixerLevel (next mixer)))) s := by
    simp only [beginMixerUpdate, Fallible.bind_apply, Fallible.get, h]
    rfl
  rw [hidle, Fallible.bind_apply] at hbegin
  rcases openMixers_cases answers h with ⟨m, s₁, hopen, hbefore, hheld⟩ |
    ⟨e, s₁, hopen, hbefore, hmixers, hupdate⟩
  · rw [hopen] at hbegin
    have hspec := begin_writes_spec answers mixerLevel old next changed
      { s₁ with updateMixers := some m.levels } ⟨hheld.1, rfl⟩
    have hrun : (hardwareMixers.forM fun mixer =>
        Fallible.whenever (changed mixer || old mixer != next mixer)
          (setMixerLevel answers mixer (mixerLevel (next mixer))))
        { s₁ with updateMixers := some m.levels } = some (r, s') := hbegin
    rw [hrun] at hspec
    refine .inr ⟨m.levels, ?_⟩
    cases r with
    | ok _ => exact ⟨_, hbefore, hspec, List.prefix_refl _, fun _ => rfl⟩
    | error e =>
      obtain ⟨done, hprefix, hbegun⟩ := hspec
      exact ⟨done, hbefore, hbegun, hprefix, fun h => (nomatch h)⟩
  · rw [hopen] at hbegin
    obtain ⟨rfl, rfl⟩ := Prod.mk.inj (Option.some.inj hbegin)
    exact .inl ⟨hbefore, hmixers, hupdate, fun h => (nomatch h)⟩

/-- Behind an update, whatever failed in it: a rollback that is tried until it succeeds ends at the levels
from before, with every path at its level; a commit keeps the levels that were written and the others
from before. -/
theorem mixerUpdate_contract {s s' : MixerState} {r : Except HardwareStationError Unit}
    (h : s.updateMixers = none)
    (hbegin : beginMixerUpdate answers mixerLevel old next changed s = some (r, s')) :
    (∀ t, RolledBack answers s' t →
      t.mixers.map (·.levels) = levelsBefore answers s ∧ t.updateMixers = none ∧
      (s'.updateMixers.isSome → ∀ m ∈ t.mixers, ∀ mixer, Settled m mixer)) ∧
    finishMixerUpdate answers true s' = some (.ok (), { s' with updateMixers := none }) ∧
    ∃ done, done <+: updateWrites mixerLevel old next changed ∧
      (r = .ok () → done = updateWrites mixerLevel old next changed) ∧
      s'.mixers.map (·.levels) = (levelsBefore answers s).map fun before => written before done := by
  rcases begin_spec h hbegin with ⟨hbefore, hmixers, hupdate, hr⟩ |
    ⟨before, done, hbefore, ⟨m, hheld, hlevels⟩, hprefix, hok⟩
  · refine ⟨fun t ht => ?_, finish_commit s', [], List.nil_prefix, fun h => absurd h hr, ?_⟩
    · obtain rfl := ht.idle hupdate
      exact ⟨by rw [hmixers, hbefore]; rfl, hupdate, fun hsome => by rw [hupdate] at hsome; nomatch hsome⟩
    · rw [hmixers, hbefore]
      rfl
  · refine ⟨fun t ht => ?_, finish_commit s', done, hprefix, hok, ?_⟩
    · obtain ⟨n, hheld', hrestored, hsettled⟩ := ht.restores ⟨m, hheld⟩
      refine ⟨by rw [hheld'.1, hbefore, Option.map_some, hrestored], hheld'.2, fun _ k hk => ?_⟩
      obtain rfl : n = k := Option.some.inj (hheld'.1.symm.trans hk)
      exact hsettled
    · rw [hheld.1, hbefore, Option.map_some, Option.map_some, hlevels]

end

/-- Two receive paths at 500. -/
def sampleMixers : MixerState := ⟨some ⟨2, fun _ _ => 500, fun _ => 500⟩, none, 0⟩

/-- The second and the third call fail. -/
def failingWrites : MixerAnswers :=
  ⟨fun _ => .error .busy, fun n => if n = 1 ∨ n = 2 then .error (.audio (-5)) else .ok ()⟩

/-- An update that fails on its second path, and a rollback that succeeds when it is tried again. -/
theorem mixerUpdate_contract_retried : ∃ s' t,
    beginMixerUpdate failingWrites id (fun _ => 500) (fun _ => 600) (fun _ => false) sampleMixers =
      some (.error (.audio (-5)), s') ∧ RolledBack failingWrites s' t ∧
    t.mixers.map (·.levels) = some fun _ => 500 := by
  have hrun : ∃ s', beginMixerUpdate failingWrites id (fun _ => 500) (fun _ => 600) (fun _ => false)
      sampleMixers = some (.error (.audio (-5)), s') ∧ ∃ t, RolledBack failingWrites s' t :=
    ⟨_, rfl, _, .retry rfl (.done rfl)⟩
  obtain ⟨s', hbegin, t, ht⟩ := hrun
  exact ⟨s', t, hbegin, ht, ((mixerUpdate_contract rfl hbegin).1 t ht).1⟩

end Driver
end UsbRadioPlus
