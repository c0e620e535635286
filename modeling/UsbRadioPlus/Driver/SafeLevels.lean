import UsbRadioPlus.Driver.OutputEffects

/-!
# Safe levels of a bank

A pin is remembered as safe-high when the bank has a high safe level for it and no claim. `Safe` says
that these pins are high, within the outputs of the plan. `Spared` pins are neither claimed nor
remembered, and no binding or restored state can make them so.

Most operations narrow a bank (`Narrows`): they claim nothing and remember nothing new. They keep
`Safe` as long as they change no pin that stays remembered (`Safe.of_narrows`).
-/

namespace UsbRadioPlus
namespace Driver

open Sys.Mask

namespace SiteBankState

variable {site site' site'' : SiteBankState} {m : U32}

/-- Pins that the site neither claims nor remembers, and that stay so. -/
structure Spared (site : SiteBankState) (m : U32) : Prop where
  claimed : Apart site.snapshot.claimedMask m
  reserved : Within (m &&& site.snapshot.outputMask) site.snapshot.reservedMask
  safe : Apart site.safeHighMask m

/-- A change of a bank that claims and remembers nothing new. -/
structure Narrows (site site' : SiteBankState) : Prop where
  claimed : site'.snapshot.claimedMask = site.snapshot.claimedMask
  outputs : site'.snapshot.outputMask = site.snapshot.outputMask
  reserved : Within site.snapshot.reservedMask site'.snapshot.reservedMask
  safe : Within site'.safeHighMask site.safeHighMask
  free : Apart site.safeHighMask site.snapshot.reservedMask →
    Apart site'.safeHighMask site'.snapshot.reservedMask

theorem Narrows.refl (site : SiteBankState) : Narrows site site :=
  ⟨rfl, rfl, within_refl, within_refl, id⟩

theorem narrows_of_same (h : SameClaims site site')
    (hs : site'.safeHighMask = site.safeHighMask) : Narrows site site' :=
  ⟨h.claimed, h.outputs, h.reserved ▸ within_refl, hs ▸ within_refl, by rw [h.reserved, hs]; exact id⟩

theorem narrows_reject (error : SiteError) : Narrows site (site.reject error) :=
  narrows_of_same (sameClaims_reject error) rfl

theorem narrows_reserve (mask : U32) : Narrows site (site.reserve mask).1 := by
  by_cases hc : Apart site.snapshot.claimedMask mask
  · rw [reserve_of_apart hc]
    exact ⟨rfl, rfl, within_or_left, within_and_left,
      fun hfree => apart_or (hfree.mono_left within_and_left) (apart_clear _ _)⟩
  · rw [reserve_of_claimed hc]
    exact narrows_reject _

theorem narrows_retire (output : U8) : Narrows site (site.retire output).1 :=
  ⟨rfl, rfl, within_refl, within_refl, id⟩

theorem narrows_releaseSafeHigh (mask : U8) : Narrows site (site.releaseSafeHigh mask) :=
  ⟨rfl, rfl, within_refl, within_and_left, fun h => h.mono_left within_and_left⟩

theorem narrows_observe (value : Option U32) (now : Nat) : Narrows site (site.observe value now) :=
  narrows_of_same (sameClaims_observe value now) (by cases value <;> rfl)

theorem narrows_submitted (value : U32) : Narrows site (site.submitted value) :=
  narrows_of_same (sameClaims_submitted value) rfl

theorem narrows_serviced (success : Bool) : Narrows site (site.serviced success) :=
  narrows_of_same (sameClaims_serviced success) rfl

theorem Spared.of_narrows (h : site.Spared m) (hn : Narrows site site') : site'.Spared m where
  claimed := by rw [hn.claimed]; exact h.claimed
  reserved := by rw [hn.outputs]; exact h.reserved.trans hn.reserved
  safe := h.safe.mono_left hn.safe

/-- A reservation spares its pins. -/
theorem spared_reserve (h : site.reserve m = (site', true)) : site'.Spared m := by
  by_cases hc : Apart site.snapshot.claimedMask m
  · rw [reserve_of_apart hc] at h
    obtain rfl := congrArg Prod.fst h
    exact ⟨hc, within_and_left.trans within_or_right, apart_clear _ _⟩
  · rw [reserve_of_claimed hc] at h
    exact absurd (congrArg Prod.snd h) (by simp)

theorem Spared.bind {next next' : Nat} {binding : SiteDigitalBinding} {output output' : U8}
    (hm : site.Spared m) (h : site.bind next binding output = .ok (site', output', next')) :
    site'.Spared m := by
  obtain ⟨hadmits, hclaimed, hreserved, houtputs, hsafe, -⟩ := bind_spec h
  have hfree : Apart binding.outputMask m :=
    apart_of_within hadmits.available (hadmits.free.mono hm.reserved)
  refine ⟨by rw [hclaimed]; exact hfree, by rw [houtputs, hreserved]; exact hm.reserved, ?_⟩
  rw [hsafe]
  exact (apart_or (hm.safe.mono_left within_and_left).symm
    (hfree.mono_left hadmits.safe).symm).symm

theorem retained_apart (hreserved : Within (m &&& site.snapshot.outputMask)
    site.snapshot.reservedMask) (high : U8) :
    Apart (high.setWidth 32 &&& site.snapshot.outputMask &&& ~~~site.snapshot.reservedMask) m := by
  rw [apart_iff]
  intro i hi
  simp only [BitVec.getLsbD_and, BitVec.getLsbD_not, Bool.and_eq_true, Bool.not_eq_true'] at hi
  obtain ⟨⟨-, ho⟩, -, hr⟩ := hi
  by_contra hm
  have hw := within_iff.mp hreserved i (by simp [ho, Bool.not_eq_false _ ▸ hm])
  exact absurd (hw.symm.trans hr) (by simp)

theorem Spared.restoreSafeHigh (hm : site.Spared m) (high : U8) :
    (site.restoreSafeHigh high).Spared m where
  claimed := hm.claimed
  reserved := hm.reserved
  safe := (apart_or (hm.safe.mono_left within_and_left).symm
    ((retained_apart hm.reserved high).mono_left within_and_left).symm).symm

/-- A rebuilt bank spares what it reserves. -/
theorem spared_new (next : Nat) (inputs initial : U32) {outputs reserved : U32}
    (h : Within (m &&& outputs) reserved) (high : U8) :
    ((new next inputs outputs reserved initial).1.restoreSafeHigh high).Spared m :=
  Spared.restoreSafeHigh ⟨apart_zero, h, apart_zero⟩ high

/-- Of the safe levels a rebuilt bank remembers some, and no others. -/
theorem safeHighMask_new (next : Nat) (inputs initial outputs reserved safe : U32) :
    Within ((new next inputs outputs reserved initial).1.restoreSafeHigh
      (safe.setWidth 8)).safeHighMask (safe &&& outputs) := by
  rw [within_iff]
  intro i hi
  simp only [restoreSafeHigh, BitVec.getLsbD_or, BitVec.getLsbD_and] at hi
  obtain h | h := Bool.or_eq_true_iff.mp hi
  · have h0 : (0 : U32).getLsbD i = true := (Bool.and_eq_true_iff.mp h).1
    simp at h0
  · have hretained := Bool.and_eq_true_iff.mp (Bool.and_eq_true_iff.mp h).1
    have hboth := Bool.and_eq_true_iff.mp hretained.1
    have hsafe := hboth.1
    simp only [BitVec.getLsbD_setWidth, Bool.and_eq_true] at hsafe
    rw [BitVec.getLsbD_and, hsafe.2.2]
    exact hboth.2

end SiteBankState

namespace OutputState

open SiteBankState

variable {s s' : OutputState} {plan : HardwarePlan} {bank : SiteBank}

/-- The bank's claims and safe levels are outputs of the plan, and what it remembers is high. -/
structure Safe (plan : HardwarePlan) (s : OutputState) (bank : SiteBank) : Prop where
  outputs : Within (s.site bank).snapshot.outputMask ((plan.outputEnableMask bank).setWidth 32)
  claimed : Within (s.site bank).snapshot.claimedMask (s.site bank).snapshot.outputMask
  safe : Within (s.site bank).safeHighMask (s.site bank).snapshot.outputMask
  free : Apart (s.site bank).safeHighMask (s.site bank).snapshot.reservedMask
  high : ∀ i, (s.site bank).safeHighMask.getLsbD i = true →
    (s.site bank).snapshot.claimedMask.getLsbD i = false → (s.output bank).getLsbD i = true

/-- Where the bank is narrowed and the pins that stay remembered keep their levels. -/
theorem Safe.of_narrows (h : Safe plan s bank) (hn : Narrows (s.site bank) (s'.site bank))
    (hout : ∀ i, (s'.site bank).safeHighMask.getLsbD i = true →
      (s'.site bank).snapshot.claimedMask.getLsbD i = false →
      (s'.output bank).getLsbD i = (s.output bank).getLsbD i) : Safe plan s' bank where
  outputs := by rw [hn.outputs]; exact h.outputs
  claimed := by rw [hn.claimed, hn.outputs]; exact h.claimed
  safe := by rw [hn.outputs]; exact hn.safe.trans h.safe
  free := hn.free h.free
  high i hi hc := by
    rw [hout i hi hc]
    exact h.high i (within_iff.mp hn.safe i hi) (by rwa [hn.claimed] at hc)

/-- A pin of the bank is one of its eight. -/
theorem Safe.lt (h : Safe plan s bank) {i : Nat}
    (hi : (s.site bank).snapshot.outputMask.getLsbD i = true) : i < 8 := by
  have he := within_iff.mp h.outputs i hi
  rw [BitVec.getLsbD_setWidth, Bool.and_eq_true] at he
  exact BitVec.lt_of_getLsbD he.2

/-- A step of the state that keeps the safe levels, and spares what was spared. -/
structure Settles (plan : HardwarePlan) (s s' : OutputState) : Prop where
  safe : ∀ bank, Safe plan s bank → Safe plan s' bank
  spared : ∀ bank m, (s.site bank).Spared m → (s'.site bank).Spared m

/-- A step that narrows the banks. -/
theorem settles_of_narrows (hn : ∀ bank, Narrows (s.site bank) (s'.site bank))
    (hout : ∀ bank i, (s'.site bank).safeHighMask.getLsbD i = true →
      (s'.site bank).snapshot.claimedMask.getLsbD i = false →
      (s'.output bank).getLsbD i = (s.output bank).getLsbD i) : Settles plan s s' :=
  ⟨fun bank h => h.of_narrows (hn bank) (hout bank), fun bank _ h => h.of_narrows (hn bank)⟩

theorem narrows_setSite {site : SiteBankState} (h : Narrows (s.site bank) site) (b : SiteBank) :
    Narrows (s.site b) ((s.setSite bank site).site b) := by
  by_cases hb : b = bank
  · subst hb
    rw [site_setSite]
    exact h
  · rw [site_setSite_of_ne site hb]
    exact .refl _

theorem settles_setSite {site : SiteBankState} (h : Narrows (s.site bank) site) :
    Settles plan s (s.setSite bank site) :=
  settles_of_narrows (narrows_setSite h) fun b i _ _ => by rw [output_setSite]

/-! ## The operations -/

/-- A binding gives the pins that it releases their safe levels. -/
theorem safe_bind {next next' : Nat} {binding : SiteDigitalBinding} {site : SiteBankState}
    {output : U8} (h : Safe plan s bank)
    (hbind : (s.site bank).bind next binding (s.output bank) = .ok (site, output, next')) :
    Safe plan ((s.setSite bank site).setOutput bank output) bank := by
  obtain ⟨hadmits, hclaimed, hreserved, houtputs, hsafe, hvalue⟩ := bind_spec hbind
  have hsite : ((s.setSite bank site).setOutput bank output).site bank = site := by
    rw [site_setOutput, site_setSite]
  refine ⟨by rw [hsite, houtputs]; exact h.outputs, ?_, ?_, ?_, fun i hi hc => ?_⟩
  · rw [hsite, hclaimed, houtputs]
    exact hadmits.available
  · rw [hsite, hsafe, houtputs]
    refine within_iff.mpr fun i hi => ?_
    obtain hi | hi := Bool.or_eq_true_iff.mp (BitVec.getLsbD_or ▸ hi)
    · exact within_iff.mp h.safe i (within_iff.mp within_and_left i hi)
    · exact within_iff.mp (hadmits.safe.trans hadmits.available) i hi
  · rw [hsite, hsafe, hreserved]
    exact (apart_or (h.free.mono_left within_and_left).symm
      (hadmits.free.mono_left hadmits.safe).symm).symm
  · rw [hsite, hsafe, BitVec.getLsbD_or, BitVec.getLsbD_and, BitVec.getLsbD_not] at hi
    rw [hsite, hclaimed] at hc
    have hfree : binding.safeHighMask.getLsbD i = false := hadmits.safe.getLsbD_eq_false hc
    have hold : (s.site bank).safeHighMask.getLsbD i = true := by
      simp only [hfree, hc, Bool.or_false, Bool.and_eq_true] at hi
      exact hi.1
    have hlt : i < 8 := h.lt (within_iff.mp h.safe i hold)
    rw [output_setOutput, hvalue]
    cases hwas : (s.site bank).snapshot.claimedMask.getLsbD i with
    | true =>
      simp only [BitVec.getLsbD_setWidth, BitVec.getLsbD_or, BitVec.getLsbD_and,
        BitVec.getLsbD_not, hold, hwas, hc, hlt, show i < 32 by omega]
      simp
    | false =>
      simp only [BitVec.getLsbD_setWidth, BitVec.getLsbD_or, BitVec.getLsbD_and,
        BitVec.getLsbD_not, h.high i hold hwas, hwas, hc, hlt, show i < 32 by omega]
      simp

theorem settles_siteBind (next : Nat) (binding : SiteDigitalBinding) (devices : ServiceDevices)
    (answers : DeviceAnswers) :
    Settles plan s (s.siteBind next bank binding devices answers).1.outputs := by
  unfold OutputState.siteBind
  simp only
  split
  · exact settles_setSite (narrows_reject _)
  · split
    · exact settles_setSite (narrows_reject _)
    · split
      · exact settles_setSite (narrows_reject _)
      · next site output next' hbind =>
        constructor
        · intro b h
          by_cases hb : b = bank
          · subst hb
            exact safe_bind h hbind
          · refine h.of_narrows ?_ fun i _ _ => ?_
            · rw [site_setOutput, site_setSite_of_ne _ hb]
              exact .refl _
            · rw [output_setOutput_of_ne _ hb, output_setSite]
        · intro b m h
          rw [site_setOutput]
          by_cases hb : b = bank
          · subst hb
            rw [site_setSite]
            exact h.bind hbind
          · rwa [site_setSite_of_ne _ hb]

theorem settles_sitePublish (request : SiteDigitalRequest) :
    Settles plan s (s.sitePublish bank request) := by
  unfold OutputState.sitePublish
  simp only
  split
  · exact settles_setSite (narrows_reject _)
  · next site output happly =>
    obtain ⟨hsame, hsafe, hmask, hhigh, hvalue⟩ := apply_spec happly
    have hn := narrows_of_same hsame hsafe
    refine settles_of_narrows (fun b => ?_) fun b i hi hc => ?_
    · rw [site_setOutput]
      exact narrows_setSite hn b
    · rw [site_setOutput] at hi hc
      by_cases hb : b = bank
      · subst hb
        rw [site_setSite, hsame.claimed] at hc
        have hrequest := hmask.getLsbD_eq_false hc
        have hlevel := hhigh.getLsbD_eq_false hrequest
        rw [output_setOutput, hvalue, BitVec.getLsbD_setWidth, getLsbD_fill hlevel,
          getLsbD_clear hrequest, BitVec.getLsbD_setWidth]
        by_cases hlt : i < 8
        · simp [hlt, show i < 32 by omega]
        · simp [BitVec.getLsbD_of_ge _ _ (Nat.le_of_not_lt hlt), hlt]
      · rw [output_setOutput_of_ne _ hb, output_setSite]

theorem settles_apply {command : OutputCommand} {devices : ServiceDevices}
    {answers : DeviceAnswers} {outcome : Outcome}
    (happly : s.apply command devices answers = some outcome) :
    Settles plan s outcome.outputs := by
  have hrefl : Settles plan s s := ⟨fun _ => id, fun _ _ => id⟩
  unfold OutputState.apply at happly
  simp only at happly
  split at happly
  · obtain rfl := Option.some.inj happly
    exact hrefl
  · split at happly
    · obtain rfl := Option.some.inj happly
      exact settles_setSite (narrows_reject _)
    · split at happly
      · obtain rfl := Option.some.inj happly
        exact hrefl
      · cases happly
      · split at happly
        · obtain rfl := Option.some.inj happly
          exact hrefl
        · obtain rfl := Option.some.inj happly
          refine settles_of_narrows (fun b => ?_) fun b i hi hc => ?_
          · have hn := @narrows_setSite s command.bank _
              (@narrows_releaseSafeHigh (s.site command.bank) command.bit) b
            by_cases hb : b = command.bank
            · subst hb
              rw [site_setSite] at hn ⊢
              rwa [site_setOutput]
            · rw [site_setSite_of_ne _ hb, site_setOutput]
              exact .refl _
          · rw [output_setSite]
            by_cases hb : b = command.bank
            · subst hb
              -- an accepted command forgets the safe level of its pin
              have hbit : command.bit.getLsbD i = false := by
                rw [site_setSite, site_setOutput] at hi
                simp only [releaseSafeHigh, BitVec.getLsbD_and, BitVec.getLsbD_not,
                  BitVec.getLsbD_setWidth, Bool.and_eq_true, Bool.not_eq_true',
                  Bool.and_eq_false_iff] at hi
                obtain ⟨-, hlt, hlt' | hbit⟩ := hi
                · simp [hlt] at hlt'
                · exact hbit
              rw [output_setOutput]
              unfold applyPersistent
              split
              · exact getLsbD_clear hbit
              · exact getLsbD_fill hbit
              · rfl
            · rw [output_setOutput_of_ne _ hb]

end OutputState
end Driver
end UsbRadioPlus
