import UsbRadioPlus.Driver.Site

/-!
# Guarded pins of a bank

`Guarded` says that some pins of a bank are out of the site's reach: none is claimed, and as long as
the site can bind, they are reserved. Every operation on the bank keeps it; a new bank has to
reserve the pins again.
-/

namespace UsbRadioPlus
namespace Driver
namespace SiteBankState

open Sys.Mask

variable {site site' : SiteBankState} {m : U32}

/-- The site cannot bind a pin of the mask. -/
def Reserved (site : SiteBankState) (m : U32) : Prop :=
  site.snapshot.generation = 0 ∨ Within (m &&& site.snapshot.outputMask) site.snapshot.reservedMask

instance (site : SiteBankState) (m : U32) : Decidable (site.Reserved m) :=
  inferInstanceAs (Decidable (_ ∨ _))

/-- No pin of the mask is claimed, and none can be bound. -/
structure Guarded (site : SiteBankState) (m : U32) : Prop where
  claimed : Apart site.snapshot.claimedMask m
  reserved : site.Reserved m

/-- The parts of the bank that guards depend on. -/
structure SameClaims (site site' : SiteBankState) : Prop where
  claimed : site'.snapshot.claimedMask = site.snapshot.claimedMask
  reserved : site'.snapshot.reservedMask = site.snapshot.reservedMask
  outputs : site'.snapshot.outputMask = site.snapshot.outputMask
  generation : site'.snapshot.generation = site.snapshot.generation

theorem Guarded.of_same (hsame : SameClaims site site') (h : site.Guarded m) :
    site'.Guarded m where
  claimed := by rw [hsame.claimed]; exact h.claimed
  reserved := by
    unfold Reserved
    rw [hsame.generation, hsame.outputs, hsame.reserved]
    exact h.reserved

theorem sameClaims_refl (site : SiteBankState) : SameClaims site site := ⟨rfl, rfl, rfl, rfl⟩

theorem sameClaims_reject (error : SiteError) : SameClaims site (site.reject error) :=
  ⟨rfl, rfl, rfl, rfl⟩

theorem sameClaims_restoreSafeHigh (high : U8) : SameClaims site (site.restoreSafeHigh high) :=
  ⟨rfl, rfl, rfl, rfl⟩

theorem sameClaims_releaseSafeHigh (mask : U8) : SameClaims site (site.releaseSafeHigh mask) :=
  ⟨rfl, rfl, rfl, rfl⟩

theorem sameClaims_observe (value : Option U32) (now : Nat) :
    SameClaims site (site.observe value now) := by
  cases value with
  | none => exact ⟨rfl, rfl, rfl, rfl⟩
  | some value => exact ⟨rfl, rfl, rfl, rfl⟩

theorem sameClaims_submitted (value : U32) : SameClaims site (site.submitted value) :=
  ⟨rfl, rfl, rfl, rfl⟩

theorem sameClaims_serviced (success : Bool) : SameClaims site (site.serviced success) :=
  ⟨rfl, rfl, rfl, rfl⟩

/-! ## New banks, reservations and bindings -/

theorem guarded_new (next : Nat) (inputs initial : U32) {outputs reserved : U32}
    (h : Within (m &&& outputs) reserved) :
    (new next inputs outputs reserved initial).1.Guarded m :=
  ⟨apart_zero, .inr h⟩

theorem reserve_of_apart (h : Apart site.snapshot.claimedMask m) :
    site.reserve m = ({
      snapshot := { site.snapshot with reservedMask := site.snapshot.reservedMask ||| m }
      safeHighMask := site.safeHighMask &&& ~~~m }, true) :=
  if_neg (not_not_intro h)

theorem reserve_of_claimed (h : ¬ Apart site.snapshot.claimedMask m) :
    site.reserve m = (site.reject .unavailable, false) := if_pos h

/-- A reservation guards its pins and keeps the other guards. -/
theorem guarded_reserve (h : site.reserve m = (site', true)) : site'.Guarded m := by
  by_cases hc : Apart site.snapshot.claimedMask m
  · rw [reserve_of_apart hc] at h
    obtain rfl := congrArg Prod.fst h
    exact ⟨hc, .inr (within_and_left.trans within_or_right)⟩
  · rw [reserve_of_claimed hc] at h
    exact absurd (congrArg Prod.snd h) (by simp)

theorem Guarded.reserve (h : site.Guarded m) (mask : U32) : (site.reserve mask).1.Guarded m := by
  by_cases hc : Apart site.snapshot.claimedMask mask
  · rw [reserve_of_apart hc]
    exact ⟨h.claimed, h.reserved.imp_right fun hw => hw.trans within_or_left⟩
  · rw [reserve_of_claimed hc]
    exact h.of_same (sameClaims_reject _)

theorem claimedMask_reserve (mask : U32) :
    (site.reserve mask).1.snapshot.claimedMask = site.snapshot.claimedMask := by
  unfold SiteBankState.reserve
  split <;> rfl

theorem outputMask_reserve (mask : U32) :
    (site.reserve mask).1.snapshot.outputMask = site.snapshot.outputMask := by
  unfold SiteBankState.reserve
  split <;> rfl

/-- What a valid binding asks for. -/
structure Admits (site : SiteBankState) (binding : SiteDigitalBinding) : Prop where
  generation : site.snapshot.generation ≠ 0
  available : Within binding.outputMask site.snapshot.outputMask
  free : Apart binding.outputMask site.snapshot.reservedMask
  initial : Within binding.initialHighMask binding.outputMask
  safe : Within binding.safeHighMask binding.outputMask

theorem admits_of_validateBinding {binding : SiteDigitalBinding}
    (h : site.validateBinding binding = .ok ()) : site.Admits binding := by
  unfold validateBinding at h
  split at h
  · cases h
  · rename_i hgen
    split at h
    · cases h
    · rename_i havail
      split at h
      · cases h
      · rename_i hmask
        have hboth : Apart binding.outputMask
            (~~~site.snapshot.outputMask ||| site.snapshot.reservedMask) := not_not.mp havail
        have hin : Within (binding.initialHighMask ||| binding.safeHighMask) binding.outputMask :=
          not_not.mp hmask
        refine ⟨?_, hboth.mono within_or_left, hboth.mono within_or_right,
          within_or_left.trans hin, within_or_right.trans hin⟩
        unfold validateGeneration at hgen
        split at hgen
        · rename_i hg
          exact hg.2 ▸ hg.1
        · cases hgen

/-- What a successful binding leaves. -/
theorem bind_spec {next next' : Nat} {binding : SiteDigitalBinding} {output output' : U8}
    (h : site.bind next binding output = .ok (site', output', next')) :
    site.Admits binding ∧ site'.snapshot.claimedMask = binding.outputMask ∧
    site'.snapshot.reservedMask = site.snapshot.reservedMask ∧
    site'.snapshot.outputMask = site.snapshot.outputMask ∧
    site'.safeHighMask =
      (site.safeHighMask &&& ~~~binding.outputMask) ||| binding.safeHighMask ∧
    output' = (output.setWidth 32 &&& ~~~((site.snapshot.claimedMask &&& ~~~binding.outputMask) |||
        (binding.outputMask &&& ~~~site.snapshot.claimedMask)) |||
      (site.safeHighMask &&& (site.snapshot.claimedMask &&& ~~~binding.outputMask)) |||
      (binding.initialHighMask &&&
        (binding.outputMask &&& ~~~site.snapshot.claimedMask))).setWidth 8 := by
  unfold bind at h
  split at h
  · cases h
  · rename_i hvalid
    simp only at h
    split at h
    · cases h
    · simp only [Except.ok.injEq, Prod.mk.injEq] at h
      obtain ⟨rfl, rfl, -⟩ := h
      exact ⟨admits_of_validateBinding hvalid, rfl, rfl, rfl, rfl, rfl⟩

theorem Guarded.bind {next next' : Nat} {binding : SiteDigitalBinding} {output output' : U8}
    (hg : site.Guarded m) (h : site.bind next binding output = .ok (site', output', next')) :
    site'.Guarded m := by
  obtain ⟨hadmits, hclaimed, hreserved, houtputs, -, -⟩ := bind_spec h
  have hw := hg.reserved.resolve_left hadmits.generation
  refine ⟨?_, .inr (by rwa [houtputs, hreserved])⟩
  rw [hclaimed]
  exact apart_of_within hadmits.available (hadmits.free.mono hw)

/-! ## Levels -/

/-- What a valid request asks for. -/
theorem apply_spec {request : SiteDigitalRequest} {output output' : U8}
    (h : site.apply request output = .ok (site', output')) :
    SameClaims site site' ∧ site'.safeHighMask = site.safeHighMask ∧
    Within request.outputMask site.snapshot.claimedMask ∧
    Within request.highMask request.outputMask ∧
    output' = ((output.setWidth 32 &&& ~~~request.outputMask) ||| request.highMask).setWidth 8 := by
  unfold apply at h
  split at h
  · cases h
  · rename_i hvalid
    obtain ⟨rfl, rfl⟩ := Prod.mk.inj (Except.ok.inj h)
    unfold validateRequest at hvalid
    split at hvalid
    · cases hvalid
    · split at hvalid
      · cases hvalid
      · split at hvalid
        · cases hvalid
        · rename_i hmask hhigh
          exact ⟨⟨rfl, rfl, rfl, rfl⟩, rfl, not_not.mp hmask, not_not.mp hhigh, rfl⟩

theorem guarded_retire (h : Apart site.snapshot.claimedMask m) (output : U8) :
    (site.retire output).1.Guarded m := ⟨h, .inl rfl⟩

/-- An ordinary command that is permitted drives no claimed pin. -/
theorem apart_of_permitsOrdinary (h : site.permitsOrdinary m = true) :
    Apart m site.snapshot.claimedMask ∧ Within m site.snapshot.outputMask := by
  have hboth : Apart m (~~~site.snapshot.outputMask ||| site.snapshot.claimedMask) := by
    exact of_decide_eq_true h
  exact ⟨hboth.mono within_or_right, hboth.mono within_or_left⟩

end SiteBankState
end Driver
end UsbRadioPlus
