import UsbRadioPlus.Core.ProfileOverlay

/-!
# The parser and the validator have the same ranges

A scalar is `Accepted` if every range check of its field takes it. The shipped scalars are, and so is what
the grammar of an option takes: the bounds of every row of `OPTIONS` are those of the checks of its field.
`run_forall` carries it over the overlays, so `validate` fails on no range.
-/

namespace UsbRadioPlus
namespace Core

open Sys Rust Rust.Str

/-- The checks of a field by itself take the value. -/
def Accepted : (f : Field) → f.Value → Prop
  | .number n, value => ∀ field minimum maximum,
      .finiteRange field n minimum maximum ∈ Check.scalars →
        finiteRange field value minimum maximum = .ok ()
  | .oversample, value => value = 1 ∨ value = 2 ∨ value = 4
  | _, _ => True

/-! ## Bounds -/

/-- The bounds of the checks of a scalar. -/
def checkBounds (n : Number) : List (F64 × F64) :=
  Check.scalars.filterMap fun
    | .finiteRange _ n' minimum maximum => if n' = n then some (minimum, maximum) else none
    | _ => none

theorem mem_checkBounds {field : String} {n : Number} {minimum maximum : F64}
    (h : .finiteRange field n minimum maximum ∈ Check.scalars) : (minimum, maximum) ∈ checkBounds n :=
  List.mem_filterMap.mpr ⟨_, h, if_pos rfl⟩

/-- The code of a scalar, and the bounds of its check. -/
def scalarCheck : Check → Option (Nat × F64 × F64)
  | .finiteRange _ n minimum maximum => some (n.code, minimum, maximum)
  | _ => none

/-- The number that an option sets, with its bounds. -/
def scalarOption (row : OptionRow) : Option (Nat × F64 × F64) :=
  match row.target with
  | .number n minimum maximum => some (n.code, minimum, maximum)
  | _ => none

/-- The bounds of the options are those of the checks. -/
theorem bounds_of_option : ∀ row ∈ OPTIONS, ∀ n minimum maximum,
    row.target = .number n minimum maximum → ∀ bounds ∈ checkBounds n, bounds = (minimum, maximum) := by
  have htable : (OPTIONS.filterMap scalarOption).all (fun option =>
      (Check.scalars.filterMap scalarCheck).all fun check =>
        !Nat.beq check.1 option.1 || decide (check.2 = option.2)) = true := by decide +kernel
  intro row hrow n minimum maximum htarget bounds hbounds
  have hoption : (n.code, minimum, maximum) ∈ OPTIONS.filterMap scalarOption :=
    List.mem_filterMap.mpr ⟨row, hrow, by rw [scalarOption, htarget]⟩
  obtain ⟨check, hcheck, hbounds⟩ := List.mem_filterMap.mp hbounds
  cases check with
  | finiteRange field n' minimum' maximum' =>
    obtain ⟨rfl, hvalue⟩ := Option.ite_none_right_eq_some.mp hbounds
    have hall := List.all_eq_true.mp (List.all_eq_true.mp htable _ hoption)
      (n'.code, minimum', maximum') (List.mem_filterMap.mpr ⟨_, hcheck, rfl⟩)
    rw [Nat.beq_refl, Bool.not_true, Bool.false_or] at hall
    exact Option.some.inj hvalue ▸ of_decide_eq_true hall
  | _ => cases hbounds

/-- The shipped settings pass their own checks. -/
theorem validate_shipped (role : ChainRole) : (ProcessingChain.shipped role).validate = .ok () := by
  cases role <;> decide +kernel

/-! ## Values -/

theorem finiteRange_of_parseNumber {minimum maximum : F64} {text : Str} {value : F64}
    (h : parseNumber minimum maximum text = .ok value) (field : String) :
    finiteRange field value minimum maximum = .ok () := by
  rw [parseNumber] at h
  cases hparse : F64.parse (trim text) with
  | none =>
    rw [hparse] at h
    cases h
  | some parsed =>
    rw [hparse] at h
    by_cases hrange : (parsed.isFinite && minimum.le parsed && parsed.le maximum) = true
    · simp only [if_pos hrange] at h
      obtain rfl := Except.ok.inj h
      exact if_pos hrange
    · simp only [if_neg hrange] at h
      cases h

theorem accepted_of_oversampleFactor {text : Str} {value : Nat}
    (h : oversampleFactor text = .ok value) : value = 1 ∨ value = 2 ∨ value = 4 := by
  rw [oversampleFactor] at h
  split at h
  · exact .inl (Except.ok.inj h).symm
  · split at h
    · exact .inr (.inl (Except.ok.inj h).symm)
    · split at h
      · exact .inr (.inr (Except.ok.inj h).symm)
      · cases h

/-- What the grammar of an option takes, the checks of its field take. -/
theorem accepted_of_parse {row : OptionRow} (hrow : row ∈ OPTIONS) {text : Str}
    {value : row.target.field.Value} (h : row.target.parse text = .ok value) :
    Accepted row.target.field value := by
  obtain ⟨name, target, role⟩ := row
  cases target with
  | number n minimum maximum =>
    intro field minimum' maximum' hcheck
    have hbounds := bounds_of_option _ hrow n minimum maximum rfl _ (mem_checkBounds hcheck)
    obtain ⟨rfl, rfl⟩ := Prod.mk.inj hbounds
    exact finiteRange_of_parseNumber h field
  | oversample => exact accepted_of_oversampleFactor h
  | _ => exact trivial

theorem accepted_shipped (role : ChainRole) (f : Field) :
    Accepted f (ProcessingChain.shippedValue role f) := by
  have h := validate_shipped role
  rw [ProcessingChain.validate, bind_eq_ok_iff] at h
  obtain ⟨-, -, h⟩ := h
  rw [bind_eq_ok_iff] at h
  obtain ⟨-, -, h⟩ := h
  cases f with
  | number n => exact fun field minimum maximum hcheck => forM_eq_ok_iff.mp h _ hcheck
  | oversample => exact .inr (.inr rfl)
  | _ => exact trivial

/-! ## Chains -/

theorem accepted_effects {role : ChainRole} {overlay : RawOverlay} :
    ∀ e ∈ overlay.effects role, ∀ (f : Field) (value : f.Value), e.value? f = some value →
      Accepted f value := by
  intro e he f value hvalue
  obtain ⟨setting, -, rfl⟩ := List.mem_map.mp he
  obtain ⟨row, hrow, -, parsed, hparse, heq⟩ := value_applySetting hvalue
  cases heq
  exact accepted_of_parse (optionRow_mem hrow).1 hparse

theorem accepted_overlaid {role : ChainRole} {flat : RawOverlay} {scopedOverlay : Option RawOverlay}
    {s : (f : Field) → f.Value} (hs : ∀ f, Accepted f (s f)) (f : Field) :
    Accepted f ((ResolvedProfile.overlaid role flat scopedOverlay s).1 f) := by
  have hflat : ∀ f, Accepted f (ResolvedProfile.afterFlat role flat s f) :=
    Effect.run_forall hs accepted_effects
  cases scopedOverlay with
  | none => exact hflat f
  | some overlay => exact Effect.run_forall hflat accepted_effects f

/-- A chain of accepted values fails on its stages or on the order of two scalars. -/
theorem error_of_accepted {chain : ProcessingChain} (h : ∀ f, Accepted f (chain.value f))
    {e : ProcessingConfigError} (herror : chain.validate = .error e) :
    (∃ e', e = .stageOrder e') ∨ e = .stageNotAllowed chain.role ∨
      ∃ upper lower, e = .ordering upper lower := by
  rw [ProcessingChain.validate, bind_eq_error_iff, mapError_eq_error_iff] at herror
  rcases herror with ⟨e', -, rfl⟩ | ⟨-, -, herror⟩
  · exact .inl ⟨e', rfl⟩
  rw [bind_eq_error_iff] at herror
  rcases herror with herror | ⟨-, -, herror⟩
  · rw [ProcessingChain.requireStages] at herror
    split at herror
    · cases herror
    · exact .inr (.inl (Except.error.inj herror).symm)
  obtain ⟨check, hcheck, hrun⟩ := exists_of_forM_eq_error herror
  cases check with
  | finiteRange field n minimum maximum =>
    cases (h (.number n) field minimum maximum hcheck).symm.trans hrun
  | requireGreater upperName upper lowerName lower =>
    rw [Check.run, requireGreater] at hrun
    split at hrun
    · cases hrun
    · exact .inr (.inr ⟨upperName, lowerName, (Except.error.inj hrun).symm⟩)
  | oversample => cases (if_pos (h .oversample)).symm.trans hrun

namespace ResolvedProfile

/-- `resolve` fails on no range and on no oversampling factor, and what the grammar of an option takes,
`validate` takes in the field of the option. -/
theorem resolve_ranges (role : ChainRole) (flat : RawOverlay) (scopedOverlay : Option RawOverlay) :
    (∀ field minimum maximum, resolve role flat scopedOverlay ≠
      .error (.invalidResolvedProfile (.range field minimum maximum))) ∧
    resolve role flat scopedOverlay ≠ .error (.invalidResolvedProfile .invalidOversample) ∧
    ∀ row ∈ OPTIONS, ∀ text value, row.target.parse text = .ok value →
      ∀ chain : ProcessingChain, chain.value row.target.field = value →
        (∀ field n minimum maximum, row.target.field = .number n →
          .finiteRange field n minimum maximum ∈ Check.scalars →
            Check.run chain (.finiteRange field n minimum maximum) = .ok ()) ∧
        (row.target.field = .oversample → Check.run chain .oversample = .ok ()) := by
  have hinvalid {e : ProcessingConfigError}
      (h : resolve role flat scopedOverlay = .error (.invalidResolvedProfile e)) :
      (∃ e', e = .stageOrder e') ∨ e = .stageNotAllowed role ∨
        ∃ upper lower, e = .ordering upper lower := by
    obtain ⟨hflat, hscoped⟩ := fits_of_invalid h
    rw [resolve, resolveWithDefaults_eq _ hflat hscoped] at h
    cases hvalidate : ProcessingChain.validate ⟨role, (overlaid role flat scopedOverlay
        (ProcessingChain.shippedValue role)).1⟩ with
    | error e' =>
      simp only [ProcessingChain.shipped, hvalidate] at h
      obtain rfl := ProfileResolutionError.invalidResolvedProfile.inj (Except.error.inj h)
      exact error_of_accepted (accepted_overlaid (accepted_shipped role)) hvalidate
    | ok =>
      simp only [ProcessingChain.shipped, hvalidate] at h
      cases h
  refine ⟨fun field minimum maximum h => ?_, fun h => ?_, fun row hrow text value hparse chain hchain => ?_⟩
  · rcases hinvalid h with ⟨_, h⟩ | h | ⟨_, _, h⟩ <;> cases h
  · rcases hinvalid h with ⟨_, h⟩ | h | ⟨_, _, h⟩ <;> cases h
  · have haccepted := accepted_of_parse hrow hparse
    subst hchain
    refine ⟨fun field n minimum maximum hfield hcheck => ?_, fun hfield => ?_⟩
    · rw [hfield] at haccepted
      exact haccepted field minimum maximum hcheck
    · rw [hfield] at haccepted
      exact if_pos haccepted

/-- A gain of 12 dB in the flat overlay. -/
theorem resolve_ranges_gain :
    resolve .link ⟨.link, .flat, [], "link".toList, [⟨"Input_Gain_dB".toList, "12".toList⟩]⟩ none ≠
      .error (.invalidResolvedProfile .invalidOversample) ∧
    Check.run ⟨.link, Function.update (ProcessingChain.shippedValue .link) (.number .inputGainDb) 12⟩
      (.finiteRange "input_gain_db" .inputGainDb (-30.0) 30.0) = .ok () := by
  obtain ⟨-, hoversample, hoptions⟩ := resolve_ranges .link
    ⟨.link, .flat, [], "link".toList, [⟨"Input_Gain_dB".toList, "12".toList⟩]⟩ none
  have hgain := hoptions ⟨"input_gain_db", .number .inputGainDb (-30.0) 30.0, none⟩
    (by decide +kernel) "12".toList (12 : F64) (by decide +kernel)
    ⟨.link, Function.update (ProcessingChain.shippedValue .link) (.number .inputGainDb) 12⟩
    (Function.update_self (Field.number .inputGainDb) (12 : F64) (ProcessingChain.shippedValue .link))
  exact ⟨hoversample, hgain.1 _ _ _ _ rfl (by decide +kernel)⟩

end ResolvedProfile

end Core
end UsbRadioPlus
