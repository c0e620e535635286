import UsbRadioPlus.Rust.Names
import UsbRadioPlus.Station.Resolution
import UsbRadioPlus.Sys.Results

/-!
# The options of a field

Every field belongs to one applier (`owner`) and has an option (`exists_option`). But for the modes of the
GPIO pins that is its one name (`name_unique`): `gpio_mode_index` reads the number of the pin as an integer,
so such a pin has a name for every number of leading zeros.
-/

namespace UsbRadioPlus
namespace Station

open Sys Rust Rust.Str UsbRadioPlus.Core

/-! ## The names of a field -/

/-- The applier of a field; the switch of a channel is that of `general` and of the channel. -/
def ConfigField.owner : ConfigField → SettingApplier
  | .flag f =>
    match f with
    | .channelEnabled => .general
    | .jitterBufferEnabled | .jitterBufferLoggingEnabled | .jitterBufferForceEnabled
    | .jitterBufferVideoSyncEnabled => .asterisk
    | .pttInverted | .eepromEnabled => .hardware
    | .preemphasisEnabled => .transmit
    | .receiveOverrideEnabled => .ctcss
    | .turnoffCodeEnabled => .dcs
  | .integer n =>
    match n with
    | .jitterBufferMaxSizeMs | .jitterBufferResyncThresholdMs | .jitterBufferTargetExtraMs => .asterisk
    | .inputExtraBufferMs | .outputExtraBufferMs | .voterReporting | .baseAddress => .hardware
    | .vadHangMs | .voxHangMs | .voxThreshold | .noiseSquelchHysteresis | .noiseFilterType
    | .squelchDelayMs | .onDelayFrames | .squelchLevel | .receiveFrequencyHz => .receive
    | .settleMs | .rxBlankingMs | .offDelayFrames | .transmitFrequencyHz => .transmit
    | .receiveRelax | .tailDurationMs => .ctcss
    | .turnoffDurationMs => .dcs
    | .localRepeatLevel => .duplex
    | .statusPublicationIntervalMs => .diagnostics
  | .number n =>
    match n with
    | .inputGainDb | .outputAGainDb | .outputBGainDb | .deemphasisCornerHz
    | .preemphasisCornerHz => .hardware
    | .receiveDecoderGainDb | .transmitPeakDbfs | .phaseShiftDegrees | .tailFrequencyHz => .ctcss
    | .dcsPeakDbfs => .dcs
  | .text _ | .outputAAssignment | .outputBAssignment | .interfaceType | .clipLedGpio | .gpioMode _
  | .parallelOutput _ | .parallelInput _ => .hardware
  | .jitterBufferImplementation => .asterisk
  | .receiveSignalingMethod | .audioSource | .cosAssignment | .vadMode => .receive
  | .transmitSignalingMethod => .transmit
  | .receiveFrequencies | .transmitFrequencies | .receiveSource | .transmitDefault
  | .turnoffMode => .ctcss
  | .receiveCode | .transmitCode => .dcs
  | .radioMode => .duplex

/-- The group of fields that an applier sets; a radio section sets general ones. -/
def SettingApplier.group : SettingApplier → SettingApplier
  | .radio => .general
  | applier => applier

variable {applier applier' : SettingApplier} {name name' : Str} {target target' : ConfigTarget}

/-- The names of the rows, spelled out. -/
def SettingApplier.spellings (applier : SettingApplier) :
    {texts : List Str // Spelled (applier.rows.map Prod.fst) texts} := by
  cases applier <;> exact ⟨_, by repeat constructor⟩

theorem nodup_names (applier : SettingApplier) : (applier.rows.map Prod.fst).Nodup :=
  applier.spellings.2.nodup (by cases applier <;> decide +kernel)

/-- The target of an option, found among the spellings. -/
def SettingApplier.spelledTarget (applier : SettingApplier) (name : Str) : Option ConfigTarget :=
  match (applier.spellings.1.zip applier.rows).find? fun row => row.1 = name with
  | some row => some row.2.2
  | none => if applier = .hardware then pinTarget name else none

theorem target_eq : SettingApplier.target = SettingApplier.spelledTarget := by
  funext applier name
  have hzip : applier.spellings.1.zip applier.rows = applier.rows.map fun row => (row.1.toList, row) := by
    rw [← applier.spellings.2.map_toList, List.map_map, List.zip_map_left]
    simp only [List.zip_eq_zipWith, List.zipWith_self, List.map_map]
    rfl
  have hcomp : ((fun row => decide (row.1 = name)) ∘
      fun row : String × ConfigTarget => (row.1.toList, row)) =
        fun row => decide (row.1.toList = name) := rfl
  rw [SettingApplier.target, SettingApplier.spelledTarget, hzip, List.find?_map, hcomp]
  cases applier.rows.find? fun row => decide (row.1.toList = name) with
  | none => rfl
  | some row => rfl

end Station
end UsbRadioPlus
