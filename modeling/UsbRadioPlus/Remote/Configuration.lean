import UsbRadioPlus.Driver.RemoteGeneration
import UsbRadioPlus.Driver.RemoteRequest
import UsbRadioPlus.Sys.Mask
import UsbRadioPlus.Sys.Results

/-!
# Operating states across the engine interface (`rust/remote/src/configuration.rs`)

The resolver describes an operating state with options and enumerations
(`rust/core/src/remote_configuration.rs`), the engine with words and the flags of their presence.
`operatingState` and `operatingConfiguration` copy between the two; a source that is left automatic is
chosen on the way to the engine, from the capabilities of the radio.
-/

namespace UsbRadioPlus

/-! ## The resolved state -/

namespace Core

/-- Configured signal provider, resolved once against physical capabilities. -/
inductive RemoteSignalSource where
  | disabled
  | dsp
  | external
  | rig
  | automatic
  deriving DecidableEq, Repr

/-- The discriminant. -/
def RemoteSignalSource.code : RemoteSignalSource → UInt32
  | .disabled => 0
  | .dsp => 1
  | .external => 2
  | .rig => 3
  | .automatic => 4

/-- The signal of one direction, as the application states it. -/
structure RemoteSignal where
  source : RemoteSignalSource
  controlSource : Option RemoteSignalSource
  enabled : Bool
  toneTenthsHz : UInt32
  dcsCode : UInt32
  inverted : Bool
  deriving DecidableEq

/-- No source is left to the setup. -/
def RemoteSignal.Explicit (s : RemoteSignal) : Prop :=
  s.source ≠ .automatic ∧ s.controlSource ≠ some .automatic

/-- A control source that is disabled counts as absent. -/
def RemoteSignal.normal (s : RemoteSignal) : RemoteSignal :=
  { s with controlSource := s.controlSource.filter (· ≠ .disabled) }

instance (s : RemoteSignal) : Decidable s.Explicit := inferInstanceAs (Decidable (_ ∧ _))

/-- The operating state, as the application states it. -/
structure RemoteOperatingState where
  receiveHz : UInt64
  transmitHz : Option UInt64
  mode : UInt32
  bandwidthHz : UInt32
  receiveVfo : UInt32
  transmitVfo : UInt32
  split : Bool
  offsetHz : Int64
  ritHz : Int64
  ritEnabled : Bool
  xitHz : Int64
  xitEnabled : Bool
  powerMw : Option UInt32
  encode : RemoteSignal
  decode : RemoteSignal
  channel : Option UInt8
  deriving DecidableEq

/-- No source of the state is automatic. -/
def RemoteOperatingState.Explicit (s : RemoteOperatingState) : Prop :=
  s.encode.Explicit ∧ s.decode.Explicit

/-- The state as the engine gives it back. -/
def RemoteOperatingState.normal (s : RemoteOperatingState) : RemoteOperatingState :=
  { s with encode := s.encode.normal, decode := s.decode.normal }

instance (s : RemoteOperatingState) : Decidable s.Explicit := inferInstanceAs (Decidable (_ ∧ _))

end Core

namespace Remote

open Sys Sys.Mask UsbRadioPlus.Core
open Driver (CallError)

/-- The signal of the engine's interface. -/
abbrev RptAdvRemoteSignal : Type := Driver.RemoteSignal

/-- The state of the engine's interface. -/
abbrev RptAdvRemoteState : Type := Driver.RemoteState

/-- The source masks of `SelectedCapabilities`. -/
structure SelectedCapabilities where
  encodeSources : BitVec 32
  decodeSources : BitVec 32
  decodeControlSources : BitVec 32
  deriving DecidableEq

/-! ## To the engine -/

/-- `source`: an automatic source is the first one that is available. -/
def source (source : RemoteSignalSource) (available : BitVec 32) (enabled : Bool) :
    Except CallError UInt32 :=
  if source ≠ .automatic then .ok source.code
  else
    match [3, 1, 2].find? fun n => available &&& (1#32 <<< n) ≠ 0#32 with
    | some n => .ok (UInt32.ofNat n)
    | none => if !enabled then .ok 0 else .error (-6)

/-- An absent control source is zero. -/
def controlSource (requested : Option RemoteSignalSource) (available : BitVec 32) (enabled : Bool) :
    Except CallError UInt32 :=
  match requested with
  | none => .ok 0
  | some selected => source selected available enabled

/-- `signal` -/
def signal (value : RemoteSignal) (available control : BitVec 32) :
    Except CallError RptAdvRemoteSignal := do
  let source ← source value.source available value.enabled
  let controlSource ← controlSource value.controlSource control value.enabled
  return {
    source
    controlSource
    enabled := value.enabled.toUInt32
    ctcssTenthsHz := value.toneTenthsHz
    dcsCode := value.dcsCode
    inverted := value.inverted.toUInt32 }

/-- `u32::from`. -/
def flag (b : Bool) : BitVec 32 := if b then 1#32 else 0#32

/-- Which fields a state has. -/
def flags (transmit power channel split rit xit : Bool) : BitVec 32 :=
  flag transmit ||| flag power <<< 1 ||| flag channel <<< 2 ||| flag split <<< 3 ||| flag rit <<< 4
    ||| flag xit <<< 5

/-- `operating_state` -/
def operatingState (value : RemoteOperatingState) (caps : SelectedCapabilities) :
    Except CallError RptAdvRemoteState := do
  let encode ← signal value.encode caps.encodeSources caps.encodeSources
  let decode ← signal value.decode caps.decodeSources caps.decodeControlSources
  return {
    receiveHz := value.receiveHz
    transmitHz := value.transmitHz.getD 0
    offsetHz := value.offsetHz
    ritHz := value.ritHz
    xitHz := value.xitHz
    flags := flags value.transmitHz.isSome value.powerMw.isSome value.channel.isSome value.split
      value.ritEnabled value.xitEnabled
    mode := value.mode
    bandwidthHz := value.bandwidthHz
    receiveVfo := value.receiveVfo
    transmitVfo := value.transmitVfo
    powerMw := value.powerMw.getD 0
    channel := (value.channel.getD 0).toUInt32
    encode
    decode }

/-! ## From the engine -/

/-- The source that a number stands for. -/
def configuredSource (value : UInt32) : Except CallError RemoteSignalSource :=
  match value with
  | 0 => .ok .disabled
  | 1 => .ok .dsp
  | 2 => .ok .external
  | 3 => .ok .rig
  | _ => .error (-1003)

/-- The control source that a number stands for; zero is none. -/
def configuredControl (value : UInt32) : Except CallError (Option RemoteSignalSource) :=
  if value ≠ 0 then (configuredSource value).map some else .ok none

/-- The signal of the engine as the application states it. -/
def configuredSignal (signal : RptAdvRemoteSignal) : Except CallError RemoteSignal :=
  if signal.enabled > 1 ∨ signal.inverted > 1 then .error (-1003)
  else do
    let source ← configuredSource signal.source
    let controlSource ← configuredControl signal.controlSource
    return {
      source
      controlSource
      enabled := signal.enabled ≠ 0
      toneTenthsHz := signal.ctcssTenthsHz
      dcsCode := signal.dcsCode
      inverted := signal.inverted ≠ 0 }

/-- `operating_configuration`: flags that nobody knows are refused. -/
def operatingConfiguration (value : RptAdvRemoteState) : Except CallError RemoteOperatingState :=
  if value.flags &&& ~~~63#32 ≠ 0#32 ∨ value.flags &&& 4#32 ≠ 0#32 ∧ value.channel > 15 then
    .error (-1003)
  else do
    let encode ← configuredSignal value.encode
    let decode ← configuredSignal value.decode
    return {
      receiveHz := value.receiveHz
      transmitHz := if value.flags &&& 1#32 ≠ 0#32 then some value.transmitHz else none
      powerMw := if value.flags &&& 2#32 ≠ 0#32 then some value.powerMw else none
      channel := if value.flags &&& 4#32 ≠ 0#32 then some value.channel.toUInt8 else none
      split := value.flags &&& 8#32 ≠ 0#32
      mode := value.mode
      bandwidthHz := value.bandwidthHz
      receiveVfo := value.receiveVfo
      transmitVfo := value.transmitVfo
      offsetHz := value.offsetHz
      ritHz := value.ritHz
      xitHz := value.xitHz
      ritEnabled := value.flags &&& 16#32 ≠ 0#32
      xitEnabled := value.flags &&& 32#32 ≠ 0#32
      encode
      decode }

/-! ## Flags -/

theorem flags_within (transmit power channel split rit xit : Bool) :
    Within (flags transmit power channel split rit xit) 63#32 := by
  revert transmit power channel split rit xit
  decide

/-- The bits of the flags, as the engine tests them. -/
theorem flags_test (transmit power channel split rit xit : Bool) :
    let f := flags transmit power channel split rit xit
    (f &&& 1#32 ≠ 0#32 ↔ transmit) ∧ (f &&& 2#32 ≠ 0#32 ↔ power) ∧
      (f &&& 4#32 ≠ 0#32 ↔ channel) ∧ (f &&& 8#32 ≠ 0#32 ↔ split) ∧
      (f &&& 16#32 ≠ 0#32 ↔ rit) ∧ (f &&& 32#32 ≠ 0#32 ↔ xit) := by
  revert transmit power channel split rit xit
  decide

/-- A word of six bits is determined by their tests. -/
theorem flags_of_within {f : BitVec 32} (h : Within f 63#32) :
    flags (f &&& 1#32 ≠ 0#32) (f &&& 2#32 ≠ 0#32) (f &&& 4#32 ≠ 0#32) (f &&& 8#32 ≠ 0#32)
      (f &&& 16#32 ≠ 0#32) (f &&& 32#32 ≠ 0#32) = f := by
  have hlow : f &&& 63#32 = f := by
    refine BitVec.eq_of_getLsbD_eq fun i _ => ?_
    rw [BitVec.getLsbD_and]
    cases hi : f.getLsbD i with
    | false => rfl
    | true => exact within_iff.mp h i hi
  have hlt : f.toNat < 64 := by
    have hle : f.toNat &&& 63 ≤ 63 := Nat.and_le_right
    have heq : f.toNat &&& 63 = f.toNat := congrArg BitVec.toNat hlow
    omega
  obtain ⟨n, hn⟩ : ∃ n : Fin 64, f = BitVec.ofNat 32 n :=
    ⟨⟨f.toNat, hlt⟩, by simp⟩
  subst hn
  clear h hlow hlt
  revert n
  decide

/-! ## Sources -/

/-- A source among the capabilities, or disabled for a signal that is off. -/
def Offered (available : BitVec 32) (enabled : Bool) (code : UInt32) : Prop :=
  (code ∈ [1, 2, 3] ∧ available.getLsbD code.toNat) ∨ (code = 0 ∧ enabled = false)

instance {available : BitVec 32} {enabled : Bool} {code : UInt32} :
    Decidable (Offered available enabled code) := inferInstanceAs (Decidable (_ ∨ _))

/-- What a requested source may become: an explicit one is itself, an automatic one is offered. -/
def Selects (requested : RemoteSignalSource) (available : BitVec 32) (enabled : Bool)
    (code : UInt32) : Prop :=
  if requested = .automatic then Offered available enabled code else code = requested.code

/-- `available & (1 << source)`. -/
theorem available_iff {available : BitVec 32} {n : Nat} :
    available &&& (1#32 <<< n) ≠ 0#32 ↔ available.getLsbD n ∧ n < 32 := by
  rw [← BitVec.twoPow_eq, BitVec.and_twoPow]
  cases hn : available.getLsbD n with
  | false => simp
  | true =>
    have hlt := BitVec.lt_of_getLsbD hn
    simp only [if_true, hlt, and_self, iff_true]
    intro h
    have := congrArg (·.getLsbD n) h
    simp [hlt] at this

theorem source_of_explicit {requested : RemoteSignalSource} (h : requested ≠ .automatic)
    (available : BitVec 32) (enabled : Bool) :
    source requested available enabled = .ok requested.code := if_pos h

theorem source_selects {requested : RemoteSignalSource} {available : BitVec 32} {enabled : Bool}
    {code : UInt32} (h : source requested available enabled = .ok code) :
    Selects requested available enabled code := by
  unfold source at h
  unfold Selects
  by_cases hauto : requested = .automatic
  · rw [if_neg (not_not_intro hauto)] at h
    rw [if_pos hauto]
    split at h
    · rename_i n hn
      have hbit := available_iff.mp (by simpa using List.find?_some hn)
      obtain rfl := Except.ok.inj h
      have hcode : ∀ n ∈ [3, 1, 2], UInt32.ofNat n ∈ [1, 2, 3] ∧ (UInt32.ofNat n).toNat = n := by
        decide
      have hn := hcode n (List.mem_of_find?_eq_some hn)
      exact .inl ⟨hn.1, hn.2.symm ▸ hbit.1⟩
    · cases enabled with
      | false => exact .inr ⟨(Except.ok.inj h).symm, rfl⟩
      | true => nomatch h
  · rw [if_pos hauto] at h
    rw [if_neg hauto]
    exact (Except.ok.inj h).symm

theorem configuredSource_code {s : RemoteSignalSource} (h : s ≠ .automatic) :
    configuredSource s.code = .ok s := by
  cases s with
  | automatic => exact absurd rfl h
  | disabled | dsp | external | rig => rfl

theorem configuredSource_eq_ok {value : UInt32} {s : RemoteSignalSource}
    (h : configuredSource value = .ok s) : value = s.code ∧ s ≠ .automatic := by
  unfold configuredSource at h
  split at h
  case h_5 => nomatch h
  all_goals
    obtain rfl := Except.ok.inj h
    exact ⟨rfl, by decide⟩

/-! ## Signals -/

/-- The same of an optional source; an absent one is zero. -/
def SelectsControl (requested : Option RemoteSignalSource) (available : BitVec 32) (enabled : Bool)
    (code : UInt32) : Prop :=
  match requested with
  | none => code = 0
  | some selected => Selects selected available enabled code

/-- The sources of a signal. -/
def SignalSelects (value : RemoteSignal) (available control : BitVec 32)
    (raw : RptAdvRemoteSignal) : Prop :=
  Selects value.source available value.enabled raw.source ∧
    SelectsControl value.controlSource control value.enabled raw.controlSource

theorem flag_word (b : Bool) : ¬b.toUInt32 > 1 ∧ decide (b.toUInt32 ≠ 0) = b := by
  cases b <;> decide

theorem word_flag {v : UInt32} (h : ¬v > 1) : (decide (v ≠ 0)).toUInt32 = v := by
  have hv : v.toNat ≤ 1 := by simpa [UInt32.lt_iff_toNat_lt] using h
  by_cases h0 : v = 0
  · subst h0
    rfl
  · have h1 : v.toNat ≠ 0 := fun h => h0 (UInt32.toNat_inj.mp h)
    rw [decide_eq_true h0]
    have hone : v.toNat = 1 := by omega
    exact (UInt32.toNat_inj.mp hone).symm

theorem controlSource_selects {requested : Option RemoteSignalSource} {available : BitVec 32}
    {enabled : Bool} {code : UInt32} (h : controlSource requested available enabled = .ok code) :
    SelectsControl requested available enabled code := by
  cases requested with
  | none => exact (Except.ok.inj h).symm
  | some selected => exact source_selects h

theorem signal_selects {value : RemoteSignal} {available control : BitVec 32}
    {raw : RptAdvRemoteSignal} (h : signal value available control = .ok raw) :
    SignalSelects value available control raw := by
  obtain ⟨src, hsrc, h⟩ := bind_eq_ok_iff.mp h
  obtain ⟨ctl, hctl, h⟩ := bind_eq_ok_iff.mp h
  obtain rfl := Except.ok.inj h
  exact ⟨source_selects hsrc, controlSource_selects hctl⟩

theorem controlSource_configured {requested : Option RemoteSignalSource}
    (h : requested ≠ some .automatic) (available : BitVec 32) (enabled : Bool) :
    ∃ code, controlSource requested available enabled = .ok code ∧
      configuredControl code = .ok (requested.filter (· ≠ .disabled)) := by
  cases requested with
  | none => exact ⟨0, rfl, rfl⟩
  | some selected =>
    have hselected : selected ≠ .automatic := fun heq => h (congrArg some heq)
    refine ⟨selected.code, source_of_explicit hselected available enabled, ?_⟩
    cases selected with
    | automatic => exact absurd rfl hselected
    | disabled | dsp | external | rig => rfl

theorem configuredControl_eq_ok {code : UInt32} {requested : Option RemoteSignalSource}
    (h : configuredControl code = .ok requested) (available : BitVec 32) (enabled : Bool) :
    controlSource requested available enabled = .ok code := by
  unfold configuredControl at h
  split at h
  · cases hs : configuredSource code with
    | error e =>
      rw [hs] at h
      nomatch h
    | ok s =>
      rw [hs] at h
      obtain rfl := Except.ok.inj h
      obtain ⟨rfl, hauto⟩ := configuredSource_eq_ok hs
      exact source_of_explicit hauto available enabled
  · rename_i hzero
    obtain rfl := Except.ok.inj h
    rw [not_not.mp hzero]
    rfl

/-- An explicit signal reads back. -/
theorem signal_configured {value : RemoteSignal} (h : value.Explicit) (available control : BitVec 32) :
    ∃ raw, signal value available control = .ok raw ∧ configuredSignal raw = .ok value.normal := by
  obtain ⟨code, hcontrol, hback⟩ := controlSource_configured h.2 control value.enabled
  refine ⟨⟨value.source.code, code, value.enabled.toUInt32, value.toneTenthsHz, value.dcsCode,
    value.inverted.toUInt32⟩, ?_, ?_⟩
  · simp only [signal, source_of_explicit h.1, hcontrol]
    rfl
  · simp only [configuredSignal, flag_word, or_self, if_false, configuredSource_code h.1, hback]
    rfl

/-- An accepted signal is written as it was, whatever the capabilities. -/
theorem configured_signal {raw : RptAdvRemoteSignal} {value : RemoteSignal}
    (h : configuredSignal raw = .ok value) (available control : BitVec 32) :
    signal value available control = .ok raw := by
  unfold configuredSignal at h
  split at h
  · nomatch h
  rename_i hwords
  obtain ⟨henabled, hinverted⟩ := not_or.mp hwords
  obtain ⟨src, hsrc, h⟩ := bind_eq_ok_iff.mp h
  obtain ⟨ctl, hctl, h⟩ := bind_eq_ok_iff.mp h
  obtain rfl := Except.ok.inj h
  obtain ⟨hcode, hauto⟩ := configuredSource_eq_ok hsrc
  simp only [signal, source_of_explicit hauto, configuredControl_eq_ok hctl, word_flag henabled,
    word_flag hinverted, ← hcode]
  rfl

theorem Selects.resolved {requested : RemoteSignalSource} {available : BitVec 32} {enabled : Bool}
    {code : UInt32} (h : Selects requested available enabled code) :
    code < RemoteSignalSource.automatic.code := by
  unfold Selects at h
  split at h
  · rcases h with ⟨hmem, -⟩ | ⟨rfl, -⟩
    · simp only [List.mem_cons, List.not_mem_nil, or_false] at hmem
      rcases hmem with rfl | rfl | rfl <;> exact UInt32.lt_iff_toNat_lt.mpr (by decide)
    · decide
  · rename_i hauto
    subst h
    cases requested with
    | automatic => exact absurd rfl hauto
    | disabled | dsp | external | rig => decide

theorem SignalSelects.resolved {value : RemoteSignal} {available control : BitVec 32}
    {raw : RptAdvRemoteSignal} (h : SignalSelects value available control raw) :
    raw.source < RemoteSignalSource.automatic.code ∧
      raw.controlSource < RemoteSignalSource.automatic.code := by
  refine ⟨h.1.resolved, ?_⟩
  have hcontrol := h.2
  unfold SelectsControl at hcontrol
  split at hcontrol
  · rw [hcontrol]
    decide
  · exact hcontrol.resolved

/-! ## States -/

/-- The state without the words whose presence flag is clear. -/
def present (engine : RptAdvRemoteState) : RptAdvRemoteState :=
  { engine with
    transmitHz := if engine.flags &&& 1#32 ≠ 0#32 then engine.transmitHz else 0
    powerMw := if engine.flags &&& 2#32 ≠ 0#32 then engine.powerMw else 0
    channel := if engine.flags &&& 4#32 ≠ 0#32 then engine.channel else 0 }

theorem some_getD {α : Type} (o : Option α) (d : α) :
    (if o.isSome then some (o.getD d) else none) = o := by
  cases o <;> rfl

theorem channel_word (channel : Option UInt8) :
    (if channel.isSome then some (channel.getD 0).toUInt32.toUInt8 else none) = channel := by
  cases channel with
  | none => rfl
  | some channel => exact congrArg some (UInt8.toUInt8_toUInt32 channel)

theorem operatingState_configured {value : RemoteOperatingState} (h : value.Explicit)
    (hchannel : ∀ channel ∈ value.channel, channel ≤ 15) (caps : SelectedCapabilities) :
    ∃ engine, operatingState value caps = .ok engine ∧
      operatingConfiguration engine = .ok value.normal := by
  obtain ⟨encode, hencode, hencode'⟩ :=
    signal_configured h.1 caps.encodeSources caps.encodeSources
  obtain ⟨decode, hdecode, hdecode'⟩ :=
    signal_configured h.2 caps.decodeSources caps.decodeControlSources
  refine ⟨_, by simp only [operatingState, hencode, hdecode]; rfl, ?_⟩
  have hwithin := flags_within value.transmitHz.isSome value.powerMw.isSome value.channel.isSome
    value.split value.ritEnabled value.xitEnabled
  obtain ⟨ht, hp, hc, hs, hr, hx⟩ := flags_test value.transmitHz.isSome value.powerMw.isSome
    value.channel.isSome value.split value.ritEnabled value.xitEnabled
  have hword : ¬(value.channel.isSome ∧ (value.channel.getD 0).toUInt32 > 15) := by
    cases hchan : value.channel with
    | none => simp
    | some channel =>
      have hle := hchannel channel hchan
      simp only [UInt8.le_iff_toNat_le, UInt32.lt_iff_toNat_lt, gt_iff_lt, Option.getD_some,
        UInt8.toNat_toUInt32, not_and, Nat.not_lt] at hle ⊢
      exact fun _ => hle
  simp only [operatingConfiguration, ht, hp, hc, hs, hr, hx, Bool.decide_eq_true, some_getD,
    channel_word, hencode', hdecode']
  exact (if_neg (not_or.mpr ⟨not_not_intro hwithin, hword⟩)).trans rfl

theorem operatingState_selects {value : RemoteOperatingState} {caps : SelectedCapabilities}
    {engine : RptAdvRemoteState} (h : operatingState value caps = .ok engine) :
    SignalSelects value.encode caps.encodeSources caps.encodeSources engine.encode ∧
      SignalSelects value.decode caps.decodeSources caps.decodeControlSources engine.decode := by
  obtain ⟨encode, hencode, h⟩ := bind_eq_ok_iff.mp h
  obtain ⟨decode, hdecode, h⟩ := bind_eq_ok_iff.mp h
  obtain rfl := Except.ok.inj h
  exact ⟨signal_selects hencode, signal_selects hdecode⟩

theorem isSome_present {α : Type} (p : Prop) [Decidable p] (a : α) :
    (if p then some a else none).isSome = decide p := by
  split <;> simp [*]

theorem getD_present {α : Type} (p : Prop) [Decidable p] (a d : α) :
    (if p then some a else none).getD d = if p then a else d := by
  split <;> rfl

theorem word_channel {p : Prop} [Decidable p] {word : UInt32} (h : ¬(p ∧ word > 15)) :
    (if p then word.toUInt8 else 0).toUInt32 = if p then word else 0 := by
  split
  · rename_i hp
    have hle : word.toNat ≤ 15 := by
      simpa [UInt32.lt_iff_toNat_lt] using fun hword => h ⟨hp, hword⟩
    exact UInt32.toNat_inj.mp (by simp; omega)
  · rfl

theorem operatingConfiguration_written {engine : RptAdvRemoteState} {value : RemoteOperatingState}
    (h : operatingConfiguration engine = .ok value) (caps : SelectedCapabilities) :
    operatingState value caps = .ok (present engine) := by
  unfold operatingConfiguration at h
  split at h
  · nomatch h
  rename_i hflags
  obtain ⟨hwithin, hchannel⟩ := not_or.mp hflags
  obtain ⟨encode, hencode, h⟩ := bind_eq_ok_iff.mp h
  obtain ⟨decode, hdecode, h⟩ := bind_eq_ok_iff.mp h
  obtain rfl := Except.ok.inj h
  have hf := flags_of_within (not_not.mp hwithin)
  simp only [operatingState, configured_signal hencode, configured_signal hdecode, isSome_present,
    getD_present, word_channel hchannel, hf]
  rfl

/-! ## The contract -/

/-- States that leave nothing to the setup read back; every automatic source becomes one that the
matching capabilities offer and every explicit one stays; what the engine's side accepts is written
back without the words that it marks as absent. -/
theorem operatingState_contract (caps : SelectedCapabilities) :
    (∀ value : RemoteOperatingState, value.Explicit → (∀ channel ∈ value.channel, channel ≤ 15) →
      ∃ engine, operatingState value caps = .ok engine ∧
        operatingConfiguration engine = .ok value.normal) ∧
    (∀ value engine, operatingState value caps = .ok engine →
      SignalSelects value.encode caps.encodeSources caps.encodeSources engine.encode ∧
      SignalSelects value.decode caps.decodeSources caps.decodeControlSources engine.decode ∧
      ∀ code ∈ [engine.encode.source, engine.encode.controlSource, engine.decode.source,
        engine.decode.controlSource], code < RemoteSignalSource.automatic.code) ∧
    ∀ engine value, operatingConfiguration engine = .ok value →
      operatingState value caps = .ok (present engine) := by
  refine ⟨fun value h hchannel => operatingState_configured h hchannel caps,
    fun value engine h => ?_, fun engine value h => operatingConfiguration_written h caps⟩
  obtain ⟨hencode, hdecode⟩ := operatingState_selects h
  refine ⟨hencode, hdecode, ?_⟩
  have he := hencode.resolved
  have hd := hdecode.resolved
  simp only [List.forall_mem_cons, List.not_mem_nil, false_implies, implies_true, and_true]
  exact ⟨he.1, he.2, hd.1, hd.2⟩

/-- A rig that encodes, and nothing that decodes. -/
def rigEncoder : SelectedCapabilities := ⟨8#32, 0#32, 0#32⟩

/-- A tone of 100 Hz. -/
def sampleSignal (source : RemoteSignalSource) : RemoteSignal :=
  ⟨source, some .disabled, true, 1000, 0, false⟩

/-- Channel 5 of a repeater on 146.52 MHz. -/
def sampleState (encode : RemoteSignalSource) : RemoteOperatingState :=
  ⟨146520000, some 146520000, 1, 0, 0, 0, false, 0, 0, false, 0, false, none, sampleSignal encode,
    sampleSignal .dsp, some 5⟩

/-- The same state in the engine's interface. -/
def sampleEngine (encode : UInt32) : RptAdvRemoteState :=
  ⟨146520000, 146520000, 0, 0, 0, 5#32, 1, 0, 0, 0, 0, 5, ⟨encode, 0, 1, 1000, 0, 0⟩,
    ⟨1, 0, 1, 1000, 0, 0⟩⟩

theorem operatingState_contract_sample :
    (∃ engine, operatingState (sampleState .dsp) rigEncoder = .ok engine ∧
      operatingConfiguration engine = .ok (sampleState .dsp).normal) ∧
    SignalSelects (sampleSignal .automatic) 8#32 8#32 (sampleEngine 3).encode ∧
    operatingState (sampleState .dsp).normal rigEncoder = .ok (present (sampleEngine 1)) :=
  ⟨(operatingState_contract rigEncoder).1 (sampleState .dsp) (by decide)
      fun _ h => by
        obtain rfl := Option.some.inj h
        exact (UInt32.le_iff_toNat_le.mpr (by decide) : (5 : UInt32) ≤ 15),
    ((operatingState_contract rigEncoder).2.1 (sampleState .automatic) (sampleEngine 3) rfl).1,
    (operatingState_contract rigEncoder).2.2 (sampleEngine 1) (sampleState .dsp).normal rfl⟩

/-- An explicit source beside an automatic one is not held against the capabilities. -/
theorem operatingState_explicit_unoffered :
    ¬∀ value caps engine, value.encode.source = .automatic → operatingState value caps = .ok engine →
      Offered caps.encodeSources value.encode.enabled engine.encode.source ∧
        Offered caps.decodeSources value.decode.enabled engine.decode.source := fun h =>
  absurd (h (sampleState .automatic) rigEncoder (sampleEngine 3) rfl rfl).2 (by decide)

end Remote
end UsbRadioPlus
