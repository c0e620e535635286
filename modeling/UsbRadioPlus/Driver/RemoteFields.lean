import UsbRadioPlus.Driver.RemoteRequest
import UsbRadioPlus.Sys.Checked
import UsbRadioPlus.Sys.Mask

/-!
# The field mask of a request

Each field of the operating state has a bit of the mask. The engine takes over the fields of the mask
only, so a request has to name every field that it changes (`Covers`): where a field differs from the
base state its bit is set, a bit is set for the fields of the operation only, and what has no bit (the
channel, and flags that the engine does not know) does not differ.
-/

namespace UsbRadioPlus.Driver

open Sys Rust UsbRadioPlus.Core

/-! ## Fields -/

/-- The fields of the state that a request sets. -/
inductive StateField where
  | receive | transmit | mode | bandwidth | receiveVfo | transmitVfo | offset | rit | xit | power
  | encode | decode | split | ritEnabled | xitEnabled
  deriving DecidableEq, Repr

namespace StateField

/-- As `HamlibOperating::new` numbers the readback. -/
def bit : StateField → Nat
  | receive => 0
  | transmit => 1
  | mode => 2
  | bandwidth => 3
  | receiveVfo => 4
  | transmitVfo => 5
  | offset => 6
  | rit => 7
  | xit => 8
  | power => 9
  | encode => 10
  | decode => 11
  | split => 13
  | ritEnabled => 14
  | xitEnabled => 15

/-- The states have the same value of the field. The presence of a transmit frequency and of a power
is a flag. -/
def Agrees (s t : RemoteState) : StateField → Prop
  | receive => s.receiveHz = t.receiveHz
  | transmit => s.transmitHz = t.transmitHz ∧ s.flags.getLsbD 0 = t.flags.getLsbD 0
  | mode => s.mode = t.mode
  | bandwidth => s.bandwidthHz = t.bandwidthHz
  | receiveVfo => s.receiveVfo = t.receiveVfo
  | transmitVfo => s.transmitVfo = t.transmitVfo
  | offset => s.offsetHz = t.offsetHz
  | rit => s.ritHz = t.ritHz
  | xit => s.xitHz = t.xitHz
  | power => s.powerMw = t.powerMw ∧ s.flags.getLsbD 1 = t.flags.getLsbD 1
  | encode => s.encode = t.encode
  | decode => s.decode = t.decode
  | split => s.flags.getLsbD 3 = t.flags.getLsbD 3
  | ritEnabled => s.flags.getLsbD 4 = t.flags.getLsbD 4
  | xitEnabled => s.flags.getLsbD 5 = t.flags.getLsbD 5

/-- The mask of some fields. -/
def mask (fields : List StateField) : BitVec 64 :=
  fields.foldr (fun field mask => 1#64 <<< field.bit ||| mask) 0

theorem getLsbD_mask {fields : List StateField} {i : Nat} (h : (mask fields).getLsbD i = true) :
    ∃ field ∈ fields, field.bit = i := by
  induction fields with
  | nil => exact absurd h (by simp [mask])
  | cons field fields ih =>
    rw [mask, List.foldr_cons, BitVec.getLsbD_or, Bool.or_eq_true] at h
    rcases h with h | h
    · rw [← BitVec.twoPow_eq, BitVec.getLsbD_twoPow, Bool.and_eq_true] at h
      exact ⟨field, List.mem_cons_self, of_decide_eq_true h.2⟩
    · obtain ⟨field', hmem, hbit⟩ := ih h
      exact ⟨field', List.mem_cons_of_mem _ hmem, hbit⟩

theorem getLsbD_mask_of_mem {fields : List StateField} {field : StateField} (h : field ∈ fields) :
    (mask fields).getLsbD field.bit = true := by
  have hlt : field.bit < 64 := by cases field <;> decide
  induction h with
  | head fields =>
    rw [mask, List.foldr_cons, BitVec.getLsbD_or, ← BitVec.twoPow_eq, BitVec.getLsbD_twoPow]
    simp [hlt]
  | tail other _ ih =>
    rw [mask, List.foldr_cons, BitVec.getLsbD_or, Bool.or_eq_true]
    exact .inr ih

/-- The flag of a field. -/
def flagMask : StateField → BitVec 32
  | transmit => 1
  | power => 2
  | split => 8
  | ritEnabled => 16
  | xitEnabled => 32
  | _ => 0

/-- The flags of some fields. -/
def flagsMask (fields : List StateField) : BitVec 32 :=
  fields.foldr (fun field mask => field.flagMask ||| mask) 0

theorem flagMask_and_flagMask {field other : StateField} (h : other ≠ field) :
    other.flagMask &&& field.flagMask = 0 := by
  cases field <;> cases other <;> first | exact absurd rfl h | rfl

/-- No other field has the flag of a field. -/
theorem getLsbD_flagsMask {fields : List StateField} {field : StateField} (h : field ∉ fields)
    {i : Nat} (hi : field.flagMask.getLsbD i = true) : (flagsMask fields).getLsbD i = false := by
  induction fields with
  | nil => exact BitVec.getLsbD_zero
  | cons other fields ih =>
    rw [List.mem_cons, not_or] at h
    have hother : other.flagMask.getLsbD i = false := by
      have hand := congrArg (·.getLsbD i) (flagMask_and_flagMask (Ne.symm h.1))
      simpa [hi] using hand
    rw [flagsMask, List.foldr_cons, BitVec.getLsbD_or, hother, Bool.false_or]
    exact ih h.2

/-- `s` with the value of a field in `t`; the flags stay. -/
def take (t s : RemoteState) : StateField → RemoteState
  | receive => { s with receiveHz := t.receiveHz }
  | transmit => { s with transmitHz := t.transmitHz }
  | mode => { s with mode := t.mode }
  | bandwidth => { s with bandwidthHz := t.bandwidthHz }
  | receiveVfo => { s with receiveVfo := t.receiveVfo }
  | transmitVfo => { s with transmitVfo := t.transmitVfo }
  | offset => { s with offsetHz := t.offsetHz }
  | rit => { s with ritHz := t.ritHz }
  | xit => { s with xitHz := t.xitHz }
  | power => { s with powerMw := t.powerMw }
  | encode => { s with encode := t.encode }
  | decode => { s with decode := t.decode }
  | split | ritEnabled | xitEnabled => s

theorem agrees_take (t s : RemoteState) {field other : StateField} (h : other ≠ field) :
    other.Agrees s (field.take t s) := by
  cases field <;> cases other <;> first | exact absurd rfl h | rfl | exact ⟨rfl, rfl⟩

theorem Agrees.trans {s t u : RemoteState} {field : StateField} (h : field.Agrees s t)
    (h' : field.Agrees t u) : field.Agrees s u := by
  cases field <;> first | exact Eq.trans h h' | exact ⟨h.1.trans h'.1, h.2.trans h'.2⟩

/-- A field that is not among those that are taken over, by induction on these. -/
theorem agrees_takeAll (t : RemoteState) {fields : List StateField} {other : StateField}
    (h : other ∉ fields) (s : RemoteState) : other.Agrees s (fields.foldl (take t) s) := by
  induction fields generalizing s with
  | nil => cases other <;> first | rfl | exact ⟨rfl, rfl⟩
  | cons field fields ih =>
    rw [List.mem_cons, not_or] at h
    exact (agrees_take t s h.1).trans (ih h.2 _)

/-- Flags that agree in the flag of a field. -/
theorem Agrees.setFlags {s t : RemoteState} {field : StateField} (h : field.Agrees s t)
    {flags : BitVec 32}
    (hflags : ∀ i, field.flagMask.getLsbD i = true → s.flags.getLsbD i = flags.getLsbD i) :
    field.Agrees s { t with flags } := by
  cases field <;> first
    | exact h
    | exact hflags _ (by decide)
    | exact ⟨h.1, hflags _ (by decide)⟩

end StateField

/-- What no field stands for. -/
def SameRest (s t : RemoteState) : Prop :=
  s.channel = t.channel ∧ s.flags &&& ~~~59#32 = t.flags &&& ~~~59#32

/-- The mask of a request names what it changes. -/
structure Covers (base : RemoteState) (addressed : List StateField) (request : RemoteRequest) :
    Prop where
  differing : ∀ field : StateField, ¬ field.Agrees base request.state →
    request.fields.getLsbD field.bit = true
  addressed : ∀ i, request.fields.getLsbD i = true → ∃ field ∈ addressed, field.bit = i
  rest : SameRest base request.state

/-- The fields of a setting, by its selector. -/
def settingFields (selector : UInt32) : List StateField :=
  match selector with
  | 1 => [.receive]
  | 2 => [.transmit]
  | 3 => [.mode]
  | 4 => [.bandwidth]
  | 5 => [.receiveVfo]
  | 6 => [.transmitVfo]
  | 7 => [.split]
  | 8 => [.offset]
  | 9 => [.rit]
  | 10 => [.xit]
  | 11 => [.power]
  | 12 | 14 | 16 | 400 | 403 => [.encode]
  | 13 | 15 | 17 | 401 | 402 | 404 => [.decode]
  | 307 => [.ritEnabled]
  | 308 => [.xitEnabled]
  | _ => []

/-- The fields of an operation. -/
def operationFields (operation : RemoteOperation) : List StateField :=
  match operation.kind with
  | some .frequency => [.receive, .transmit, .offset, .split]
  | some .mode => [.mode, .bandwidth]
  | some .step => [.receive, .transmit]
  | some .powerPreset => [.power]
  | some .tone | some .toneEnabled => if operation.flags &&& 1 ≠ 0 then [.encode] else [.decode]
  | some .setSetting => settingFields operation.selector
  | _ => []

/-- The state that a frame edits. -/
def EngineSnapshot.editedState (snapshot : EngineSnapshot) : RemoteState :=
  if snapshot.isApplied then snapshot.applied else snapshot.requested

/-- The fields of a parallel frame. -/
def frameFields : List StateField := [.receive, .transmit, .mode, .offset, .encode, .decode]

/-! ## Edits -/

/-- The flags agree outside `m`. -/
def FlagsKept (m a b : BitVec 32) : Prop := ∀ i, m.getLsbD i = false → a.getLsbD i = b.getLsbD i

theorem flagsKept_refl (m a : BitVec 32) : FlagsKept m a a := fun _ _ => rfl

theorem flagsKept_clear (m a : BitVec 32) : FlagsKept m a (a &&& ~~~m) :=
  fun _ h => (Mask.getLsbD_clear h).symm

theorem flagsKept_fill {m x : BitVec 32} (a : BitVec 32) (h : Mask.Within x m) :
    FlagsKept m a (a ||| x) := fun _ hi => (Mask.getLsbD_fill (h.getLsbD_eq_false hi)).symm

theorem flagsKept_set {m x : BitVec 32} (a : BitVec 32) (h : Mask.Within x m) :
    FlagsKept m a ((a &&& ~~~m) ||| x) := fun i hi =>
  (flagsKept_clear m a i hi).trans (flagsKept_fill (a &&& ~~~m) h i hi)

theorem within_choice (c : Prop) [Decidable c] (m : BitVec 32) :
    Mask.Within (if c then m else 0) m := by
  split
  · exact Mask.within_refl
  · exact Mask.within_zero

variable {base : RemoteState} {request : RemoteRequest} {addressed : List StateField}
  {m : BitVec 32}

/-- A request that names the fields `changed`, and differs from the base state in them and in their
flags. -/
theorem covers_edit (changed : List StateField)
    (hfields : request.fields = StateField.mask changed) (hsub : changed ⊆ addressed)
    (hflags : FlagsKept m base.flags request.state.flags)
    (hm : Mask.Within m (StateField.flagsMask changed &&& 59#32))
    (hstate : request.state =
      { changed.foldl (StateField.take request.state) base with flags := request.state.flags })
    (hchannel : base.channel = request.state.channel) :
    Covers base addressed request := by
  refine ⟨fun field hdiffers => ?_, fun i hi => ?_, hchannel, ?_⟩
  · rw [hfields]
    refine StateField.getLsbD_mask_of_mem (not_not.mp fun hnot => hdiffers ?_)
    rw [hstate]
    refine (StateField.agrees_takeAll request.state hnot base).setFlags fun i hi => hflags i ?_
    refine hm.getLsbD_eq_false ?_
    rw [BitVec.getLsbD_and, StateField.getLsbD_flagsMask hnot hi, Bool.false_and]
  · obtain ⟨field, hmem, hbit⟩ := StateField.getLsbD_mask (hfields ▸ hi)
    exact ⟨field, hsub hmem, hbit⟩
  · refine BitVec.eq_of_getLsbD_eq fun i _ => ?_
    cases hi : (59#32).getLsbD i with
    | true => rw [BitVec.getLsbD_and, BitVec.getLsbD_and, BitVec.getLsbD_not, hi]; simp
    | false =>
      have hout : (StateField.flagsMask changed &&& 59#32).getLsbD i = false := by
        rw [BitVec.getLsbD_and, hi, Bool.and_false]
      rw [BitVec.getLsbD_and, BitVec.getLsbD_and, hflags i (hm.getLsbD_eq_false hout)]

/-- An edit that leaves the flags alone. -/
theorem covers_scalars (changed : List StateField)
    (hfields : request.fields = StateField.mask changed) (hsub : changed ⊆ addressed)
    (hflags : base.flags = request.state.flags)
    (hstate : request.state =
      { changed.foldl (StateField.take request.state) base with flags := request.state.flags })
    (hchannel : base.channel = request.state.channel) :
    Covers base addressed request :=
  covers_edit changed hfields hsub (hflags ▸ flagsKept_refl 0 _) Mask.within_zero hstate hchannel

/-- A request without edits. -/
theorem covers_unchanged (hstate : request.state = base) (hfields : request.fields = 0) :
    Covers base addressed request := by
  subst hstate
  exact covers_scalars [] hfields (List.nil_subset _) rfl rfl rfl

/-- A request that edits one signal. -/
theorem covers_signal {encode : Bool} {change : RemoteSignal → Prepared RemoteSignal}
    (hstate : request.state = base) (haddressed : (if encode then .encode else .decode) ∈ addressed) :
    Ensures (request.edit encode change) (Covers base addressed) := by
  refine Ensures.andThen fun signal => Ensures.pure ?_
  subst hstate
  have hsub {field : StateField} (h : field ∈ addressed) : [field] ⊆ addressed :=
    fun other hother => List.mem_singleton.mp hother ▸ h
  cases encode with
  | true => exact covers_scalars [.encode] rfl (hsub haddressed) rfl rfl rfl
  | false => exact covers_scalars [.decode] rfl (hsub haddressed) rfl rfl rfl

/-! ## Operations -/

theorem covers_frequency (config : RequestConfiguration) (operation : RemoteOperation)
    (hstate : request.state = base) : Ensures (prepareFrequency config operation request)
      (Covers base [.receive, .transmit, .offset, .split]) := by
  refine Ensures.andThen fun offsetHz => Ensures.pure ?_
  subst hstate
  exact covers_edit [.receive, .transmit, .offset, .split] rfl (List.Subset.refl _)
    (flagsKept_clear 8#32 request.state.flags) (by decide) rfl rfl

theorem covers_step (operation : RemoteOperation) (hstate : request.state = base) :
    Ensures (prepareStep operation request) (Covers base [.receive, .transmit]) := by
  subst hstate
  refine Ensures.andThen fun receiveHz => Ensures.ite (fun _ => ?_) fun _ => ?_
  · refine Ensures.andThen fun transmitHz => Ensures.pure ?_
    exact covers_scalars [.receive, .transmit] rfl (List.Subset.refl _) rfl rfl rfl
  · exact Ensures.pure (covers_scalars [.receive] rfl (by decide) rfl rfl rfl)

theorem covers_tone (enable : Bool) (operation : RemoteOperation) (hstate : request.state = base) :
    Ensures (prepareTone enable operation request)
      (Covers base (if operation.flags &&& 1 ≠ 0 then [.encode] else [.decode])) := by
  refine Ensures.ite (fun _ => Ensures.throwing _) fun _ => covers_signal hstate ?_
  by_cases h : operation.flags &&& 1 = 0 <;> simp [h]

/-- A request covers its edits; a generic setting has no field. -/
def PreparedRemoteOperation.Sound (base : RemoteState) (addressed : List StateField) :
    PreparedRemoteOperation → Prop
  | .core request => Covers base addressed request
  | .auxiliary _ _ => addressed = []

/-- A setting of a scalar. -/
theorem covers_scalar (field : StateField) (hfields : request.fields = StateField.mask [field])
    (hflags : base.flags = request.state.flags)
    (hstate : request.state = { field.take request.state base with flags := request.state.flags })
    (hchannel : base.channel = request.state.channel) : Covers base [field] request :=
  covers_scalars [field] hfields (List.Subset.refl _) hflags hstate hchannel

/-- A setting that sets a flag with its value, or for it. -/
theorem covers_flag (field : StateField) (hfields : request.fields = StateField.mask [field])
    (hflags : FlagsKept m base.flags request.state.flags)
    (hm : Mask.Within m (StateField.flagsMask [field] &&& 59#32))
    (hstate : request.state = { field.take request.state base with flags := request.state.flags })
    (hchannel : base.channel = request.state.channel) : Covers base [field] request :=
  covers_edit [field] hfields (List.Subset.refl _) hflags hm hstate hchannel

/-- One case per selector of the state. -/
theorem sound_value (selector : UInt32) (value : Int64) (hstate : request.state = base) :
    Ensures (prepareValue selector value request)
      (PreparedRemoteOperation.Sound base (settingFields selector)) := by
  have hchoice (flag : BitVec 32) :=
    flagsKept_set request.state.flags (within_choice (value ≠ 0) flag)
  have hfill (flag : BitVec 32) := flagsKept_fill request.state.flags (Mask.within_refl (x := flag))
  unfold prepareValue
  dsimp only
  subst hstate
  split
  -- The signals of the encoder and the decoder, and the selectors that are refused.
  any_goals first
    | exact Ensures.map (covers_signal rfl List.mem_cons_self)
    | exact Ensures.throw _
  · exact Ensures.andThen fun _ => Ensures.pure (covers_scalar .receive rfl rfl rfl rfl)
  · exact Ensures.andThen fun _ =>
      Ensures.pure (covers_flag .transmit rfl (hfill 1#32) (by decide) rfl rfl)
  · exact Ensures.andThen fun _ => Ensures.andThen fun _ =>
      Ensures.pure (covers_scalar .mode rfl rfl rfl rfl)
  · exact Ensures.andThen fun _ => Ensures.andThen fun _ =>
      Ensures.pure (covers_scalar .bandwidth rfl rfl rfl rfl)
  · exact Ensures.andThen fun _ => Ensures.andThen fun _ =>
      Ensures.pure (covers_scalar .receiveVfo rfl rfl rfl rfl)
  · exact Ensures.andThen fun _ => Ensures.andThen fun _ =>
      Ensures.pure (covers_scalar .transmitVfo rfl rfl rfl rfl)
  · exact Ensures.pure (covers_flag .split rfl (hchoice 8#32) (by decide) rfl rfl)
  · exact Ensures.pure (covers_scalar .offset rfl rfl rfl rfl)
  · exact Ensures.pure (covers_scalar .rit rfl rfl rfl rfl)
  · exact Ensures.pure (covers_scalar .xit rfl rfl rfl rfl)
  · exact Ensures.pure (covers_flag .ritEnabled rfl (hchoice 16#32) (by decide) rfl rfl)
  · exact Ensures.pure (covers_flag .xitEnabled rfl (hchoice 32#32) (by decide) rfl rfl)
  · exact Ensures.andThen fun _ => Ensures.andThen fun _ =>
      Ensures.pure (covers_flag .power rfl (hfill 2#32) (by decide) rfl rfl)
  -- A generic setting.
  · refine Ensures.pure (?_ : settingFields selector = [])
    unfold settingFields
    split <;> first | rfl | contradiction

theorem sound_setting (settings : List Setting) (operation : RemoteOperation)
    (hstate : request.state = base) : Ensures (prepareSetting settings operation request)
      (PreparedRemoteOperation.Sound base (settingFields operation.selector)) := by
  unfold prepareSetting
  split
  · exact Ensures.throw _
  · exact Ensures.andThen fun value => sound_value operation.selector value hstate

/-- Whatever an operation is prepared to, it is sound. -/
theorem prepareRemoteOperation_sound (config : RequestConfiguration) (current : EngineSnapshot)
    (scan : Option UInt32) (settings : List Setting) (operation : RemoteOperation) :
    Ensures (prepareRemoteOperation config current scan settings operation)
      (PreparedRemoteOperation.Sound current.applied (operationFields operation)) := by
  unfold prepareRemoteOperation operationFields
  dsimp only
  cases hkind : operation.kind with
  | none => exact Ensures.throw _
  | some kind =>
    cases kind with
    | frequency => exact Ensures.map (covers_frequency config operation rfl)
    | step => exact Ensures.map (covers_step operation rfl)
    | tone => exact Ensures.map (covers_tone false operation rfl)
    | toneEnabled => exact Ensures.map (covers_tone true operation rfl)
    | setSetting => exact sound_setting settings operation rfl
    | mode =>
      exact Ensures.pure (covers_scalars [.mode, .bandwidth] rfl (List.Subset.refl _) rfl rfl rfl)
    | powerPreset =>
      refine Ensures.andThen fun powerMw => Ensures.pure ?_
      exact covers_flag .power rfl (flagsKept_fill current.applied.flags (Mask.within_refl (x := 2#32)))
        (by decide) rfl rfl
    | scanPreset =>
      cases scan with
      | none => exact Ensures.throw _
      | some list => exact Ensures.andThen fun valueMs => Ensures.pure (covers_unchanged rfl rfl)
    | scanDirection | inhibit =>
      exact Ensures.ite (fun _ => Ensures.throwing _) fun _ => Ensures.pure (covers_unchanged rfl rfl)
    | «recall» | startScan | pauseScan | resumeScan | stopScan | skip | dwell | resumeDelay | priority
    | tune => exact Ensures.pure (covers_unchanged rfl rfl)
    | _ => exact Ensures.throw _

/-! ## Frames -/

/-- A frame is prepared to the recall of a memory, or to a request that covers its edits. -/
theorem prepareParallelRequest_sound (config : RequestConfiguration) (snapshot : EngineSnapshot)
    (input : ParallelRadioRequest) (request : RemoteRequest)
    (h : prepareParallelRequest config snapshot input = .ok request) :
    request.kind = .recall ∧ request.fields = 0 ∨
      request.kind = .set ∧ Covers snapshot.editedState frameFields request := by
  cases input with
  | selectChannel channel =>
    left
    simp only [prepareParallelRequest] at h
    split at h
    · exact absurd h (by simp [bind, Except.bind])
    · split at h
      · exact absurd h (by simp)
      · obtain rfl := Except.ok.inj h
        exact ⟨rfl, rfl⟩
  | configure input =>
    right
    obtain rfl := Except.ok.inj h
    exact ⟨rfl, covers_edit frameFields rfl (List.Subset.refl _)
      (flagsKept_set snapshot.editedState.flags (within_choice (input.transmitHz ≠ 0) 1#32))
      (by decide) rfl rfl⟩

/-- Every request names what it changes in the state that it edits, and nothing else. -/
theorem request_covers (config : RequestConfiguration) (snapshot : EngineSnapshot) :
    (∀ scan settings operation request,
      (prepareRemoteOperation config snapshot scan settings operation).run =
        some (.ok (.core request)) →
      Covers snapshot.applied (operationFields operation) request) ∧
    ∀ input request, prepareParallelRequest config snapshot input = .ok request →
      request.kind = .set → Covers snapshot.editedState frameFields request := by
  refine ⟨fun scan settings operation request h =>
    prepareRemoteOperation_sound config snapshot scan settings operation _ h,
    fun input request h hset => ?_⟩
  rcases prepareParallelRequest_sound config snapshot input request h with ⟨hrecall, _⟩ | ⟨_, hcovers⟩
  · exact absurd (hrecall.symm.trans hset) (by decide)
  · exact hcovers

/-- The step of a receiver, and a frame that is sent to a transmitter. -/
theorem request_covers_frame :
    Covers .zero [.receive, .transmit]
      { RemoteRequest.zeroed { RemoteState.zero with receiveHz := 5000 } with fields := 1 } ∧
    Covers .zero frameFields
      { RemoteRequest.zeroed { RemoteState.zero with
          receiveHz := 146940000
          transmitHz := 146340000
          flags := 1
          mode := 1 } with fields := 3143 } :=
  let config : RequestConfiguration := ⟨[], none, #v[none, none, none], #v[none, none, none], 1000⟩
  let snapshot : EngineSnapshot := ⟨true, .zero, .zero⟩
  ⟨(request_covers config snapshot).1 none [] ⟨40, 1, 8, 0, 5000, 0, 0, 0⟩ _ (by decide +kernel),
    (request_covers config snapshot).2 (.configure ⟨146940000, 146340000, none, none, false⟩) _
      (by decide +kernel) (by decide)⟩

end UsbRadioPlus.Driver
