import UsbRadioPlus.Driver.RemoteOwner
import UsbRadioPlus.Driver.RemoteScalar

/-!
# Preparing a request

No request makes `prepare` panic: the sums of a step stay far inside `i128`. A command that stops the
radio is prepared to a request of the engine, so it never waits as auxiliary work.
-/

namespace UsbRadioPlus.Driver

open Rust Sys UsbRadioPlus.Core

/-! ## No panic -/

theorem total_i128 {x : Int} (h : -2 ^ 127 ≤ x ∧ x < 2 ^ 127) : Total (i128 x) := by
  rw [i128_eq h]
  exact .pure x

theorem total_tryI64 (x : Int) : Total (tryI64 x) := (yields_tryI64 x).total

theorem total_tryU64 (x : Int) : Total (tryU64 x) := .ite (fun _ => .pure _) fun _ => .throw _

theorem total_tryU32 (x : UInt64) : Total (tryU32 x) := .ite (fun _ => .pure _) fun _ => .throw _

theorem total_preset {α : Type} (presets : Vector (Option α) 3) (selector : UInt32) :
    Total (preset presets selector) := by
  unfold preset
  split
  · exact .throw _
  · exact .pure _

theorem total_offsetMagnitude (config : RequestConfiguration) : Total (offsetMagnitude config) := by
  unfold offsetMagnitude
  split
  · exact .throw _
  · exact total_tryI64 _

theorem total_edit {request : RemoteRequest} {encode : Bool}
    {change : RemoteSignal → Prepared RemoteSignal} (h : ∀ signal, Total (change signal)) :
    Total (request.edit encode change) := .andThen (h _) fun _ => .pure _

theorem total_frequency (config : RequestConfiguration) (operation : RemoteOperation)
    (request : RemoteRequest) : Total (prepareFrequency config operation request) := by
  refine .andThen ?_ fun _ => .pure _
  unfold frequencyOffset
  split
  · exact .map (total_offsetMagnitude config)
  · exact .pure _
  · exact total_offsetMagnitude config
  · exact .throw _

/-- A frequency and a step are far below the bounds of `i128`. -/
theorem total_step (operation : RemoteOperation) (request : RemoteRequest) :
    Total (prepareStep operation request) := by
  have hshift (value : UInt64) : Total (do
      tryU64 (← i128 (value.toNat + operation.signedValue.toInt))) := by
    have hvalue := value.toNat_lt
    have hlow := Int64.le_toInt operation.signedValue
    have hhigh := Int64.toInt_lt operation.signedValue
    exact .andThen (total_i128 (by omega)) fun _ => total_tryU64 _
  refine .andThen (hshift _) fun receiveHz => .ite (fun _ => ?_) fun _ => .pure _
  exact .andThen (hshift _) fun transmitHz => .pure _

theorem total_tone (enable : Bool) (operation : RemoteOperation) (request : RemoteRequest) :
    Total (prepareTone enable operation request) := by
  refine .ite (fun _ => .throwing _) fun _ => total_edit fun signal => ?_
  refine .ite (fun _ => .pure _) fun _ => .ite (fun _ => .throwing _) fun _ => ?_
  exact .ite (fun _ => .throwing _) fun _ => .pure _

theorem total_programSignal (selector : UInt32) (value : Int64) (signal : RemoteSignal) :
    Total (programSignal selector value signal) := by
  refine .ite (fun _ => .throwing _) fun _ => .andThen (total_tryU64 _) fun _ => ?_
  refine .andThen (total_tryU32 _) fun _ => ?_
  split
  · exact .pure _
  · split <;> exact .pure _

theorem total_routeSignal (selector : UInt32) (value : Int64) (signal : RemoteSignal) :
    Total (routeSignal selector value signal) := by
  refine .andThen (total_tryU64 _) fun _ => .andThen (total_tryU32 _) fun _ => ?_
  refine .ite (fun _ => .pure _) fun _ => ?_
  exact .ite (fun _ => .pure _) fun _ => .pure _

theorem total_value (selector : UInt32) (value : Int64) (request : RemoteRequest) :
    Total (prepareValue selector value request) := by
  unfold prepareValue
  dsimp only
  split
  all_goals first
    | exact .pure _
    | exact .throw _
    | exact .andThen (total_tryU64 _) fun _ => .pure _
    | exact .andThen (total_tryU64 _) fun _ => .andThen (total_tryU32 _) fun _ => .pure _
    | exact .map (total_edit fun _ => total_programSignal _ _ _)
    | exact .map (total_edit fun _ => total_routeSignal _ _ _)

theorem total_setting (settings : List Setting) (operation : RemoteOperation)
    (request : RemoteRequest) : Total (prepareSetting settings operation request) := by
  unfold prepareSetting
  split
  · exact .throw _
  · exact .andThen (scalar_yields _ operation).total fun _ => total_value _ _ _

/-- **No operation panics**. -/
theorem prepareRemoteOperation_total (config : RequestConfiguration) (current : EngineSnapshot)
    (scan : Option UInt32) (settings : List Setting) (operation : RemoteOperation) :
    Total (prepareRemoteOperation config current scan settings operation) := by
  unfold prepareRemoteOperation
  dsimp only
  cases operation.kind with
  | none => exact .throw _
  | some kind =>
    cases kind with
    | frequency => exact .map (total_frequency config operation _)
    | step => exact .map (total_step operation _)
    | tone => exact .map (total_tone false operation _)
    | toneEnabled => exact .map (total_tone true operation _)
    | setSetting => exact total_setting settings operation _
    | powerPreset => exact .andThen (total_preset _ _) fun _ => .pure _
    | scanPreset =>
      cases scan with
      | none => exact .throw _
      | some list => exact .andThen (total_preset _ _) fun _ => .pure _
    | scanDirection | inhibit => exact .ite (fun _ => .throwing _) fun _ => .pure _
    | «recall» | startScan | pauseScan | resumeScan | stopScan | skip | dwell | resumeDelay | priority
    | tune | mode => exact .pure _
    | _ => exact .throw _

theorem total_of {α : Type} (r : Except RemoteRequestError α) : Total (Prepared.of r) := ⟨r, rfl⟩

theorem total_page {α : Type} (values : List α) (number : UInt64) : Total (page values number) :=
  .ite (fun _ => total_of _) fun _ => .ite (fun _ => total_of _) fun _ => .pure _

theorem total_query {setup : OwnerSetup} {answers : Admission} {snapshot : OwnerSnapshot}
    {scan : Option ScanSnapshot} {operation : RemoteOperation} {kind : RemoteOperationKind}
    {reply : Prepared RemoteReply}
    (h : query setup answers snapshot scan operation kind = some reply) : Total reply := by
  cases kind with
  | status | currentStatus =>
    obtain rfl := Option.some.inj h
    exact .pure _
  | getSetting =>
    obtain rfl := Option.some.inj h
    refine .andThen (total_of _) fun setting => .andThen ?_ fun value => .pure _
    unfold settingValue
    split
    · exact total_of _
    · exact total_of _
  | memory | scanStatus =>
    obtain rfl := Option.some.inj h
    exact .andThen (total_of _) fun _ => .pure _
  | catalog =>
    obtain rfl := Option.some.inj h
    split
    · exact .map (total_page _ _)
    · exact .map (total_page _ _)
    · exact .map (total_page _ _)
    · exact total_of _
  | _ => cases h

/-- **Preparing does not panic**. -/
theorem prepare_total (setup : OwnerSetup) (answers : Admission) (work : RemoteWork) :
    Total (prepare setup answers work) := by
  unfold prepare
  cases work.input with
  | parallel request =>
    exact .andThen (total_of _) fun _ => .andThen (total_of _) fun _ => .pure _
  | command operation =>
    refine .andThen (total_of _) fun kind => .andThen (total_of _) fun snapshot => ?_
    refine .andThen (total_of _) fun scan => ?_
    split
    · exact .map (total_query ‹_›)
    · refine .andThen (prepareRemoteOperation_total _ _ _ _ _) fun prepared => ?_
      cases prepared <;> exact .pure _

/-! ## Urgent commands -/

theorem ensures_of {α : Type} {r : Except RemoteRequestError α} {Q : α → Prop}
    (h : ∀ a, r = .ok a → Q a) : Ensures (Prepared.of r) Q :=
  fun a ha => h a (Option.some.inj ha)

/-- Both kinds that stop the radio are prepared to a request of the engine. -/
theorem prepareRemoteOperation_core (config : RequestConfiguration) (current : EngineSnapshot)
    (scan : Option UInt32) (settings : List Setting) {operation : RemoteOperation}
    (h : operation.kind = some .stopScan ∨ operation.kind = some .inhibit) :
    Ensures (prepareRemoteOperation config current scan settings operation)
      fun prepared => ∃ request, prepared = .core request := by
  unfold prepareRemoteOperation
  dsimp only
  rcases h with h | h <;> rw [h] <;> dsimp only
  · exact .pure ⟨_, rfl⟩
  · exact .ite (fun _ => .throwing _) fun _ => .pure ⟨_, rfl⟩

/-- A command that stops the radio is never auxiliary. -/
theorem prepare_urgent (setup : OwnerSetup) (answers : Admission) {work : RemoteWork}
    (h : work.input.urgent = true) :
    Ensures (prepare setup answers work) fun ready => ∃ request, ready = .core request := by
  obtain ⟨id, input⟩ := work
  unfold prepare
  cases input with
  | parallel request => cases h
  | command operation =>
    have hkind : operation.kind = some .stopScan ∨ operation.kind = some .inhibit := by
      have h : operation.urgent = true := h
      unfold RemoteOperation.urgent at h
      rw [Bool.or_eq_true, decide_eq_true_eq, Bool.and_eq_true, decide_eq_true_eq] at h
      exact h.imp_right And.left
    refine .bind (P := fun kind => operation.kind = some kind) (ensures_of ?_) fun kind hk => ?_
    · intro kind hkind
      cases hk : operation.kind with
      | none =>
        rw [hk] at hkind
        cases hkind
      | some kind' =>
        rw [hk] at hkind
        exact congrArg some (Except.ok.inj hkind)
    refine .andThen fun snapshot => .andThen fun scan => ?_
    -- Neither kind has a reply.
    have hquery : query setup answers snapshot scan operation kind = none := by
      rcases hkind with hkind | hkind <;> rw [hkind] at hk <;> obtain rfl := Option.some.inj hk <;> rfl
    rw [hquery]
    refine .bind (prepareRemoteOperation_core _ _ _ _ hkind) fun prepared hprepared => ?_
    obtain ⟨request, rfl⟩ := hprepared
    exact .pure ⟨_, rfl⟩

end UsbRadioPlus.Driver
