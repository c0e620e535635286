import UsbRadioPlus.Asl3.LegacyEcho

/-!
# What the legacy echo replays

The buffer holds what fits of the keyed frames that were heard, and the replay reads it frame after
frame. So no access is out of range, a replay that runs to its end has submitted each of those frames
once and in order, and a write that fails has taken nothing.
-/

namespace UsbRadioPlus
namespace Asl3

open Sys

variable {F : Type}

/-- What the replay of a burst submits: the frames that fit in `maximum`, converted. -/
def replayed (s16ToF32 : Int → F) (maximum : Nat) (heard : List (List Int)) : List (List F) :=
  (heard.take maximum).map (·.map s16ToF32)

/-! ## The buffer -/

/-- The buffer holds the frames of a burst. -/
structure LegacyEcho.Holds (echo : LegacyEcho) (burst : List (List Int)) : Prop where
  whole : ∀ frame ∈ burst, frame.length = APP_RPT_FRAME_SAMPLES
  length : echo.length = burst.length * APP_RPT_FRAME_SAMPLES
  samples : echo.samples.take echo.length = burst.flatten

/-- A frame of a buffer of frames of one length. -/
theorem take_drop_flatten {α : Type} {n : Nat} {xss : List (List α)}
    (h : ∀ xs ∈ xss, xs.length = n) {k : Nat} (hk : k < xss.length) :
    (xss.flatten.drop (k * n)).take n = xss[k] := by
  induction xss generalizing k with
  | nil => exact absurd hk (Nat.not_lt_zero k)
  | cons xs xss ih =>
    have hxs : xs.length = n := h xs List.mem_cons_self
    cases k with
    | zero => simp [← hxs]
    | succ k =>
      have hrest := ih (fun ys hys => h ys (List.mem_cons_of_mem xs hys))
        (Nat.lt_of_succ_lt_succ hk)
      rw [List.flatten_cons, Nat.succ_mul, Nat.add_comm, ← hxs, ← List.drop_drop, List.drop_left,
        hxs, hrest, List.getElem_cons_succ]

theorem length_flatten_of_whole {α : Type} {n : Nat} {xss : List (List α)}
    (h : ∀ xs ∈ xss, xs.length = n) : xss.flatten.length = xss.length * n := by
  rw [List.length_flatten, List.map_congr_left h, List.map_const', List.sum_replicate_nat]

namespace LegacyEcho

theorem Holds.nil {self : LegacyEcho} (h : self.length = 0) : self.Holds [] :=
  ⟨by simp, by rw [h]; rfl, by rw [h]; rfl⟩

theorem Holds.length_le {self : LegacyEcho} {burst : List (List Int)} (h : self.Holds burst) :
    self.length ≤ self.samples.length := by
  have hlen := congrArg List.length h.samples
  rw [List.length_take, length_flatten_of_whole h.whole, ← h.length] at hlen
  omega

/-- No access of a replay is out of range. -/
theorem Holds.slice {self : LegacyEcho} {burst : List (List Int)} (h : self.Holds burst) {k : Nat}
    (hk : k < burst.length) :
    slice self.samples (k * APP_RPT_FRAME_SAMPLES) APP_RPT_FRAME_SAMPLES = some burst[k] := by
  have hle := h.length_le
  have hlen := h.length
  have hend : (k + 1) * APP_RPT_FRAME_SAMPLES ≤ burst.length * APP_RPT_FRAME_SAMPLES :=
    Nat.mul_le_mul_right _ hk
  rw [Nat.succ_mul] at hend
  rw [Asl3.slice, if_pos (by omega), ← take_drop_flatten h.whole hk, ← h.samples, List.drop_take,
    List.take_take, Nat.min_eq_left (by omega)]

/-- A keyed frame that fits. -/
theorem receive_of_room {self : LegacyEcho} {frame : ControllerPcmFrame}
    (hstate : self.state = .recording) (hmode : frame.mode = .appRpt)
    (hroom : self.length + frame.samples.length ≤ self.samples.length) :
    self.receive frame true = { self with
      samples := self.samples.take self.length ++ frame.samples ++
        self.samples.drop (self.length + frame.samples.length)
      length := self.length + frame.samples.length } := by
  have hcopied : min frame.samples.length (self.samples.length - self.length) =
      frame.samples.length := by omega
  simp only [receive, hstate, hmode, hcopied, List.take_length, ne_eq, not_true_eq_false,
    and_self, if_true, if_false]

/-- A keyed frame when nothing fits. -/
theorem receive_of_full {self : LegacyEcho} {frame : ControllerPcmFrame}
    (hstate : self.state = .recording) (hmode : frame.mode = .appRpt)
    (hfull : self.samples.length = self.length) : self.receive frame true = self := by
  have hcopied : min frame.samples.length (self.samples.length - self.length) = 0 := by omega
  rw [receive, if_neg (by rw [hstate]; decide), if_pos ⟨rfl, hmode⟩]
  simp only [hcopied, List.take_zero, List.append_nil, Nat.add_zero, List.take_append_drop]

/-- A keyed frame is recorded whole, or not at all. -/
theorem Holds.receive {self : LegacyEcho} {maximum : Nat} {heard : List (List Int)}
    {frame : ControllerPcmFrame} (h : self.Holds (heard.take maximum))
    (hcapacity : self.samples.length = maximum * APP_RPT_FRAME_SAMPLES)
    (hstate : self.state = .recording) (hmode : frame.mode = .appRpt)
    (hframe : frame.samples.length = APP_RPT_FRAME_SAMPLES) :
    (self.receive frame true).Holds ((heard ++ [frame.samples]).take maximum) ∧
      (self.receive frame true).samples.length = maximum * APP_RPT_FRAME_SAMPLES ∧
      (self.receive frame true).state = .recording ∧
      (self.receive frame true).playback = self.playback := by
  have hlen := h.length
  rcases Nat.lt_or_ge heard.length maximum with hroom | hfull
  · rw [List.take_of_length_le hroom.le] at h hlen
    have hend : (heard.length + 1) * APP_RPT_FRAME_SAMPLES ≤ maximum * APP_RPT_FRAME_SAMPLES :=
      Nat.mul_le_mul_right _ hroom
    rw [Nat.succ_mul] at hend
    have hall : (heard ++ [frame.samples]).take maximum = heard ++ [frame.samples] :=
      List.take_of_length_le (by rwa [List.length_append])
    rw [receive_of_room hstate hmode (by omega), hall]
    refine ⟨⟨?_, ?_, ?_⟩, ?_, hstate, rfl⟩
    · intro xs hxs
      rcases List.mem_append.mp hxs with hxs | hxs
      · exact h.whole xs hxs
      · rw [List.mem_singleton.mp hxs, hframe]
    · simp only [List.length_append, List.length_singleton, hlen, hframe, Nat.succ_mul]
    · have hprefix : (self.samples.take self.length ++ frame.samples).length =
          self.length + frame.samples.length := by
        rw [List.length_append, List.length_take]
        omega
      rw [List.flatten_append, List.flatten_singleton, ← h.samples]
      exact List.take_left' hprefix
    · simp only [List.length_append, List.length_take, List.length_drop]
      omega
  · have hnone : self.length = maximum * APP_RPT_FRAME_SAMPLES := by
      rw [hlen, List.length_take, Nat.min_eq_left hfull]
    rw [receive_of_full hstate hmode (hcapacity.trans hnone.symm),
      List.take_append_of_le_length hfull]
    exact ⟨h, hcapacity, hstate, rfl⟩

theorem length_samples_clear (self : LegacyEcho) (h : self.length ≤ self.samples.length) :
    self.clear.samples.length = self.samples.length := by
  rw [clear, List.length_append, List.length_replicate, List.length_drop]
  omega

end LegacyEcho

/-! ## The invariant -/

/-- What holds of the echo and of its history between the calls. -/
structure EchoRun.Good (s16ToF32 : Int → F) (maximum : Nat) (s : EchoRun F) : Prop where
  capacity : s.controller.echo.samples.length = maximum * APP_RPT_FRAME_SAMPLES
  holds : s.controller.echo.Holds (s.heard.take maximum)
  playback : s.controller.echo.playback = s.submitted.length * APP_RPT_FRAME_SAMPLES
  submitted : s.submitted <+: replayed s16ToF32 maximum s.heard
  idle : s.controller.echo.state ≠ .playing → s.submitted = []
  playing : s.controller.echo.state = .playing → s.submitted.length < (s.heard.take maximum).length
  disabled : s.controller.echo.state = .disabled → s.heard = []
  ended : ∀ replay ∈ s.replays, replay.submitted <+: replayed s16ToF32 maximum replay.heard ∧
    (replay.completed = true → replay.submitted = replayed s16ToF32 maximum replay.heard)

/-- A write during a replay that does not fail: it is of the interface of the controller, and the
producer answers it. -/
def EchoAct.answered (mode : AsteriskPcmMode) : EchoAct → Bool
  | .write frame (.ok accepted) => frame.mode = mode && accepted ≤ APP_RPT_FRAME_SAMPLES
  | _ => false

namespace EchoRun

variable {s16ToF32 : Int → F} {maximum : Nat}

/-- The echo of the controller. -/
def withEcho (s : EchoRun F) (echo : LegacyEcho) : EchoRun F :=
  { s with controller := { s.controller with echo } }

@[simp] theorem withEcho_submitted (s : EchoRun F) (echo : LegacyEcho) :
    (s.withEcho echo).submitted = s.submitted := rfl

/-- Between the bursts. -/
theorem Good.of_idle {s : EchoRun F}
    (capacity : s.controller.echo.samples.length = maximum * APP_RPT_FRAME_SAMPLES)
    (state : s.controller.echo.state ≠ .playing) (length : s.controller.echo.length = 0)
    (playback : s.controller.echo.playback = 0) (heard : s.heard = [])
    (submitted : s.submitted = [])
    (ended : ∀ replay ∈ s.replays,
      replay.submitted <+: replayed s16ToF32 maximum replay.heard ∧
        (replay.completed = true → replay.submitted = replayed s16ToF32 maximum replay.heard)) :
    s.Good s16ToF32 maximum where
  capacity := capacity
  holds := by
    rw [heard, List.take_nil]
    exact .nil length
  playback := by
    rw [playback, submitted]
    rfl
  submitted := submitted ▸ List.nil_prefix
  idle := fun _ => submitted
  playing := fun hp => absurd hp state
  disabled := fun _ => heard
  ended := ended

theorem good_prepare (mode : AsteriskPcmMode) (enabled : Bool) :
    (prepare mode enabled maximum : EchoRun F).Good s16ToF32 maximum :=
  .of_idle List.length_replicate (by cases enabled <;> nofun) rfl rfl rfl rfl nofun

/-- A received frame is recorded, starts the replay, or changes nothing. -/
theorem receive_cases (s : EchoRun F) (frame : ControllerPcmFrame) (keyed : Bool) :
    (s.controller.echo.state = .recording ∧ keyed = true ∧ frame.mode = .appRpt ∧
      s.receive frame keyed = { s.withEcho (s.controller.echo.receive frame true) with
        heard := s.heard ++ [frame.samples] }) ∨
    (s.controller.echo.state = .recording ∧ ¬(keyed = true ∧ frame.mode = .appRpt) ∧
      s.controller.echo.length ≠ 0 ∧
      s.receive frame keyed =
        s.withEcho { s.controller.echo with state := .playing, playback := 0 }) ∨
    ((s.controller.echo.state = .recording → ¬(keyed = true ∧ frame.mode = .appRpt) ∧
      s.controller.echo.length = 0) ∧ s.receive frame keyed = s) := by
  by_cases hstate : s.controller.echo.state = .recording
  · by_cases hkeyed : keyed = true ∧ frame.mode = .appRpt
    · obtain ⟨rfl, hmode⟩ := hkeyed
      refine .inl ⟨hstate, rfl, hmode, ?_⟩
      simp only [receive, withEcho, hstate, hmode, decide_true, Bool.and_self, if_true]
    · have hno : ¬(decide (s.controller.echo.state = .recording) && keyed &&
          decide (frame.mode = .appRpt)) = true := by
        simpa only [hstate, decide_true, Bool.true_and, Bool.and_eq_true, decide_eq_true_eq]
          using hkeyed
      rw [receive, if_neg hno, LegacyEcho.receive, if_neg (not_not.mpr hstate), if_neg hkeyed]
      by_cases hlength : s.controller.echo.length = 0
      · rw [if_neg (not_not.mpr hlength)]
        exact .inr (.inr ⟨fun _ => ⟨hkeyed, hlength⟩, rfl⟩)
      · rw [if_pos hlength]
        exact .inr (.inl ⟨hstate, hkeyed, hlength, rfl⟩)
  · have hno : ¬(decide (s.controller.echo.state = .recording) && keyed &&
        decide (frame.mode = .appRpt)) = true := by
      simp only [hstate, decide_false, Bool.false_and, Bool.false_eq_true, not_false_eq_true]
    rw [receive, if_neg hno, LegacyEcho.receive, if_pos hstate]
    exact .inr (.inr ⟨fun h => absurd h hstate, rfl⟩)

theorem Good.receive {s : EchoRun F} (h : s.Good s16ToF32 maximum) (frame : WholeFrame)
    (keyed : Bool) : (s.receive frame.toControllerPcmFrame keyed).Good s16ToF32 maximum := by
  rcases s.receive_cases frame.toControllerPcmFrame keyed with
    ⟨hstate, rfl, hmode, heq⟩ | ⟨hstate, -, hlength, heq⟩ | ⟨-, heq⟩
  · have hidle : s.submitted = [] := h.idle (by rw [hstate]; decide)
    have hframe : frame.samples.length = APP_RPT_FRAME_SAMPLES := by
      rw [frame.whole, hmode]
      rfl
    obtain ⟨hholds, hcapacity, hstate', hplayback⟩ :=
      h.holds.receive h.capacity hstate hmode hframe
    rw [heq]
    exact {
      capacity := hcapacity
      holds := hholds
      playback := hplayback.trans h.playback
      submitted := hidle ▸ List.nil_prefix
      idle := fun _ => hidle
      playing := fun hp => absurd (hstate'.symm.trans hp) (by decide)
      disabled := fun hd => absurd (hstate'.symm.trans hd) (by decide)
      ended := h.ended }
  · have hidle : s.submitted = [] := h.idle (by rw [hstate]; decide)
    rw [heq]
    exact {
      capacity := h.capacity
      holds := ⟨h.holds.whole, h.holds.length, h.holds.samples⟩
      playback := by
        rw [withEcho_submitted, hidle]
        rfl
      submitted := h.submitted
      idle := fun hne => absurd rfl hne
      playing := fun _ => by
        rw [withEcho_submitted, hidle]
        refine Nat.pos_of_ne_zero fun h0 => hlength ?_
        exact h.holds.length.trans ((congrArg (· * _) h0).trans (Nat.zero_mul _))
      disabled := nofun
      ended := h.ended }
  · rwa [heq]

/-- The replay under way is cut off. -/
theorem Good.setEchoEnabled {s : EchoRun F} (h : s.Good s16ToF32 maximum) (enabled : Bool) :
    (s.setEchoEnabled enabled).Good s16ToF32 maximum := by
  by_cases hmode : s.controller.mode = .appRpt
  · have hcapacity := (s.controller.echo.length_samples_clear h.holds.length_le).trans h.capacity
    have hstate : (s.controller.echo.setEnabled enabled).state ≠ .playing := by
      cases enabled <;> nofun
    rw [EchoRun.setEchoEnabled, if_neg (not_not.mpr hmode), ControllerState.setEchoEnabled,
      if_pos hmode]
    by_cases hplaying : s.controller.echo.state = .playing
    · rw [if_pos hplaying]
      refine .of_idle hcapacity hstate rfl rfl rfl rfl fun replay hreplay => ?_
      rcases List.mem_append.mp hreplay with hold | hnew
      · exact h.ended replay hold
      · obtain rfl := List.mem_singleton.mp hnew
        exact ⟨h.submitted, nofun⟩
    · rw [if_neg hplaying]
      exact .of_idle hcapacity hstate rfl rfl rfl (h.idle hplaying) h.ended
  · have hsame : s.setEchoEnabled enabled = s := by
      rw [EchoRun.setEchoEnabled, if_pos hmode, ControllerState.setEchoEnabled, if_neg hmode]
    rwa [hsame]

/-! ## Writes -/

/-- A write when nothing is replayed leaves the echo alone. -/
theorem writeProgram_idle (s16ToF32 : Int → F) {s : EchoRun F} (hidle : s.controller.echo.state ≠ .playing)
    (frame : WholeFrame) (answer : Except Unit Nat) :
    ∃ w, s.controller.writeProgram s16ToF32 answer frame.toControllerPcmFrame = some w ∧
      s.written w = s := by
  have hslice : slice frame.samples 0 frame.samples.length = some frame.samples := by
    rw [slice, if_pos (Nat.zero_add _).le, List.drop_zero, List.take_length]
  rw [ControllerState.writeProgram]
  by_cases hmode : frame.mode = s.controller.mode
  · rw [if_neg (not_not.mpr hmode)]
    simp only [hidle, if_false, reduceCtorEq, hslice, Option.map_some]
    refine ⟨_, rfl, ?_⟩
    rcases answer with - | accepted
    · rfl
    · by_cases hover : frame.samples.length < accepted
      · simp only [hover, if_true]
        rfl
      · simp only [hover, if_false]
        rfl
  · rw [if_pos hmode]
    exact ⟨_, rfl, rfl⟩

/-- A write during a replay submits its next frame, or fails and changes nothing. -/
theorem Good.writeProgram_playing {s : EchoRun F} (h : s.Good s16ToF32 maximum)
    (hplaying : s.controller.echo.state = .playing) (frame : WholeFrame)
    (answer : Except Unit Nat) :
    ∃ w, s.controller.writeProgram s16ToF32 answer frame.toControllerPcmFrame = some w ∧
      (¬ (EchoAct.write frame answer).answered s.controller.mode →
        s.written w = s ∧ ∃ e, w.result = .error e) ∧
      ((EchoAct.write frame answer).answered s.controller.mode →
        (replayed s16ToF32 maximum s.heard)[s.submitted.length]? = some w.pushed ∧
        w.controller = { s.controller with
          echo := s.controller.echo.finishPlaybackFrame APP_RPT_FRAME_SAMPLES } ∧
        ∃ write, w.result = .ok write ∧ write.source = .legacyEcho) := by
  have hlt := h.playing hplaying
  have hslice := h.holds.slice hlt
  rw [ControllerState.writeProgram]
  by_cases hmode : frame.mode = s.controller.mode
  · rw [if_neg (not_not.mpr hmode)]
    simp only [hplaying, if_true, h.playback, hslice, Option.map_some]
    refine ⟨_, rfl, ?_⟩
    rcases answer with - | accepted
    · exact ⟨fun _ => ⟨rfl, _, rfl⟩, nofun⟩
    · by_cases hover : APP_RPT_FRAME_SAMPLES < accepted
      · have hno : ¬ (EchoAct.write frame (.ok accepted)).answered s.controller.mode := by
          simp [EchoAct.answered, hover]
        simp only [hover, if_true]
        exact ⟨fun _ => ⟨rfl, _, rfl⟩, fun hyes => absurd hyes hno⟩
      · have hyes : (EchoAct.write frame (.ok accepted)).answered s.controller.mode := by
          simpa [EchoAct.answered, hmode] using hover
        simp only [hover, if_false]
        refine ⟨fun hno => absurd hyes hno, fun _ => ⟨?_, trivial, _, rfl, rfl⟩⟩
        rw [replayed, List.getElem?_map, List.getElem?_eq_getElem hlt]
        rfl
  · rw [if_pos hmode]
    have hno : ¬ (EchoAct.write frame answer).answered s.controller.mode := by
      cases answer <;> simp [EchoAct.answered, hmode]
    exact ⟨_, rfl, fun _ => ⟨rfl, _, rfl⟩, fun hyes => absurd hyes hno⟩

/-- The next frame of the replay is submitted. -/
def submitNext (s : EchoRun F) (pushed : List F) : EchoRun F :=
  { s.withEcho { s.controller.echo with
      playback := s.controller.echo.playback + APP_RPT_FRAME_SAMPLES } with
    submitted := s.submitted ++ [pushed] }

/-- The last frame of the replay is submitted. -/
def submitLast (s : EchoRun F) (pushed : List F) : EchoRun F :=
  (s.withEcho { s.controller.echo.clear with state := .recording }).endReplay
    (s.submitted ++ [pushed]) true

/-- What a write does during a replay. -/
theorem Good.write_playing {s s' : EchoRun F} {frame : WholeFrame} {answer : Except Unit Nat}
    (h : s.Good s16ToF32 maximum) (hplaying : s.controller.echo.state = .playing)
    (hstep : s.step s16ToF32 (.write frame answer) = some s') :
    (¬ (EchoAct.write frame answer).answered s.controller.mode ∧ s' = s) ∨
    ((EchoAct.write frame answer).answered s.controller.mode ∧ ∃ pushed,
      (replayed s16ToF32 maximum s.heard)[s.submitted.length]? = some pushed ∧
      ((s.submitted.length + 1 < (s.heard.take maximum).length ∧ s' = s.submitNext pushed) ∨
        (s.submitted.length + 1 = (s.heard.take maximum).length ∧ s' = s.submitLast pushed))) := by
  obtain ⟨w, hw, hfail, hsubmit⟩ := h.writeProgram_playing hplaying frame answer
  rw [step, hw] at hstep
  obtain rfl := Option.some.inj hstep
  by_cases hanswered : (EchoAct.write frame answer).answered s.controller.mode
  · obtain ⟨hpushed, hcontroller, write, hresult, hsource⟩ := hsubmit hanswered
    refine .inr ⟨hanswered, w.pushed, hpushed, ?_⟩
    have hlt := h.playing hplaying
    have hlength := h.holds.length
    have hplayback := h.playback
    rcases Nat.lt_or_ge (s.submitted.length + 1) (s.heard.take maximum).length with hmore | hend
    · have hnot : ¬ s.controller.echo.length ≤
          s.controller.echo.playback + APP_RPT_FRAME_SAMPLES := by
        have := Nat.mul_lt_mul_of_pos_right hmore (show 0 < APP_RPT_FRAME_SAMPLES by decide)
        rw [Nat.succ_mul] at this
        omega
      refine .inl ⟨hmore, ?_⟩
      rw [written, hresult, hcontroller, LegacyEcho.finishPlaybackFrame, if_neg hnot]
      simp only [hsource, hplaying, if_true, submitNext, withEcho]
    · have hle : s.controller.echo.length ≤
          s.controller.echo.playback + APP_RPT_FRAME_SAMPLES := by
        have := Nat.mul_le_mul_right APP_RPT_FRAME_SAMPLES hend
        rw [Nat.succ_mul] at this
        omega
      refine .inr ⟨by omega, ?_⟩
      rw [written, hresult, hcontroller, LegacyEcho.finishPlaybackFrame, if_pos hle]
      simp only [hsource, if_true]
      rfl
  · exact .inl ⟨hanswered, (hfail hanswered).1⟩

/-- One more frame of the replay. -/
theorem Good.prefix_next {s : EchoRun F} (h : s.Good s16ToF32 maximum) {pushed : List F}
    (hpushed : (replayed s16ToF32 maximum s.heard)[s.submitted.length]? = some pushed) :
    s.submitted ++ [pushed] <+: replayed s16ToF32 maximum s.heard := by
  obtain ⟨hlt, hget⟩ := List.getElem?_eq_some_iff.mp hpushed
  refine ⟨(replayed s16ToF32 maximum s.heard).drop (s.submitted.length + 1), ?_⟩
  conv_rhs => rw [← List.take_append_drop (s.submitted.length + 1) (replayed _ _ _),
    List.take_succ_eq_append_getElem hlt, hget]
  rw [← List.prefix_iff_eq_take.mp h.submitted]

theorem length_replayed (heard : List (List Int)) :
    (replayed s16ToF32 maximum heard).length = (heard.take maximum).length :=
  List.length_map _

theorem Good.prefix_last {s : EchoRun F} (h : s.Good s16ToF32 maximum) {pushed : List F}
    (hpushed : (replayed s16ToF32 maximum s.heard)[s.submitted.length]? = some pushed)
    (hlast : s.submitted.length + 1 = (s.heard.take maximum).length) :
    s.submitted ++ [pushed] = replayed s16ToF32 maximum s.heard := by
  refine (h.prefix_next hpushed).eq_of_length ?_
  rw [length_replayed, List.length_append, List.length_singleton, hlast]

theorem Good.submitNext {s : EchoRun F} (h : s.Good s16ToF32 maximum) {pushed : List F}
    (hplaying : s.controller.echo.state = .playing)
    (hpushed : (replayed s16ToF32 maximum s.heard)[s.submitted.length]? = some pushed)
    (hmore : s.submitted.length + 1 < (s.heard.take maximum).length) :
    (s.submitNext pushed).Good s16ToF32 maximum where
  capacity := h.capacity
  holds := ⟨h.holds.whole, h.holds.length, h.holds.samples⟩
  playback := by
    have hplayback := h.playback
    simp only [EchoRun.submitNext, withEcho, List.length_append, List.length_singleton,
      Nat.succ_mul, hplayback]
  submitted := h.prefix_next hpushed
  idle := fun hne => absurd hplaying hne
  playing := fun _ => by
    simpa only [EchoRun.submitNext, withEcho, List.length_append, List.length_singleton] using hmore
  disabled := fun hd => nomatch hplaying.symm.trans hd
  ended := h.ended

theorem Good.submitLast {s : EchoRun F} (h : s.Good s16ToF32 maximum) {pushed : List F}
    (hpushed : (replayed s16ToF32 maximum s.heard)[s.submitted.length]? = some pushed)
    (hlast : s.submitted.length + 1 = (s.heard.take maximum).length) :
    (s.submitLast pushed).Good s16ToF32 maximum := by
  have hcapacity := (s.controller.echo.length_samples_clear h.holds.length_le).trans h.capacity
  refine .of_idle hcapacity nofun rfl rfl rfl rfl fun replay hreplay => ?_
  rcases List.mem_append.mp hreplay with hold | hnew
  · exact h.ended replay hold
  · obtain rfl := List.mem_singleton.mp hnew
    exact ⟨h.prefix_next hpushed, fun _ => h.prefix_last hpushed hlast⟩

theorem Good.write {s s' : EchoRun F} {frame : WholeFrame} {answer : Except Unit Nat}
    (h : s.Good s16ToF32 maximum) (hstep : s.step s16ToF32 (.write frame answer) = some s') :
    s'.Good s16ToF32 maximum := by
  by_cases hplaying : s.controller.echo.state = .playing
  · rcases h.write_playing hplaying hstep with
      ⟨-, rfl⟩ | ⟨-, pushed, hpushed, ⟨hmore, rfl⟩ | ⟨hlast, rfl⟩⟩
    · exact h
    · exact h.submitNext hplaying hpushed hmore
    · exact h.submitLast hpushed hlast
  · obtain ⟨w, hw, hsame⟩ := writeProgram_idle s16ToF32 hplaying frame answer
    rw [step, hw] at hstep
    obtain rfl := Option.some.inj hstep
    rwa [hsame]

/-- Every step keeps the invariant. -/
theorem good_inductive : (echo s16ToF32 maximum).Inductive (fun _ _ => True)
    (EchoRun.Good s16ToF32 maximum) where
  init := by
    rintro _ ⟨mode, enabled, rfl⟩
    exact good_prepare mode enabled
  step := by
    intro s act s' h _ hstep
    cases act with
    | receive frame keyed =>
      obtain rfl := Option.some.inj hstep
      exact h.receive frame keyed
    | write frame answer => exact h.write hstep
    | setEchoEnabled enabled =>
      obtain rfl := Option.some.inj hstep
      exact h.setEchoEnabled enabled

/-! ## Runs -/

/-- No call panics. -/
theorem Good.step_isSome {s : EchoRun F} (h : s.Good s16ToF32 maximum) (act : EchoAct) :
    (s.step s16ToF32 act).isSome := by
  cases act with
  | receive frame keyed => rfl
  | setEchoEnabled enabled => rfl
  | write frame answer =>
    by_cases hplaying : s.controller.echo.state = .playing
    · obtain ⟨w, hw, -⟩ := h.writeProgram_playing hplaying frame answer
      rw [step, hw]
      rfl
    · obtain ⟨w, hw, -⟩ := writeProgram_idle s16ToF32 hplaying frame answer
      rw [step, hw]
      rfl

/-- Received frames do not disturb a replay. -/
theorem receive_playing {s : EchoRun F} (hplaying : s.controller.echo.state = .playing)
    (frame : ControllerPcmFrame) (keyed : Bool) : s.receive frame keyed = s := by
  rcases s.receive_cases frame keyed with ⟨hstate, -⟩ | ⟨hstate, -⟩ | ⟨-, heq⟩
  · cases hplaying.symm.trans hstate
  · cases hplaying.symm.trans hstate
  · exact heq

/-- Only a replay ends as one. -/
theorem step_replays_idle {s s' : EchoRun F} {act : EchoAct}
    (hidle : s.controller.echo.state ≠ .playing) (hstep : s.step s16ToF32 act = some s') :
    s'.replays = s.replays := by
  cases act with
  | receive frame keyed =>
    obtain rfl := Option.some.inj hstep
    rfl
  | write frame answer =>
    obtain ⟨w, hw, hsame⟩ := writeProgram_idle s16ToF32 hidle frame answer
    rw [step, hw] at hstep
    obtain rfl := Option.some.inj hstep
    rw [hsame]
  | setEchoEnabled enabled =>
    obtain rfl := Option.some.inj hstep
    by_cases hmode : s.controller.mode = .appRpt
    · rw [EchoRun.setEchoEnabled, if_neg (not_not.mpr hmode), if_neg hidle]
    · rw [EchoRun.setEchoEnabled, if_pos hmode]

/-- What has ended stays. -/
theorem Good.step_replays {s s' : EchoRun F} (h : s.Good s16ToF32 maximum) {act : EchoAct}
    (hstep : s.step s16ToF32 act = some s') : s.replays <+: s'.replays := by
  by_cases hplaying : s.controller.echo.state = .playing
  · cases act with
    | receive frame keyed =>
      obtain rfl := Option.some.inj hstep
      exact List.prefix_rfl
    | write frame answer =>
      rcases h.write_playing hplaying hstep with
        ⟨-, rfl⟩ | ⟨-, pushed, -, ⟨-, rfl⟩ | ⟨-, rfl⟩⟩
      · exact List.prefix_rfl
      · exact List.prefix_rfl
      · exact List.prefix_append _ _
    | setEchoEnabled enabled =>
      obtain rfl := Option.some.inj hstep
      by_cases hmode : s.controller.mode = .appRpt
      · rw [EchoRun.setEchoEnabled, if_neg (not_not.mpr hmode), if_pos hplaying]
        exact List.prefix_append _ _
      · have hsame : s.replays = (s.setEchoEnabled enabled).replays := by
          rw [EchoRun.setEchoEnabled, if_pos hmode]
        exact hsame ▸ List.prefix_rfl
  · exact step_replays_idle hplaying hstep ▸ List.prefix_rfl

theorem Good.run_replays {s s' : EchoRun F} (h : s.Good s16ToF32 maximum) {acts : List EchoAct}
    (hrun : (echo s16ToF32 maximum).run s acts = some s') : s.replays <+: s'.replays := by
  induction acts generalizing s with
  | nil =>
    obtain rfl : s = s' := Option.some.inj hrun
    exact List.prefix_rfl
  | cons act acts ih =>
    obtain ⟨m, hstep, hrest⟩ := System.run_cons.mp hrun
    exact (h.step_replays hstep).trans (ih (good_inductive.step s act m h trivial hstep) hrest)

/-- A replay runs to its end in every run without a toggle that has enough successful writes. -/
theorem Good.completes {s s' : EchoRun F} (h : s.Good s16ToF32 maximum)
    (hplaying : s.controller.echo.state = .playing) {acts : List EchoAct}
    (hrun : (echo s16ToF32 maximum).run s acts = some s')
    (htoggles : ∀ enabled, .setEchoEnabled enabled ∉ acts)
    (hwrites : (s.heard.take maximum).length ≤
      s.submitted.length + acts.countP (·.answered s.controller.mode)) :
    s'.replays[s.replays.length]? =
      some ⟨s.heard, replayed s16ToF32 maximum s.heard, true⟩ := by
  induction acts generalizing s with
  | nil =>
    have := h.playing hplaying
    rw [List.countP_nil] at hwrites
    omega
  | cons act acts ih =>
    obtain ⟨m, hstep, hrest⟩ := System.run_cons.mp hrun
    have hgood : m.Good s16ToF32 maximum := good_inductive.step s act m h trivial hstep
    have hrestToggles : ∀ enabled, .setEchoEnabled enabled ∉ acts := fun enabled hmem =>
      htoggles enabled (List.mem_cons_of_mem act hmem)
    have hstay (hm : m = s) (hnot : act.answered s.controller.mode = false) :
        s'.replays[s.replays.length]? =
          some ⟨s.heard, replayed s16ToF32 maximum s.heard, true⟩ := by
      subst hm
      rw [List.countP_cons_of_neg (by simp [hnot])] at hwrites
      exact ih h hplaying hrest hrestToggles hwrites
    cases act with
    | receive frame keyed =>
      exact hstay ((Option.some.inj hstep).symm.trans (receive_playing hplaying _ _)) rfl
    | setEchoEnabled enabled => exact absurd List.mem_cons_self (htoggles enabled)
    | write frame answer =>
      rcases h.write_playing hplaying hstep with
        ⟨hnot, rfl⟩ | ⟨hanswered, pushed, hpushed, ⟨hmore, rfl⟩ | ⟨hlast, rfl⟩⟩
      · exact hstay rfl (Bool.eq_false_iff.mpr hnot)
      · rw [List.countP_cons_of_pos hanswered] at hwrites
        refine @ih (s.submitNext pushed) hgood hplaying hrest hrestToggles ?_
        have hlength : (s.submitNext pushed).submitted.length = s.submitted.length + 1 :=
          List.length_append
        rw [hlength, Nat.add_assoc, Nat.add_comm 1]
        exact hwrites
      · have hended : (s.submitLast pushed).replays = s.replays ++
            [⟨s.heard, replayed s16ToF32 maximum s.heard, true⟩] := by
          rw [← h.prefix_last hpushed hlast]
          rfl
        obtain ⟨later, hlater⟩ := hgood.run_replays hrest
        rw [← hlater, hended, List.append_assoc, List.getElem?_append_right le_rfl, Nat.sub_self]
        rfl

/-- A replay that is not toggled ends whole, and the echo records again. -/
theorem Good.returns {s s' : EchoRun F} (h : s.Good s16ToF32 maximum)
    (hplaying : s.controller.echo.state = .playing) {act : EchoAct}
    (htoggle : ∀ enabled, act ≠ .setEchoEnabled enabled)
    (hstep : s.step s16ToF32 act = some s') (hend : s'.controller.echo.state ≠ .playing) :
    s'.controller.echo.state = .recording ∧ s'.controller.echo.length = 0 ∧ s'.heard = [] ∧
      s'.replays = s.replays ++ [⟨s.heard, replayed s16ToF32 maximum s.heard, true⟩] := by
  cases act with
  | receive frame keyed =>
    obtain rfl := Option.some.inj hstep
    rw [receive_playing hplaying] at hend
    exact absurd hplaying hend
  | setEchoEnabled enabled => exact absurd rfl (htoggle enabled)
  | write frame answer =>
    rcases h.write_playing hplaying hstep with
      ⟨-, rfl⟩ | ⟨-, pushed, hpushed, ⟨-, rfl⟩ | ⟨hlast, rfl⟩⟩
    · exact absurd hplaying hend
    · exact absurd hplaying hend
    · refine ⟨rfl, rfl, rfl, ?_⟩
      rw [← h.prefix_last hpushed hlast]
      rfl

theorem Good.failed {s : EchoRun F} (h : s.Good s16ToF32 maximum) {frame : WholeFrame}
    {answer : Except Unit Nat} {w : Written F} {e : WriteError}
    (hw : s.controller.writeProgram s16ToF32 answer frame.toControllerPcmFrame = some w)
    (he : w.result = .error e) : w.controller = s.controller := by
  have hsame : s.written w = s := by
    by_cases hplaying : s.controller.echo.state = .playing
    · obtain ⟨w', hw', hfail, hsubmit⟩ := h.writeProgram_playing hplaying frame answer
      obtain rfl := Option.some.inj (hw.symm.trans hw')
      refine (hfail fun hanswered => ?_).1
      obtain ⟨-, -, write, hresult, -⟩ := hsubmit hanswered
      cases he.symm.trans hresult
    · obtain ⟨w', hw', hsame⟩ := writeProgram_idle s16ToF32 hplaying frame answer
      obtain rfl := Option.some.inj (hw.symm.trans hw')
      exact hsame
  have hwritten : (s.written w).controller = w.controller := by
    rw [written, he]
  rw [← hwritten, hsame]

theorem Good.starts {s s' : EchoRun F} (h : s.Good s16ToF32 maximum)
    (hstate : s.controller.echo.state = .recording) (hsome : s.heard.take maximum ≠ [])
    {frame : WholeFrame} {keyed : Bool} (hkeyed : ¬(keyed = true ∧ frame.mode = .appRpt))
    (hstep : s.step s16ToF32 (.receive frame keyed) = some s') :
    s'.controller.echo.state = .playing ∧ s'.heard = s.heard ∧ s'.submitted = [] := by
  obtain rfl := Option.some.inj hstep
  rcases s.receive_cases frame.toControllerPcmFrame keyed with
    ⟨-, hkey, hmode, -⟩ | ⟨-, -, -, heq⟩ | ⟨hrec, -⟩
  · exact absurd ⟨hkey, hmode⟩ hkeyed
  · rw [heq]
    exact ⟨rfl, rfl, h.idle (by rw [hstate]; decide)⟩
  · refine absurd ((hrec hstate).2.symm.trans h.holds.length).symm ?_
    exact Nat.mul_ne_zero (mt List.length_eq_zero_iff.mp hsome) (by decide)

end EchoRun

/-! ## The contract -/

/-- What holds of the echo in every state of a run. -/
structure EchoContract (s16ToF32 : Int → F) (maximum : Nat) (s : EchoRun F) : Prop where
  capacity : s.controller.echo.samples.length = maximum * APP_RPT_FRAME_SAMPLES
  whole : APP_RPT_FRAME_SAMPLES ∣ s.controller.echo.length ∧
    APP_RPT_FRAME_SAMPLES ∣ s.controller.echo.playback
  range : s.controller.echo.state = .playing →
    s.controller.echo.playback < s.controller.echo.length ∧
      s.controller.echo.length ≤ s.controller.echo.samples.length
  /-- No call reads or writes out of range. -/
  safe : ∀ act, (s.step s16ToF32 act).isSome
  /-- A failed write takes nothing of the replay. -/
  failed : ∀ (frame : WholeFrame) answer w e,
    s.controller.writeProgram s16ToF32 answer frame.toControllerPcmFrame = some w →
      w.result = .error e → w.controller = s.controller
  /-- A burst of which something is recorded is replayed once its key is released. -/
  starts : s.controller.echo.state = .recording → s.heard.take maximum ≠ [] →
    ∀ (frame : WholeFrame) keyed, ¬(keyed = true ∧ frame.mode = .appRpt) → ∀ s',
      s.step s16ToF32 (.receive frame keyed) = some s' →
        s'.controller.echo.state = .playing ∧ s'.heard = s.heard ∧ s'.submitted = []
  /-- The replay submits the frames that fit, once each and in order. -/
  inOrder : s.submitted <+: replayed s16ToF32 maximum s.heard
  completes : s.controller.echo.state = .playing → ∀ acts s',
    (echo s16ToF32 maximum).run s acts = some s' → (∀ enabled, .setEchoEnabled enabled ∉ acts) →
      (s.heard.take maximum).length ≤
        s.submitted.length + acts.countP (·.answered s.controller.mode) →
      s'.replays[s.replays.length]? = some ⟨s.heard, replayed s16ToF32 maximum s.heard, true⟩
  returns : s.controller.echo.state = .playing → ∀ act s',
    (∀ enabled, act ≠ .setEchoEnabled enabled) → s.step s16ToF32 act = some s' →
      s'.controller.echo.state ≠ .playing →
      s'.controller.echo.state = .recording ∧ s'.controller.echo.length = 0 ∧ s'.heard = [] ∧
        s'.replays = s.replays ++ [⟨s.heard, replayed s16ToF32 maximum s.heard, true⟩]
  /-- Nothing is replayed again. -/
  once : s.controller.echo.state ≠ .playing → ∀ act s', s.step s16ToF32 act = some s' →
    s'.replays = s.replays
  ended : ∀ replay ∈ s.replays, replay.submitted <+: replayed s16ToF32 maximum replay.heard ∧
    (replay.completed = true → replay.submitted = replayed s16ToF32 maximum replay.heard)

/-- The legacy echo in every state that received frames, writes and toggles reach. -/
theorem echo_contract {s16ToF32 : Int → F} {maximum : Nat} {s : EchoRun F}
    (h : (echo s16ToF32 maximum).Reach s) : EchoContract s16ToF32 maximum s := by
  have hgood : s.Good s16ToF32 maximum := EchoRun.good_inductive.reach h
  exact {
    capacity := hgood.capacity
    whole := ⟨Dvd.intro_left _ hgood.holds.length.symm, Dvd.intro_left _ hgood.playback.symm⟩
    range := fun hplaying => by
      refine ⟨?_, hgood.holds.length_le⟩
      rw [hgood.playback, hgood.holds.length]
      exact Nat.mul_lt_mul_of_pos_right (hgood.playing hplaying) (by decide)
    safe := hgood.step_isSome
    failed := fun frame answer w e hw he => hgood.failed hw he
    starts := fun hstate hsome frame keyed hkeyed s' hstep =>
      hgood.starts hstate hsome hkeyed hstep
    inOrder := hgood.submitted
    completes := fun hplaying acts s' => hgood.completes hplaying
    returns := fun hplaying act s' => hgood.returns hplaying
    once := fun hidle act s' => EchoRun.step_replays_idle hidle
    ended := hgood.ended }

/-- A frame of equal samples. -/
def WholeFrame.constant (sample : Int) : WholeFrame :=
  ⟨⟨.appRpt, List.replicate APP_RPT_FRAME_SAMPLES sample⟩, List.length_replicate⟩

/-- A burst of two frames in a buffer of one. -/
theorem echo_contract_burst :
    ∃ s : EchoRun Int, EchoContract id 1 s ∧ s.controller.echo.state = .playing ∧
      s.heard = [List.replicate 160 1, List.replicate 160 2] := by
  refine ⟨_, echo_contract ⟨.prepare .appRpt true 1,
    [.receive (.constant 1) true, .receive (.constant 2) true, .receive (.constant 0) false],
    ⟨_, _, rfl⟩, rfl⟩, ?_, rfl⟩
  decide +kernel

end Asl3
end UsbRadioPlus
