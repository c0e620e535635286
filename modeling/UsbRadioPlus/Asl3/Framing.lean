import UsbRadioPlus.Asl3.Conversion

/-!
# Receive framing loses nothing

Every round of `publish` takes native samples up to the next boundary of 20 ms, so a call without an
error completes the frames whose end it reaches, and never two. With the advanced interface the assembler
holds exactly the samples behind the last boundary: it never overflows, a frame is never padded, and
the frames are the native samples cut at the boundaries.
-/

namespace UsbRadioPlus
namespace Asl3

open Sys

variable {C F A : Type}

/-! ## Boundaries -/

/-- A call that takes `count` native samples pushes at most the frames whose end it reaches, and exactly
these unless it fails. -/
structure Framed (start : ReceivePublisher A) (count before : Nat)
    (after : Except AdapterError Unit × ReceivePublisher A × List ReceivePacket) : Prop where
  mode : after.2.1.mode = start.mode
  below : after.2.1.nativeRemainder < NATIVE_FRAME_SAMPLES
  atMost : after.2.2.length ≤ before + (start.nativeRemainder + count) / NATIVE_FRAME_SAMPLES
  exact : after.1.isOk = true →
    after.2.1.nativeRemainder = (start.nativeRemainder + count) % NATIVE_FRAME_SAMPLES ∧
      after.2.2.length = before + (start.nativeRemainder + count) / NATIVE_FRAME_SAMPLES

theorem framed_nothing {self : ReceivePublisher A} (packets : List ReceivePacket)
    (h : self.nativeRemainder < NATIVE_FRAME_SAMPLES) :
    Framed self 0 packets.length (.ok (), self, packets) := by
  have hmod := Nat.mod_eq_of_lt h
  have hdiv := Nat.div_eq_of_lt h
  exact ⟨rfl, h, Nat.le_add_right _ _, fun _ => ⟨hmod.symm, by rw [Nat.add_zero, hdiv]; rfl⟩⟩

theorem framed_error {self : ReceivePublisher A} {e : AdapterError} {audio : A}
    {remainder : Nat} (count : Nat) (packets : List ReceivePacket)
    (h : remainder < NATIVE_FRAME_SAMPLES) :
    Framed self count packets.length
      (.error e, { self with audio, nativeRemainder := remainder }, packets) :=
  ⟨rfl, h, Nat.le_add_right _ _, nofun⟩

/-- The rest of a call behind a round that reaches the boundary. -/
theorem Framed.boundary {self : ReceivePublisher A} {audio : A} {count taken before : Nat}
    {after : Except AdapterError Unit × ReceivePublisher A × List ReceivePacket}
    (h : Framed { self with audio, nativeRemainder := 0 } (count - taken) (before + 1) after)
    (htaken : taken ≤ count) (hend : self.nativeRemainder + taken = NATIVE_FRAME_SAMPLES) :
    Framed self count before after := by
  have hsum : self.nativeRemainder + count = 0 + (count - taken) + NATIVE_FRAME_SAMPLES := by omega
  have hpos : 0 < NATIVE_FRAME_SAMPLES := by decide
  refine ⟨h.mode, h.below, ?_, fun hok => ?_⟩
  · rw [hsum, Nat.add_div_right _ hpos]
    exact h.atMost.trans_eq (by simp only; omega)
  · obtain ⟨hremainder, hlength⟩ := h.exact hok
    rw [hsum, Nat.add_div_right _ hpos, Nat.add_mod_right]
    exact ⟨hremainder, hlength.trans (by simp only; omega)⟩

/-- The rest of a call behind a round that stays below the boundary. -/
theorem Framed.below_boundary {self : ReceivePublisher A} {audio : A} {count taken before : Nat}
    {after : Except AdapterError Unit × ReceivePublisher A × List ReceivePacket}
    (h : Framed { self with audio, nativeRemainder := self.nativeRemainder + taken }
      (count - taken) before after)
    (htaken : taken ≤ count) : Framed self count before after := by
  have hsum : self.nativeRemainder + count = self.nativeRemainder + taken + (count - taken) := by
    omega
  exact ⟨h.mode, h.below, hsum ▸ h.atMost, hsum ▸ h.exact⟩

theorem framed_publishLoop (path : AudioPath F A) (metadata : ReceiveMetadata) (fuel : Nat)
    (self : ReceivePublisher A) (native : List F) (packets : List ReceivePacket)
    (hfuel : native.length ≤ fuel) (hremainder : self.nativeRemainder < NATIVE_FRAME_SAMPLES) :
    Framed self native.length packets.length
      (self.publishLoop path metadata fuel native packets) := by
  induction fuel generalizing self native packets with
  | zero =>
    obtain rfl := List.length_eq_zero_iff.mp (Nat.le_zero.mp hfuel)
    exact framed_nothing packets hremainder
  | succ fuel ih =>
    rw [ReceivePublisher.publishLoop]
    cases native with
    | nil => exact framed_nothing packets hremainder
    | cons x xs =>
      rw [List.isEmpty_cons, if_neg Bool.false_ne_true]
      have hcount : min (NATIVE_FRAME_SAMPLES - self.nativeRemainder) (x :: xs).length ≤
          (x :: xs).length := Nat.min_le_right _ _
      have hprogress : 0 < min (NATIVE_FRAME_SAMPLES - self.nativeRemainder) (x :: xs).length := by
        rw [List.length_cons]
        omega
      have hbelow : min (NATIVE_FRAME_SAMPLES - self.nativeRemainder) (x :: xs).length ≤
          NATIVE_FRAME_SAMPLES - self.nativeRemainder := Nat.min_le_left _ _
      generalize min (NATIVE_FRAME_SAMPLES - self.nativeRemainder) (x :: xs).length = count at *
      have hrest : ((x :: xs).drop count).length ≤ fuel := by
        rw [List.length_drop]
        omega
      simp only
      rcases path.convertSpan self.audio ((x :: xs).take count) with ⟨e | -, audio⟩
      · exact framed_error _ packets hremainder
      · simp only
        by_cases hend : self.nativeRemainder + count = NATIVE_FRAME_SAMPLES
        · rw [if_pos hend]
          rcases path.takePadded audio with ⟨e | samples, audio⟩
          · exact framed_error _ packets (by decide)
          · have hframed := ih { self with audio, nativeRemainder := 0 } ((x :: xs).drop count)
              (packets ++ [⟨ReceivePublisher.frame self.mode
                metadata.qualification.receiverKeyed samples, metadata.qualification,
                metadata.controllerCtcss, self.statuses⟩]) hrest (Nat.zero_lt_of_lt hremainder)
            rw [List.length_drop, List.length_append, List.length_singleton] at hframed
            exact hframed.boundary hcount hend
        · rw [if_neg hend]
          have hframed := ih { self with audio, nativeRemainder := self.nativeRemainder + count }
            ((x :: xs).drop count) packets hrest (by simp only; omega)
          rw [List.length_drop] at hframed
          exact hframed.below_boundary hcount

/-- A call that is rejected changes nothing. -/
theorem publish_rejected {path : AudioPath F A} {self : ReceivePublisher A} {native : List F}
    {metadata : ReceiveMetadata} (h : ReceivePublisher.accepts native = false) :
    self.publish path native metadata = (.error .invalidNativeFrame, self, []) := by
  rw [ReceivePublisher.publish, h]
  rfl

theorem framed_publish (path : AudioPath F A) {self : ReceivePublisher A} {native : List F}
    (metadata : ReceiveMetadata) (hremainder : self.nativeRemainder < NATIVE_FRAME_SAMPLES)
    (h : ReceivePublisher.accepts native = true) :
    Framed self native.length 0 (self.publish path native metadata) := by
  rw [ReceivePublisher.publish, h]
  have hframed := framed_publishLoop path metadata native.length
    { self with statuses := metadata.events.foldl .push self.statuses } native [] le_rfl hremainder
  exact ⟨hframed.mode, hframed.below, hframed.atMost, hframed.exact⟩

/-- A span is at most one frame long. -/
theorem length_of_accepts {native : List F} (h : ReceivePublisher.accepts native = true) :
    native.length ≤ NATIVE_FRAME_SAMPLES := by
  simp only [ReceivePublisher.accepts, Bool.not_eq_true', Bool.or_eq_false_iff,
    decide_eq_false_iff_not, Nat.not_lt] at h
  exact h.2

/-! ## The advanced interface -/

/-- The packets and the assembler have the native samples of a run, cut at the boundaries. -/
structure Cut (f32ToS16 : F → Int) (native : List F)
    (publisher : ReceivePublisher (ReceiveAudio C F)) (packets : List ReceivePacket) : Prop where
  mode : publisher.mode = .advanced
  egress : publisher.audio.egress = .advanced
  assembler : publisher.audio.assembler.mode = .advanced
  length : packets.length * NATIVE_FRAME_SAMPLES + publisher.nativeRemainder = native.length
  rest : publisher.audio.assembler.samples =
    (native.map f32ToS16).drop (packets.length * NATIVE_FRAME_SAMPLES)
  frames : ∀ i packet, packets[i]? = some packet → packet.frame = ReceivePublisher.frame .advanced
    packet.qualification.receiverKeyed
    (((native.map f32ToS16).drop (i * NATIVE_FRAME_SAMPLES)).take NATIVE_FRAME_SAMPLES)

variable {port : AppRptConverter C F} {f32ToS16 : F → Int}

/-- The assembler is filled as far as the boundary counter says. -/
theorem Cut.fill {native : List F} {publisher : ReceivePublisher (ReceiveAudio C F)}
    {packets : List ReceivePacket} (h : Cut f32ToS16 native publisher packets) :
    publisher.audio.assembler.samples.length = publisher.nativeRemainder := by
  have hlength := h.length
  rw [h.rest, List.length_drop, List.length_map]
  omega

/-- A span up to the boundary is appended whole. -/
theorem convertSpan_advanced {audio : ReceiveAudio C F} {input : List F}
    (hegress : audio.egress = .advanced)
    (hroom : audio.assembler.samples.length + input.length ≤ NATIVE_FRAME_SAMPLES) :
    ∃ audio', ReceiveAudio.convertSpan port f32ToS16 audio input = (.ok (), audio') ∧
      audio'.egress = .advanced ∧ audio'.assembler.mode = audio.assembler.mode ∧
      audio'.assembler.samples = audio.assembler.samples ++ input.map f32ToS16 := by
  have hcapacity : audio.assembler.samples.length + (input.map f32ToS16).length ≤
      ASSEMBLY_CAPACITY := by
    rw [List.length_map]
    exact hroom.trans (by decide)
  rw [ReceiveAudio.convertSpan, hegress]
  simp only [ReceiveAudio.append, FrameAssembler.append, dif_pos hcapacity]
  exact ⟨_, rfl, hegress, rfl, rfl⟩

/-- A full assembler is emptied into a frame without padding. -/
theorem FrameAssembler.takePadded_full {self : FrameAssembler}
    (hfull : self.samples.length = self.mode.frameSamples) :
    self.takePadded self.mode.frameSamples =
      some (self.samples, ⟨self.mode, [], Nat.zero_le _⟩) := by
  have hall := List.take_of_length_le hfull.le
  have hnone := List.drop_of_length_le hfull.le
  rw [takePadded, if_neg (not_not.mpr rfl)]
  simp only [hfull, Nat.min_self, Nat.sub_self, List.replicate_zero, List.append_nil, hall, hnone]

theorem takePadded_advanced {audio : ReceiveAudio C F} (hmode : audio.assembler.mode = .advanced)
    (hfull : audio.assembler.samples.length = NATIVE_FRAME_SAMPLES) :
    ∃ audio', ReceiveAudio.takePadded .advanced audio = (.ok audio.assembler.samples, audio') ∧
      audio'.egress = audio.egress ∧ audio'.assembler.mode = .advanced ∧
      audio'.assembler.samples = [] := by
  have hfull' : audio.assembler.samples.length = audio.assembler.mode.frameSamples := by
    rw [hfull, hmode]
    rfl
  have htake := FrameAssembler.takePadded_full hfull'
  rw [hmode] at htake
  rw [ReceiveAudio.takePadded, htake]
  exact ⟨_, rfl, rfl, rfl, rfl⟩

/-- A round below the boundary. -/
theorem Cut.keep {native chunk : List F} {publisher : ReceivePublisher (ReceiveAudio C F)}
    {packets : List ReceivePacket} {audio : ReceiveAudio C F}
    (h : Cut f32ToS16 native publisher packets) (hegress : audio.egress = .advanced)
    (hmode : audio.assembler.mode = .advanced)
    (hsamples : audio.assembler.samples =
      publisher.audio.assembler.samples ++ chunk.map f32ToS16) :
    Cut f32ToS16 (native ++ chunk)
      { publisher with audio, nativeRemainder := publisher.nativeRemainder + chunk.length }
      packets where
  mode := h.mode
  egress := hegress
  assembler := hmode
  length := by
    rw [List.length_append, ← h.length]
    simp only
    omega
  rest := by
    have hlength := h.length
    have hle : packets.length * NATIVE_FRAME_SAMPLES ≤ (native.map f32ToS16).length := by
      rw [List.length_map]
      omega
    rw [List.map_append, List.drop_append_of_le_length hle, ← h.rest]
    exact hsamples
  frames := by
    intro i packet hi
    have hlength := h.length
    obtain ⟨hlt, -⟩ := List.getElem?_eq_some_iff.mp hi
    have hend : (i + 1) * NATIVE_FRAME_SAMPLES ≤ packets.length * NATIVE_FRAME_SAMPLES :=
      Nat.mul_le_mul_right _ hlt
    rw [Nat.succ_mul] at hend
    rw [h.frames i packet hi, List.map_append, List.drop_append_of_le_length (by simp; omega),
      List.take_append_of_le_length (by simp; omega)]

/-- The frame of a round that reaches the boundary. -/
theorem Cut.boundary {native : List F} {publisher : ReceivePublisher (ReceiveAudio C F)}
    {packets : List ReceivePacket} {packet : ReceivePacket} {audio : ReceiveAudio C F}
    (h : Cut f32ToS16 native publisher packets) (hegress : audio.egress = .advanced)
    (hmode : audio.assembler.mode = .advanced) (hsamples : audio.assembler.samples = [])
    (hend : publisher.nativeRemainder = NATIVE_FRAME_SAMPLES)
    (hframe : packet.frame = ReceivePublisher.frame .advanced packet.qualification.receiverKeyed
      publisher.audio.assembler.samples) :
    Cut f32ToS16 native { publisher with audio, nativeRemainder := 0 } (packets ++ [packet]) where
  mode := h.mode
  egress := hegress
  assembler := hmode
  length := by
    rw [← h.length, hend, List.length_append, List.length_singleton, Nat.succ_mul]
    exact Nat.add_zero _
  rest := by
    have hlength := h.length
    rw [List.drop_of_length_le]
    · exact hsamples
    · rw [List.length_append, List.length_singleton, Nat.succ_mul, List.length_map]
      omega
  frames := by
    intro i p hi
    rcases Nat.lt_or_ge i packets.length with hlt | hge
    · rw [List.getElem?_append_left hlt] at hi
      exact h.frames i p hi
    · rw [List.getElem?_append_right hge] at hi
      obtain ⟨hi0, rfl⟩ := List.getElem?_eq_some_iff.mp hi
      obtain rfl : i = packets.length := by
        have : i - packets.length < 1 := hi0
        omega
      have hfull := h.fill.trans hend
      simp only [Nat.sub_self, List.getElem_singleton]
      rw [hframe, ← h.rest, List.take_of_length_le hfull.le]

/-- The loop of `publish` never fails, and cuts at the boundaries. -/
theorem Cut.publishLoop (metadata : ReceiveMetadata) (fuel : Nat)
    (earlier packets : List ReceivePacket) (done samples : List F)
    (self : ReceivePublisher (ReceiveAudio C F)) (hfuel : samples.length ≤ fuel)
    (hremainder : self.nativeRemainder < NATIVE_FRAME_SAMPLES)
    (h : Cut f32ToS16 done self (earlier ++ packets)) :
    let after := self.publishLoop (ReceiveAudio.path port f32ToS16 .advanced) metadata fuel samples
      packets
    after.1 = .ok () ∧ Cut f32ToS16 (done ++ samples) after.2.1 (earlier ++ after.2.2) := by
  induction fuel generalizing self samples packets done with
  | zero =>
    obtain rfl := List.length_eq_zero_iff.mp (Nat.le_zero.mp hfuel)
    rw [List.append_nil]
    exact ⟨rfl, h⟩
  | succ fuel ih =>
    rw [ReceivePublisher.publishLoop]
    cases samples with
    | nil =>
      rw [List.append_nil]
      exact ⟨rfl, h⟩
    | cons x xs =>
      rw [List.isEmpty_cons, if_neg Bool.false_ne_true]
      have hprogress : 0 < min (NATIVE_FRAME_SAMPLES - self.nativeRemainder) (x :: xs).length := by
        rw [List.length_cons]
        omega
      have hbelow : min (NATIVE_FRAME_SAMPLES - self.nativeRemainder) (x :: xs).length ≤
          NATIVE_FRAME_SAMPLES - self.nativeRemainder := Nat.min_le_left _ _
      have hchunk : ((x :: xs).take
          (min (NATIVE_FRAME_SAMPLES - self.nativeRemainder) (x :: xs).length)).length =
          min (NATIVE_FRAME_SAMPLES - self.nativeRemainder) (x :: xs).length := by
        rw [List.length_take, Nat.min_eq_left (Nat.min_le_right _ _)]
      generalize min (NATIVE_FRAME_SAMPLES - self.nativeRemainder) (x :: xs).length = count at *
      have hrest : ((x :: xs).drop count).length ≤ fuel := by
        rw [List.length_drop]
        omega
      have hsplit : done ++ (x :: xs) = done ++ (x :: xs).take count ++ (x :: xs).drop count := by
        rw [List.append_assoc, List.take_append_drop]
      have hfill := h.fill
      obtain ⟨audio, hconvert, hegress, hmode, hsamples⟩ := @convertSpan_advanced C F port f32ToS16
        self.audio ((x :: xs).take count) h.egress (by omega)
      have hkeep := h.keep hegress (hmode.trans h.assembler) hsamples
      rw [hchunk] at hkeep
      simp only [ReceiveAudio.path, hconvert, hsplit]
      by_cases hend : self.nativeRemainder + count = NATIVE_FRAME_SAMPLES
      · obtain ⟨audio', htake, hegress', hmode', hsamples'⟩ :=
          takePadded_advanced (hmode.trans h.assembler) (hkeep.fill.trans hend)
        rw [if_pos hend, htake]
        refine ih _ _ _ _ hrest (Nat.zero_lt_of_lt hremainder) ?_
        rw [← List.append_assoc]
        exact hkeep.boundary (hegress'.trans hegress) hmode' hsamples' hend (by rw [h.mode])
      · rw [if_neg hend]
        exact ih _ _ _ _ hrest (by simp only; omega) hkeep

theorem Cut.publish {earlier : List ReceivePacket} {done samples : List F}
    {self : ReceivePublisher (ReceiveAudio C F)} (h : Cut f32ToS16 done self earlier)
    (port : AppRptConverter C F) (metadata : ReceiveMetadata) (hremainder : self.nativeRemainder < NATIVE_FRAME_SAMPLES)
    (haccepts : ReceivePublisher.accepts samples = true) :
    let after := self.publish (ReceiveAudio.path port f32ToS16 .advanced) samples metadata
    after.1 = .ok () ∧ Cut f32ToS16 (done ++ samples) after.2.1 (earlier ++ after.2.2) := by
  rw [ReceivePublisher.publish, haccepts]
  have hcut : Cut f32ToS16 done
      { self with statuses := metadata.events.foldl .push self.statuses } (earlier ++ []) := by
    rw [List.append_nil]
    exact ⟨h.mode, h.egress, h.assembler, h.length, h.rest, h.frames⟩
  exact Cut.publishLoop metadata samples.length earlier [] done samples _ le_rfl hremainder hcut

/-! ## Runs -/

namespace ReceiveFraming

/-- What holds of the publisher and of its history between the calls. -/
structure Good (f32ToS16 : F → Int) (s : ReceiveFraming C F) : Prop where
  below : s.publisher.nativeRemainder < NATIVE_FRAME_SAMPLES
  once : s.mostAtOnce ≤ 1
  counted : s.failed = false →
    s.publisher.nativeRemainder = s.native.length % NATIVE_FRAME_SAMPLES ∧
      s.packets.length = s.native.length / NATIVE_FRAME_SAMPLES
  advanced : s.publisher.mode = .advanced →
    s.failed = false ∧ Cut f32ToS16 s.native s.publisher s.packets

theorem good_prepare (mode : AsteriskPcmMode) (egress : ReceiveEgress C)
    (converted : Converted F) (h : mode = .advanced → egress = .advanced) :
    (prepare mode egress converted).Good f32ToS16 := by
  have hpos : 0 < NATIVE_FRAME_SAMPLES := by decide
  have hcounted : 0 = 0 % NATIVE_FRAME_SAMPLES ∧ 0 = 0 / NATIVE_FRAME_SAMPLES := by decide
  have hnone : 0 * NATIVE_FRAME_SAMPLES + 0 = 0 := by rw [Nat.zero_mul]
  exact ⟨hpos, Nat.zero_le 1, fun _ => hcounted,
    fun hmode => ⟨rfl, hmode, h hmode, hmode, hnone, List.drop_nil.symm, nofun⟩⟩

/-- A call that is rejected leaves everything as it was. -/
theorem publish_of_rejected (s : ReceiveFraming C F) {samples : List F}
    (metadata : ReceiveMetadata) (h : ReceivePublisher.accepts samples = false) :
    s.publish port f32ToS16 samples metadata = s := by
  simp only [publish, publish_rejected h, h, Bool.false_eq_true, if_false, List.append_nil,
    Bool.false_and, Bool.or_false, List.length_nil, Nat.max_zero]

theorem publish_of_accepts (s : ReceiveFraming C F) {samples : List F} (metadata : ReceiveMetadata)
    (h : ReceivePublisher.accepts samples = true) :
    let after := s.publisher.publish (ReceiveAudio.path port f32ToS16 s.publisher.mode) samples
      metadata
    s.publish port f32ToS16 samples metadata = {
      publisher := after.2.1
      native := s.native ++ samples
      packets := s.packets ++ after.2.2
      mostAtOnce := max s.mostAtOnce after.2.2.length
      failed := s.failed || !after.1.isOk } := by
  simp only [publish, h, if_true, Bool.true_and]

theorem Good.publish {s : ReceiveFraming C F} (h : s.Good f32ToS16) (samples : List F)
    (metadata : ReceiveMetadata) : (s.publish port f32ToS16 samples metadata).Good f32ToS16 := by
  cases haccepts : ReceivePublisher.accepts samples with
  | false => rwa [publish_of_rejected s metadata haccepts]
  | true =>
    have hframed := framed_publish (ReceiveAudio.path port f32ToS16 s.publisher.mode) metadata
      h.below haccepts
    have hspan := length_of_accepts haccepts
    have hcut (hmode : s.publisher.mode = .advanced) :=
      (h.advanced hmode).2.publish port metadata h.below haccepts
    rw [publish_of_accepts s metadata haccepts]
    refine ⟨hframed.below, ?_, fun hfailed => ?_, fun hmode => ?_⟩
    · have hone : (s.publisher.nativeRemainder + samples.length) / NATIVE_FRAME_SAMPLES ≤ 1 := by
        refine Nat.le_of_lt_succ (Nat.div_lt_of_lt_mul ?_)
        have := h.below
        omega
      exact max_le h.once (hframed.atMost.trans ((Nat.zero_add _).trans_le hone))
    · obtain ⟨hbefore, hok⟩ := Bool.or_eq_false_iff.mp hfailed
      obtain ⟨hremainder, hlength⟩ := hframed.exact (by simpa using hok)
      obtain ⟨hremainder₀, hlength₀⟩ := h.counted hbefore
      have hdiv := Nat.div_add_mod s.native.length NATIVE_FRAME_SAMPLES
      have hsum : (s.native ++ samples).length =
          s.publisher.nativeRemainder + samples.length +
            NATIVE_FRAME_SAMPLES * (s.native.length / NATIVE_FRAME_SAMPLES) := by
        rw [List.length_append, hremainder₀]
        omega
      refine ⟨?_, ?_⟩
      · rw [hsum, Nat.add_mul_mod_self_left]
        exact hremainder
      · rw [hsum, Nat.add_mul_div_left _ _ (by decide), List.length_append, hlength, hlength₀]
        omega
    · have hmode' : s.publisher.mode = .advanced := hframed.mode.symm.trans hmode
      obtain ⟨hok, hnext⟩ := hcut hmode'
      rw [hmode']
      exact ⟨by rw [(h.advanced hmode').1, hok]; rfl, hnext⟩

/-- Every call keeps the invariant. -/
theorem good_inductive : (receiveFraming port f32ToS16).Inductive (fun _ _ => True)
    (Good (C := C) f32ToS16) where
  init := by
    rintro _ ⟨converted, ⟨converter, rfl⟩ | rfl⟩
    · exact good_prepare _ _ converted nofun
    · exact good_prepare _ _ converted fun _ => rfl
  step := by
    intro s call s' h _ hstep
    obtain rfl := Option.some.inj hstep
    exact h.publish call.1 call.2

end ReceiveFraming

/-! ## The contract -/

/-- What holds of the publisher in every state of a run. -/
structure FramingContract (f32ToS16 : F → Int) (s : ReceiveFraming C F) : Prop where
  /-- No call completes two frames. -/
  once : s.mostAtOnce ≤ 1
  /-- Without an error the frames are those whose end was reached. -/
  counted : s.failed = false → s.packets.length = s.native.length / NATIVE_FRAME_SAMPLES
  /-- No call of the advanced interface fails: the assembler does not overflow. -/
  total : s.publisher.mode = .advanced → s.failed = false
  fill : s.publisher.mode = .advanced →
    s.publisher.audio.assembler.samples.length = s.publisher.nativeRemainder ∧
      s.publisher.nativeRemainder < NATIVE_FRAME_SAMPLES
  /-- The frames and the assembler have the native samples in order, each once. -/
  inOrder : s.publisher.mode = .advanced → Cut f32ToS16 s.native s.publisher s.packets

/-- The publisher frames what it is given, with every converter, and `convert_span` terminates. -/
theorem framing_contract (port : AppRptConverter C F) (f32ToS16 : F → Int) :
    (∀ s, (receiveFraming port f32ToS16).Reach s → FramingContract f32ToS16 s) ∧
      ∀ (audio : ReceiveAudio C F) (input : List F) (converter : C) (fuel : Nat),
        audio.egress = .appRpt converter → audio.roundsLeft input ≤ fuel →
          ReceiveAudio.convertLoop port f32ToS16 fuel audio converter input =
            some (ReceiveAudio.convertSpan port f32ToS16 audio input) := by
  constructor
  · intro s hs
    have hgood : s.Good f32ToS16 := ReceiveFraming.good_inductive.reach hs
    exact ⟨hgood.once, fun hok => (hgood.counted hok).2, fun hmode => (hgood.advanced hmode).1,
      fun hmode => ⟨(hgood.advanced hmode).2.fill, hgood.below⟩,
      fun hmode => (hgood.advanced hmode).2⟩
  · intro audio input converter fuel hegress hfuel
    obtain ⟨more, rfl⟩ := Nat.exists_eq_add_of_le hfuel
    refine ReceiveAudio.convertLoop_more ?_ more
    simp only [ReceiveAudio.convertSpan]
    split
    next hadvanced => cases hegress.symm.trans hadvanced
    next converter' happ =>
      obtain rfl := ReceiveEgress.appRpt.inj (hegress.symm.trans happ)
      rw [Option.some_get]

/-- A call of the advanced interface goes on with the run. -/
theorem ReceiveFraming.exists_publish {port : AppRptConverter C F} {s : ReceiveFraming C F}
    (h : (receiveFraming port f32ToS16).Reach s) (hmode : s.publisher.mode = .advanced)
    {samples : List F} (haccepts : ReceivePublisher.accepts samples = true)
    (metadata : ReceiveMetadata) :
    ∃ s', (receiveFraming port f32ToS16).Reach s' ∧ s'.publisher.mode = .advanced ∧
      s'.native = s.native ++ samples := by
  have hgood : s.Good f32ToS16 := ReceiveFraming.good_inductive.reach h
  have hframed := framed_publish (ReceiveAudio.path port f32ToS16 s.publisher.mode) metadata
    hgood.below haccepts
  have hpublish : s.publish port f32ToS16 samples metadata = _ :=
    ReceiveFraming.publish_of_accepts s metadata haccepts
  refine ⟨_, System.Reach.next (a := (samples, metadata)) h rfl, ?_, ?_⟩
  · rw [hpublish]
    exact hframed.mode.trans hmode
  · rw [hpublish]

/-- A converter that reports output and never takes input. -/
def greedy : AppRptConverter Unit Int := ⟨fun c _ converted => (.ok ⟨0, 960⟩, c, converted)⟩

/-- Three spans of the advanced interface, where the second and the third one complete a frame in
their middle, and a span that overflows the assembler. -/
theorem framing_contract_greedy :
    (∃ s, FramingContract (C := Unit) (id : Int → Int) s ∧ s.native.length = 2000 ∧
      s.packets.length = 2 ∧ s.publisher.nativeRemainder = 80) ∧
      ReceiveAudio.convertLoop greedy id 2000
        ⟨.appRpt (), .new .appRpt, .replicate NATIVE_FRAME_SAMPLES 0⟩ () [5] =
      some (ReceiveAudio.convertSpan greedy id
        ⟨.appRpt (), .new .appRpt, .replicate NATIVE_FRAME_SAMPLES 0⟩ [5]) := by
  have hcontract := framing_contract greedy id
  refine ⟨?_, hcontract.2 _ _ _ _ rfl (by decide)⟩
  have haccepts : ∀ (count : Nat) (sample : Int), 0 < count ∧ count ≤ NATIVE_FRAME_SAMPLES →
      ReceivePublisher.accepts (List.replicate count sample) = true := by
    intro count sample hcount
    rw [ReceivePublisher.accepts, List.isEmpty_replicate, List.length_replicate]
    simpa [Nat.pos_iff_ne_zero] using hcount
  have h₀ : (receiveFraming greedy id).Reach (.prepare .advanced .advanced (.replicate _ 0)) :=
    ⟨_, [], ⟨_, .inr rfl⟩, rfl⟩
  obtain ⟨s₁, h₁, hmode₁, hnative₁⟩ := ReceiveFraming.exists_publish h₀ rfl
    (haccepts 700 5 (by decide)) ⟨.default, none, none, none⟩
  obtain ⟨s₂, h₂, hmode₂, hnative₂⟩ := ReceiveFraming.exists_publish h₁ hmode₁
    (haccepts 700 6 (by decide)) ⟨.default, none, none, none⟩
  obtain ⟨s₃, h₃, hmode₃, hnative₃⟩ := ReceiveFraming.exists_publish h₂ hmode₂
    (haccepts 600 7 (by decide)) ⟨.default, none, none, none⟩
  have hframing := hcontract.1 s₃ h₃
  have hlength : s₃.native.length = 2000 := by
    simp only [hnative₃, hnative₂, hnative₁, List.length_append, List.length_replicate]
    rfl
  have hpackets := hframing.counted (hframing.total hmode₃)
  have hcut := (hframing.inOrder hmode₃).length
  rw [hlength] at hpackets hcut
  rw [hpackets] at hcut
  exact ⟨s₃, hframing, hlength, hpackets, Nat.add_left_cancel (hcut.trans rfl)⟩

end Asl3
end UsbRadioPlus
