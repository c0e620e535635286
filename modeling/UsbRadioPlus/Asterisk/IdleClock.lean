import UsbRadioPlus.Rust.Checked
import UsbRadioPlus.Rust.Word
import UsbRadioPlus.Sys.Divider
import UsbRadioPlus.Sys.Run

/-!
# The clock of an idle link (`rust/asterisk/src/host/link.rs`)

While a link is idle, a timer of `hz` ticks a second gives silence to its graph: of every tick the samples
that `rate` leaves for it, less the `credit` of the frames that came anyway. The silence is written to a
scratch frame of `MAXIMUM_LINK_FRAME_COUNT` samples.

`ClockRun` counts what a run of calls returns, consumes and gives. `clockContract_of_reach`: no tick
fails or leaves the scratch frame, and in the long run no sample is lost.
-/

namespace UsbRadioPlus
namespace Asterisk

open Sys Rust

/-- The values of a `u32`. -/
def DWORD : Nat := 2 ^ 32

/-- `MAXIMUM_LINK_FRAME_COUNT` -/
def MAXIMUM_LINK_FRAME_COUNT : Nat := 960

/-- The clock of a link without packets. -/
structure IdleClock where
  rate : Nat
  hz : Nat
  remainder : Nat
  credit : Nat
  deriving DecidableEq, Repr

namespace IdleClock

/-- `new`: the ticks come often enough for the longest frame. -/
def new (rate : Nat) : IdleClock where
  rate
  hz := max ((rate + (MAXIMUM_LINK_FRAME_COUNT - 1)) / MAXIMUM_LINK_FRAME_COUNT) 50
  remainder := 0
  credit := 0

/-- `credit` -/
def addCredit (self : IdleClock) (rate count : Nat) : IdleClock :=
  if rate = self.rate ∧ count ≤ MAXIMUM_LINK_FRAME_COUNT then
    { self with credit := min (min (self.credit + count) (DWORD - 1)) MAXIMUM_LINK_FRAME_COUNT }
  else self

/-- The count of a tick and the clock behind it; `none` where an operation overflows or divides by zero. -/
def tick (self : IdleClock) : Option (Nat × IdleClock) := do
  let remainder ← checkedAdd WORD self.remainder self.rate
  let count := (← checkedDiv remainder self.hz) % DWORD
  let remainder ← checkedRem remainder self.hz
  let covered := min self.credit count
  let credit ← checkedSub self.credit covered
  let returned ← checkedSub count covered
  pure (returned, { self with remainder, credit })

end IdleClock

/-! ## Runs -/

/-- A clock with the counts of its ticks, newest first, the credit that they consumed and the credit that
it was given and did not refuse. -/
structure ClockRun where
  clock : IdleClock
  returned : List Nat
  consumed : Nat
  given : Nat
  deriving DecidableEq, Repr

/-- The calls of the clock. -/
inductive ClockCall where
  | credit (rate count : Nat)
  | tick
  deriving DecidableEq, Repr

namespace ClockRun

/-- The clock in front of its first call. -/
def start (rate : Nat) : ClockRun := ⟨.new rate, [], 0, 0⟩

/-- A tick that fails ends the run. -/
def step (s : ClockRun) : ClockCall → Option ClockRun
  | .credit rate count =>
    some { s with
      clock := s.clock.addCredit rate count
      given := s.given + if rate = s.clock.rate ∧ count ≤ MAXIMUM_LINK_FRAME_COUNT then count else 0 }
  | .tick => s.clock.tick.map fun (count, clock) =>
    { s with
      clock
      returned := count :: s.returned
      consumed := s.consumed + (s.clock.credit - clock.credit) }

/-- All sequences of calls at a rate. -/
def system (rate : Nat) : System ClockRun ClockCall := ⟨fun s => s = start rate, step⟩

end ClockRun

/-! ## The contract -/

/-- What holds of a clock behind any calls. -/
structure ClockContract (rate : Nat) (s : ClockRun) : Prop where
  /-- The next tick does not fail. -/
  ticks : (s.step .tick).isSome
  atMost : ∀ count ∈ s.returned, count ≤ MAXIMUM_LINK_FRAME_COUNT
  /-- Every sample of the rate is returned or was there already. -/
  exact : s.returned.sum + s.consumed = s.returned.length * rate / (IdleClock.new rate).hz
  covered : s.consumed ≤ s.given
  credit : s.clock.credit ≤ MAXIMUM_LINK_FRAME_COUNT
  remainder : s.clock.remainder < s.clock.hz

/-- What every call keeps. -/
structure ClockInv (rate : Nat) (s : ClockRun) : Prop where
  rate_eq : s.clock.rate = rate
  hz_eq : s.clock.hz = (IdleClock.new rate).hz
  divided : Divided rate s.clock.hz s.returned.length (s.returned.sum + s.consumed) s.clock.remainder
  atMost : ∀ count ∈ s.returned, count ≤ MAXIMUM_LINK_FRAME_COUNT
  /-- The credit that is left was given and is not consumed. -/
  covered : s.consumed + s.clock.credit ≤ s.given
  credit : s.clock.credit ≤ MAXIMUM_LINK_FRAME_COUNT

variable {rate : Nat}

theorem rate_le_hz (rate : Nat) : rate ≤ MAXIMUM_LINK_FRAME_COUNT * (IdleClock.new rate).hz := by
  simp only [IdleClock.new, MAXIMUM_LINK_FRAME_COUNT]
  omega

theorem hz_pos (rate : Nat) : 0 < (IdleClock.new rate).hz := by
  simp only [IdleClock.new]
  omega

theorem hz_le (h : rate < DWORD) : (IdleClock.new rate).hz ≤ DWORD := by
  simp only [IdleClock.new, MAXIMUM_LINK_FRAME_COUNT, DWORD] at *
  omega

/-- What a tick gives: no operation of it overflows. -/
theorem IdleClock.tick_eq {clock : IdleClock} (hrate : clock.rate < DWORD) (hhz : clock.hz ≤ DWORD)
    (hbelow : clock.remainder < clock.hz)
    (hcap : clock.rate ≤ MAXIMUM_LINK_FRAME_COUNT * clock.hz) :
    clock.tick = some ((clock.remainder + clock.rate) / clock.hz -
        min clock.credit ((clock.remainder + clock.rate) / clock.hz),
      { clock with
        remainder := (clock.remainder + clock.rate) % clock.hz
        credit := clock.credit - min clock.credit ((clock.remainder + clock.rate) / clock.hz) }) := by
  have hpos : 0 < clock.hz := Nat.zero_lt_of_lt hbelow
  have hsum : clock.remainder + clock.rate < WORD := by
    simp only [DWORD, WORD] at *
    omega
  have hcount : (clock.remainder + clock.rate) / clock.hz % DWORD =
      (clock.remainder + clock.rate) / clock.hz :=
    Nat.mod_eq_of_lt ((Divided.count_le hbelow hcap).trans_lt (by decide))
  simp only [IdleClock.tick, checkedAdd_of_lt hsum, checkedDiv_of_pos hpos, checkedRem_of_pos hpos,
    hcount, checkedSub_of_le (Nat.min_le_left _ _), checkedSub_of_le (Nat.min_le_right _ _),
    Option.bind_eq_bind, Option.bind_some, Option.pure_def]

theorem ClockInv.tick_eq {s : ClockRun} (h : ClockInv rate s) (hrate : rate < DWORD) :
    s.clock.tick = some ((s.clock.remainder + rate) / s.clock.hz -
        min s.clock.credit ((s.clock.remainder + rate) / s.clock.hz),
      { s.clock with
        remainder := (s.clock.remainder + rate) % s.clock.hz
        credit := s.clock.credit - min s.clock.credit ((s.clock.remainder + rate) / s.clock.hz) }) := by
  have htick := @IdleClock.tick_eq s.clock (h.rate_eq ▸ hrate) (h.hz_eq ▸ hz_le hrate)
    h.divided.below (h.rate_eq ▸ h.hz_eq ▸ rate_le_hz rate)
  simp only [h.rate_eq] at htick
  simp only [htick, h.rate_eq]

theorem ClockInv.addCredit {s : ClockRun} (h : ClockInv rate s) (from_ count : Nat) :
    ClockInv rate { s with
      clock := s.clock.addCredit from_ count
      given := s.given + if from_ = s.clock.rate ∧ count ≤ MAXIMUM_LINK_FRAME_COUNT then count else 0 } := by
  unfold IdleClock.addCredit
  split
  · have hcovered := h.covered
    refine ⟨h.rate_eq, h.hz_eq, h.divided, h.atMost, ?_, Nat.min_le_right _ _⟩
    simp only
    omega
  · exact ⟨h.rate_eq, h.hz_eq, h.divided, h.atMost, h.covered, h.credit⟩

theorem ClockInv.tick {s s' : ClockRun} (h : ClockInv rate s) (hrate : rate < DWORD)
    (hstep : s.step .tick = some s') : ClockInv rate s' := by
  rw [ClockRun.step, h.tick_eq hrate, Option.map_some] at hstep
  obtain rfl := Option.some.inj hstep
  have hcount : (s.clock.remainder + rate) / s.clock.hz ≤ MAXIMUM_LINK_FRAME_COUNT :=
    Divided.count_le h.divided.below (h.hz_eq ▸ rate_le_hz rate)
  have hcovered := h.covered
  have hcredit := h.credit
  have hnext := h.divided.tick
  generalize (s.clock.remainder + rate) / s.clock.hz = count at *
  -- what the tick counts is returned or consumed
  have htotal : s.returned.sum + s.consumed + count =
      ((count - min s.clock.credit count) :: s.returned).sum +
        (s.consumed + (s.clock.credit - (s.clock.credit - min s.clock.credit count))) := by
    rw [List.sum_cons]
    omega
  refine ⟨h.rate_eq, h.hz_eq, htotal ▸ hnext, ?_, ?_, ?_⟩
  · rintro returned (- | ⟨-, hmem⟩)
    · omega
    · exact h.atMost returned hmem
  · simp only
    omega
  · simp only
    omega

theorem inductive_clock (hrate : rate < DWORD) :
    (ClockRun.system rate).Inductive (fun _ _ => True) (ClockInv rate) := by
  constructor
  · rintro s rfl
    exact ⟨rfl, rfl, .start (hz_pos rate), fun _ h => (nomatch h), Nat.le_refl 0, Nat.zero_le _⟩
  · intro s call s' hs _ hstep
    cases call with
    | credit from_ count =>
      obtain rfl := Option.some.inj hstep
      exact hs.addCredit from_ count
    | tick => exact hs.tick hrate hstep

/-- The clock of every rate, behind every sequence of calls. -/
theorem clockContract_of_reach {rate : Nat} (hrate : rate < DWORD) {s : ClockRun}
    (h : (ClockRun.system rate).Reach s) : ClockContract rate s := by
  have hinv := (inductive_clock hrate).reach h
  have hcovered := hinv.covered
  refine ⟨?_, hinv.atMost, ?_, by omega, hinv.credit, hinv.divided.below⟩
  · rw [ClockRun.step, hinv.tick_eq hrate]
    rfl
  · rw [hinv.divided.total_eq, hinv.hz_eq]

/-- 44100 samples a second in 50 ticks, with one frame that came anyway. -/
theorem clockContract_reached : ∃ s, (ClockRun.system 44100).Reach s ∧
    s.returned = [882, 0] ∧ s.consumed = 882 ∧ ClockContract 44100 s := by
  have hrun : (ClockRun.system 44100).run (.start 44100) [.credit 44100 882, .tick, .tick] =
      some ⟨⟨44100, 50, 0, 0⟩, [882, 0], 882, 882⟩ := by decide
  have hreach : (ClockRun.system 44100).Reach ⟨⟨44100, 50, 0, 0⟩, [882, 0], 882, 882⟩ :=
    ⟨_, _, rfl, hrun⟩
  exact ⟨_, hreach, rfl, rfl, clockContract_of_reach (by decide) hreach⟩

end Asterisk
end UsbRadioPlus
