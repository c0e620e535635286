import Mathlib.Logic.Function.Basic

/-!
# A one-shot result cell

Several parties may end one request. A party offers its result and claims the cell by a
compare-exchange of a flag; the first claim wins, and only the winner publishes its result, once,
into a slot of one place. A reader takes the result out of the slot.

* `Once`: an open cell holds nothing. A completed cell has exactly one result: on the way from the
  winner to the slot, in the slot, or taken.
* `Every Q`: all results of the cell, offered ones included, satisfy `Q`.
-/

namespace Sys

/-- What a party of a cell does. -/
inductive Claim (V : Type) where
  | idle
  /-- Its compare-exchange comes next. -/
  | claiming (v : V)
  /-- Its compare-exchange succeeded. -/
  | won (v : V)
  | publishing (v : V)
  deriving DecidableEq, Repr

namespace Claim

variable {V : Type}

/-- The value that a party would publish. -/
def value : Claim V → Option V
  | idle => none
  | claiming v | won v | publishing v => some v

/-- The steps of the party that are left at most. -/
def remaining : Claim V → Nat
  | idle => 0
  | claiming _ => 3
  | won _ => 2
  | publishing _ => 1

theorem remaining_le (claim : Claim V) : claim.remaining ≤ 3 := by
  cases claim <;> simp [remaining]

/-- The party owns the cell and has not published yet. -/
def inFlight : Claim V → Bool
  | won _ | publishing _ => true
  | _ => false

end Claim

/-- A cell, with the results that were taken out of it. -/
structure OneShot (P V : Type) where
  completed : Bool
  slot : Option V
  party : P → Claim V
  taken : List V

namespace OneShot

variable {P V : Type} [DecidableEq P] {c : OneShot P V} {p q : P} {v : V} {Q : V → Prop}

/-- The cell in front of any claim. -/
def fresh : OneShot P V := ⟨false, none, fun _ => .idle, []⟩

/-- A party behind one of its accesses. -/
def setParty (c : OneShot P V) (p : P) (claim : Claim V) : OneShot P V :=
  { c with party := Function.update c.party p claim }

/-- The party is about to claim the cell for its result. -/
def offer (c : OneShot P V) (p : P) (v : V) : OneShot P V := c.setParty p (.claiming v)

/-- The next step of a party. A push into a full slot has no effect. -/
def advance (c : OneShot P V) (p : P) : OneShot P V :=
  match c.party p with
  | .idle => c
  | .claiming v =>
    if c.completed then c.setParty p .idle
    else { c.setParty p (.won v) with completed := true }
  | .won v => c.setParty p (.publishing v)
  | .publishing v => { c.setParty p .idle with slot := c.slot.or (some v) }

/-- The reader empties the slot. -/
def take (c : OneShot P V) : OneShot P V :=
  { c with slot := none, taken := c.taken ++ c.slot.toList }

/-- The published results. -/
def results (c : OneShot P V) : List V := c.taken ++ c.slot.toList

@[simp] theorem party_setParty (claim : Claim V) : (c.setParty p claim).party p = claim :=
  Function.update_self ..

@[simp] theorem party_setParty_of_ne (claim : Claim V) (h : q ≠ p) :
    (c.setParty p claim).party q = c.party q :=
  Function.update_of_ne h ..

theorem party_advance_of_ne (h : q ≠ p) : (c.advance p).party q = c.party q := by
  unfold advance
  split
  · rfl
  · split <;> exact party_setParty_of_ne _ h
  · exact party_setParty_of_ne _ h
  · exact party_setParty_of_ne _ h

theorem completed_advance (h : c.completed = true) : (c.advance p).completed = true := by
  unfold advance
  split
  · exact h
  · rw [if_pos h]
    exact h
  · exact h
  · exact h

/-- A claim that is tried ends with a completed cell, whoever wins. -/
theorem completed_advance_of_claiming (h : c.party p = .claiming v) :
    (c.advance p).completed = true := by
  unfold advance
  rw [h]
  by_cases hc : c.completed = true
  · simp [hc, setParty]
  · simp [hc]

/-- A party that steps comes nearer to its end. -/
theorem remaining_advance (h : c.party p ≠ .idle) :
    ((c.advance p).party p).remaining < (c.party p).remaining := by
  unfold advance
  cases hp : c.party p with
  | idle => exact absurd hp h
  | claiming v =>
    by_cases hc : c.completed = true
    · simp [hc, Claim.remaining]
    · simp [hc, setParty, Claim.remaining]
  | won v => simp [Claim.remaining]
  | publishing v => simp [setParty, Claim.remaining]

/-! ## Exactly one result -/

/-- The accounting of a cell. -/
structure Once (c : OneShot P V) : Prop where
  /-- An open cell holds nothing. -/
  empty : c.completed = false → c.results = [] ∧ ∀ p, (c.party p).inFlight = false
  /-- The winner is alone, and nothing is published while it is on its way. -/
  flight : ∀ p, (c.party p).inFlight = true →
    c.results = [] ∧ ∀ q, (c.party q).inFlight = true → q = p
  /-- Behind the publication there is one result. -/
  single : c.completed = true → (∀ p, (c.party p).inFlight = false) → c.results.length = 1

omit [DecidableEq P] in
theorem Once.fresh : Once (fresh : OneShot P V) :=
  ⟨fun _ => ⟨rfl, fun _ => rfl⟩, fun _ h => (by cases h), fun h => (by cases h)⟩

/-- A party that is not in flight may do anything that leaves it out of flight. -/
theorem Once.setParty (h : Once c) {claim : Claim V} (hp : (c.party p).inFlight = false)
    (hclaim : claim.inFlight = false) : Once (c.setParty p claim) := by
  have hsame : ∀ q, ((c.setParty p claim).party q).inFlight = (c.party q).inFlight := by
    intro q
    by_cases hq : q = p
    · subst hq
      rw [party_setParty, hp, hclaim]
    · rw [party_setParty_of_ne _ hq]
  refine ⟨fun hc => ⟨(h.empty hc).1, fun q => ?_⟩, fun q hq => ?_, fun hc hf => ?_⟩
  · rw [hsame]
    exact (h.empty hc).2 q
  · rw [hsame] at hq
    refine ⟨(h.flight q hq).1, fun r hr => ?_⟩
    rw [hsame] at hr
    exact (h.flight q hq).2 r hr
  · exact h.single hc fun q => (hsame q).symm.trans (hf q)

theorem Once.offer (h : Once c) (hp : c.party p = .idle) : Once (c.offer p v) :=
  h.setParty (by rw [hp]; rfl) rfl

theorem Once.advance (h : Once c) (p : P) : Once (c.advance p) := by
  unfold OneShot.advance
  split
  · exact h
  · next w hw =>
    split
    · exact h.setParty (by rw [hw]; rfl) rfl
    · next hc =>
      -- the first claim: nothing was in flight before
      obtain ⟨hres, hfl⟩ := h.empty (by simpa using hc)
      refine ⟨fun hbad => (by cases hbad), fun q hq => ⟨hres, fun r hr => ?_⟩, fun _ hf => ?_⟩
      · have honly : ∀ r, ((c.setParty p (.won w)).party r).inFlight = true → r = p := by
          intro r hr
          by_contra hrp
          rw [party_setParty_of_ne _ hrp, hfl] at hr
          cases hr
        rw [honly r hr, honly q hq]
      · have hwon := hf p
        rw [show (({ c.setParty p (.won w) with completed := true } : OneShot P V).party p) =
          .won w from party_setParty _] at hwon
        cases hwon
  · next w hw =>
    -- the winner stays the winner
    have hp : (c.party p).inFlight = true := by rw [hw]; rfl
    obtain ⟨hres, honly⟩ := h.flight p hp
    have hall : ∀ q, ((c.setParty p (.publishing w)).party q).inFlight = true → q = p := by
      intro q hq
      by_contra hqp
      rw [party_setParty_of_ne _ hqp] at hq
      exact hqp (honly q hq)
    refine ⟨fun hc => absurd ((h.empty hc).2 p) (by rw [hp]; simp), fun q hq => ⟨hres, fun r hr => ?_⟩,
      fun _ hf => ?_⟩
    · rw [hall r hr, hall q hq]
    · have hpub := hf p
      rw [party_setParty] at hpub
      cases hpub
  · next w hw =>
    have hp : (c.party p).inFlight = true := by rw [hw]; rfl
    obtain ⟨hres, honly⟩ := h.flight p hp
    have hnone : ∀ q, ((c.setParty p .idle).party q).inFlight = false := by
      intro q
      by_cases hqp : q = p
      · subst hqp
        rw [party_setParty]
        rfl
      · rw [party_setParty_of_ne _ hqp, Bool.eq_false_iff]
        exact fun hq => hqp (honly q hq)
    obtain ⟨htaken, hslot⟩ := List.append_eq_nil_iff.mp hres
    refine ⟨fun hc => absurd ((h.empty hc).2 p) (by rw [hp]; simp),
      fun q hq => absurd (hnone q) (by rw [hq]; simp), fun _ _ => ?_⟩
    have hempty : c.slot = none := by simpa using hslot
    simp [results, OneShot.setParty, htaken, hempty]

omit [DecidableEq P] in
theorem results_take : c.take.results = c.results := by simp [results, take]

omit [DecidableEq P] in
theorem Once.take (h : Once c) : Once c.take :=
  ⟨fun hc => by rw [results_take]; exact h.empty hc,
    fun p hp => by rw [results_take]; exact h.flight p hp,
    fun hc hf => by rw [results_take]; exact h.single hc hf⟩

omit [DecidableEq P] in
theorem Once.length_results (h : Once c) : c.results.length ≤ 1 := by
  by_cases hc : c.completed = true
  · by_cases hf : ∀ p, (c.party p).inFlight = false
    · exact Nat.le_of_eq (h.single hc hf)
    · obtain ⟨p, hp⟩ := not_forall.mp hf
      rw [(h.flight p (by simpa using hp)).1]
      simp
  · rw [(h.empty (by simpa using hc)).1]
    simp

/-! ## All results of a cell -/

/-- Every result of the cell satisfies `Q`: the offered, the published and the taken ones. -/
structure Every (Q : V → Prop) (c : OneShot P V) : Prop where
  offered : ∀ p v, (c.party p).value = some v → Q v
  published : ∀ v ∈ c.results, Q v

omit [DecidableEq P] in
theorem Every.imp {R : V → Prop} (h : Every Q c) (hR : ∀ v, Q v → R v) : Every R c :=
  ⟨fun p v hv => hR v (h.offered p v hv), fun v hv => hR v (h.published v hv)⟩

theorem Every.setParty (h : Every Q c) {claim : Claim V} (hclaim : ∀ v, claim.value = some v → Q v) :
    Every Q (c.setParty p claim) := by
  refine ⟨fun q w hw => ?_, h.published⟩
  by_cases hqp : q = p
  · subst hqp
    rw [party_setParty] at hw
    exact hclaim w hw
  · rw [party_setParty_of_ne _ hqp] at hw
    exact h.offered q w hw

theorem Every.offer (h : Every Q c) (hv : Q v) : Every Q (c.offer p v) :=
  h.setParty fun w hw => by obtain rfl := Option.some.inj hw; exact hv

theorem Every.advance (h : Every Q c) (p : P) : Every Q (c.advance p) := by
  have hvalue := h.offered p
  unfold OneShot.advance
  split
  · exact h
  · next w hw =>
    rw [hw] at hvalue
    split
    · exact h.setParty fun _ hv => by cases hv
    · have hwon : Every Q (c.setParty p (.won w)) := h.setParty hvalue
      exact ⟨hwon.offered, hwon.published⟩
  · next w hw =>
    rw [hw] at hvalue
    exact h.setParty hvalue
  · next w hw =>
    have hidle : Every Q (c.setParty p .idle) := h.setParty fun _ hv => (by cases hv)
    refine ⟨hidle.offered, fun v hv => ?_⟩
    rcases List.mem_append.mp hv with hv | hv
    · exact h.published v (List.mem_append_left _ hv)
    · cases hslot : c.slot with
      | none =>
        obtain rfl : v = w := by simpa [hslot] using hv
        exact hvalue v (by rw [hw]; rfl)
      | some u =>
        obtain rfl : v = u := by simpa [hslot] using hv
        exact h.published v (by simp [results, hslot])

omit [DecidableEq P] in
theorem Every.take (h : Every Q c) : Every Q c.take :=
  ⟨h.offered, by rw [results_take]; exact h.published⟩

end OneShot
end Sys
