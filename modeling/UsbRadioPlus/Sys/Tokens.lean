import Mathlib.Logic.Function.Basic
import UsbRadioPlus.Sys.Run

/-!
# Tokens that are never given twice

Owners take tokens from one counter and let them go. Zero is no token: an owner holds it when it has let
its token go, and is given it when the counter is used up. The counter only grows, so a token that an
owner does not hold is given to no one again (`Later`).
-/

namespace Sys

variable {O : Type}

/-- The token that is given next, and the counter behind it. -/
def takeToken (limit next : Nat) : Nat × Nat :=
  if next + 1 < limit then (next, next + 1) else (0, next)

/-- The token of each owner and the next one. -/
structure TokenStore (O : Type) where
  held : O → Nat
  next : Nat

/-- What happens to the tokens. -/
inductive TokenAct (O : Type) where
  | issue (owner : O)
  | drop (owner : O)
  /-- A token goes to someone else. -/
  | elsewhere

namespace TokenStore

/-- The tokens of the owners were given once. -/
structure Fair (s : TokenStore O) : Prop where
  given : ∀ o, s.held o = 0 ∨ s.held o < s.next
  distinct : ∀ o o', s.held o = s.held o' → s.held o ≠ 0 → o = o'

/-- What a run leaves of the tokens. -/
structure Later (s s' : TokenStore O) : Prop where
  next : s.next ≤ s'.next
  held : ∀ o, s'.held o = s.held o ∨ s'.held o = 0 ∨ s.next ≤ s'.held o

theorem Later.refl (s : TokenStore O) : Later s s := ⟨(Nat.le_refl _), fun _ => .inl rfl⟩

theorem Later.trans {s s' s'' : TokenStore O} (h : Later s s') (h' : Later s' s'') :
    Later s s'' := by
  refine ⟨Nat.le_trans h.next h'.next, fun o => ?_⟩
  rcases h'.held o with heq | hzero | hnew
  · rw [heq]
    exact h.held o
  · exact .inr (.inl hzero)
  · exact .inr (.inr (Nat.le_trans h.next hnew))

variable [DecidableEq O] (limit : Nat)

/-- An owner gets a token. -/
def give (s : TokenStore O) (o : O) (token next : Nat) : TokenStore O :=
  ⟨Function.update s.held o token, next⟩

@[simp] theorem held_give (s : TokenStore O) (o : O) (token next : Nat) :
    (s.give o token next).held o = token := Function.update_self ..

@[simp] theorem held_give_of_ne (s : TokenStore O) {o p : O} (h : p ≠ o) (token next : Nat) :
    (s.give o token next).held p = s.held p := Function.update_of_ne h ..

/-- The tokens behind a step. -/
def step (s : TokenStore O) : TokenAct O → TokenStore O
  | .issue o => s.give o (takeToken limit s.next).1 (takeToken limit s.next).2
  | .drop o => s.give o 0 s.next
  | .elsewhere => { s with next := (takeToken limit s.next).2 }

variable {limit}

theorem takeToken_cases (limit next : Nat) :
    takeToken limit next = (next, next + 1) ∨ takeToken limit next = (0, next) := by
  unfold takeToken
  split
  · exact .inl rfl
  · exact .inr rfl

theorem Fair.give {s : TokenStore O} (h : s.Fair) {next : Nat} (hnext : s.next ≤ next) (o : O)
    {token : Nat} (htoken : token = 0 ∨ (s.next ≤ token ∧ token < next)) :
    (s.give o token next).Fair := by
  have hother : ∀ p, token ≠ 0 → token ≠ s.held p := by
    intro p hne heq
    rcases htoken with hzero | ⟨hle, -⟩
    · exact hne hzero
    · rcases h.given p with hz | hlt <;> omega
  constructor
  · intro p
    by_cases hp : p = o
    · subst hp
      rw [held_give]
      exact htoken.imp_right And.right
    · rw [held_give_of_ne s hp]
      exact (h.given p).imp_right fun hlt => Nat.lt_of_lt_of_le hlt hnext
  · intro p q heq hne
    by_cases hp : p = o <;> by_cases hq : q = o
    · rw [hp, hq]
    · subst hp
      rw [held_give] at heq hne
      rw [held_give_of_ne s hq] at heq
      exact absurd heq (hother q hne)
    · subst hq
      rw [held_give_of_ne s hp] at heq hne
      rw [held_give] at heq
      exact absurd heq.symm (hother p (heq ▸ hne))
    · rw [held_give_of_ne s hp] at heq hne
      rw [held_give_of_ne s hq] at heq
      exact h.distinct p q heq hne

theorem later_give (s : TokenStore O) {next : Nat} (hnext : s.next ≤ next) (o : O) {token : Nat}
    (htoken : token = 0 ∨ s.next ≤ token) : Later s (s.give o token next) := by
  refine ⟨hnext, fun p => ?_⟩
  by_cases hp : p = o
  · subst hp
    rw [held_give]
    exact .inr htoken
  · rw [held_give_of_ne s hp]
    exact .inl rfl

/-- A step gives tokens that were never given. -/
theorem Fair.step {s : TokenStore O} (h : s.Fair) (limit : Nat) (act : TokenAct O) :
    (s.step limit act).Fair ∧ Later s (s.step limit act) := by
  cases act with
  | issue o =>
    rw [TokenStore.step]
    rcases takeToken_cases limit s.next with htake | htake <;> rw [htake]
    · exact ⟨h.give (Nat.le_succ _) o (.inr ⟨(Nat.le_refl _), Nat.lt_succ_self _⟩),
        later_give s (Nat.le_succ _) o (.inr (Nat.le_refl _))⟩
    · exact ⟨h.give (Nat.le_refl _) o (.inl rfl), later_give s (Nat.le_refl _) o (.inl rfl)⟩
  | drop o => exact ⟨h.give (Nat.le_refl _) o (.inl rfl), later_give s (Nat.le_refl _) o (.inl rfl)⟩
  | elsewhere =>
    have hnext : s.next ≤ (takeToken limit s.next).2 := by
      rcases takeToken_cases limit s.next with htake | htake
      · exact Nat.le_trans (Nat.le_succ _) (Nat.le_of_eq (congrArg Prod.snd htake).symm)
      · exact Nat.le_of_eq (congrArg Prod.snd htake).symm
    exact ⟨⟨fun o => (h.given o).imp_right fun hlt => Nat.lt_of_lt_of_le hlt hnext, h.distinct⟩, hnext,
      fun _ => .inl rfl⟩

end TokenStore

/-- Owners with tokens that were given once. -/
def tokens (O : Type) [DecidableEq O] (limit : Nat) : System (TokenStore O) (TokenAct O) where
  init := TokenStore.Fair
  step s act := some (s.step limit act)

namespace TokenStore

variable [DecidableEq O] {limit : Nat} {s s' : TokenStore O} {acts : List (TokenAct O)}

theorem fair_inductive : (tokens O limit).Inductive (fun _ _ => True) Fair where
  init _ h := h
  step s act s' h _ hstep := by
    obtain rfl := Option.some.inj hstep
    exact (h.step limit act).1

/-- No run gives a token again. -/
theorem Fair.run (h : s.Fair) (hrun : (tokens O limit).run s acts = some s') :
    s'.Fair ∧ Later s s' := by
  induction acts generalizing s with
  | nil =>
    obtain rfl : s = s' := Option.some.inj hrun
    exact ⟨h, .refl s⟩
  | cons act acts ih =>
    obtain ⟨m, hstep, hrest⟩ := System.run_cons.mp hrun
    obtain rfl := Option.some.inj hstep
    obtain ⟨hfair, hlater⟩ := h.step limit act
    obtain ⟨hfair', hlater'⟩ := ih hfair hrest
    exact ⟨hfair', hlater.trans hlater'⟩

end TokenStore
end Sys
