/-!
# Programs of calls, and the protocols that they follow

`Program C A α` makes calls of type `C`, goes on with the answers (`A c` is the type of the answers
to `c`) and ends with a value. Between two calls other parties may run, so that a program is the
source text of one party of an interleaved system: one call is one step.

A protocol (`Protocol C A κ`) bounds the calls of a party by what it knows: `may k c`, and
`after k c a` is what it knows behind the answer `a`. `Follows p Q k m`: the program `m` follows the
protocol from the knowledge `k`, whatever the answers are, and ends with a value and a knowledge of
`Q`. The rules follow the shape of the program.
-/

namespace Sys

/-- A program of one party: its next call, and how it goes on with the answer. -/
inductive Program (C : Type) (A : C → Type) (α : Type) where
  | done (value : α)
  | call (c : C) (next : A c → Program C A α)

namespace Program

variable {C : Type} {A : C → Type} {α β : Type}

/-- A program behind another one. -/
def bind : Program C A α → (α → Program C A β) → Program C A β
  | done a, f => f a
  | call c next, f => call c fun answer => (next answer).bind f

instance : Monad (Program C A) where
  pure := done
  bind := bind

/-- One call, with its answer for a value. -/
def make (c : C) : Program C A (A c) := call c done

@[simp] theorem pure_bind (a : α) (f : α → Program C A β) : (done a).bind f = f a := rfl

@[simp] theorem call_bind {c : C} (next : A c → Program C A α) (f : α → Program C A β) :
    (call c next).bind f = call c fun answer => (next answer).bind f := rfl

end Program

/-- What a party may call, and what it knows behind an answer. -/
structure Protocol (C : Type) (A : C → Type) (κ : Type) where
  may : κ → C → Prop
  after : κ → (c : C) → A c → κ

namespace Program

variable {C : Type} {A : C → Type} {κ ε ε' α β : Type} {p : Protocol C A κ}

/-- The program follows the protocol, whatever the answers are. -/
def Follows (p : Protocol C A κ) (Q : α → κ → Prop) : κ → Program C A α → Prop
  | k, done a => Q a k
  | k, call c next => p.may k c ∧ ∀ answer, Follows p Q (p.after k c answer) (next answer)

theorem Follows.imp {Q R : α → κ → Prop} {m : Program C A α} {k : κ} (h : m.Follows p Q k)
    (hQ : ∀ a k, Q a k → R a k) : m.Follows p R k := by
  induction m generalizing k with
  | done a => exact hQ a k h
  | call c next ih => exact ⟨h.1, fun answer => ih answer (h.2 answer)⟩

theorem Follows.pure {Q : α → κ → Prop} {a : α} {k : κ} (h : Q a k) :
    Follows p Q k (Pure.pure a : Program C A α) := h

theorem Follows.bind {Q : α → κ → Prop} {R : β → κ → Prop} {m : Program C A α}
    {f : α → Program C A β} {k : κ} (hm : m.Follows p Q k)
    (hf : ∀ a k, Q a k → (f a).Follows p R k) : (m >>= f).Follows p R k := by
  induction m generalizing k with
  | done a => exact hf a k hm
  | call c next ih => exact ⟨hm.1, fun answer => ih answer (hm.2 answer)⟩

/-! ## Programs that may fail

A program of type `ExceptT ε (Program C A)` is a program that ends with a result. -/

/-- A failure ends the program; behind a success the next part runs. -/
theorem Follows.tryBind {Q : Except ε α → κ → Prop} {R : Except ε β → κ → Prop}
    {m : ExceptT ε (Program C A) α} {f : α → ExceptT ε (Program C A) β} {k : κ}
    (hm : m.run.Follows p Q k) (hok : ∀ a k, Q (.ok a) k → (f a).run.Follows p R k)
    (herr : ∀ e k, Q (.error e) k → R (.error e) k) : (m >>= f).run.Follows p R k := by
  refine Follows.bind hm fun r k hr => ?_
  cases r with
  | ok a => exact hok a k hr
  | error e => exact herr e k hr

theorem Follows.tryPure {Q : Except ε α → κ → Prop} {a : α} {k : κ} (h : Q (.ok a) k) :
    (Pure.pure a : ExceptT ε (Program C A) α).run.Follows p Q k := h

/-- Runs the cleanup behind a failure of the program, whose error stays. -/
def orElse (m : ExceptT ε (Program C A) α) (cleanup : Program C A Unit) :
    ExceptT ε (Program C A) α :=
  ExceptT.mk (m.run.bind fun
    | .ok a => done (.ok a)
    | .error e => cleanup.bind fun _ => done (.error e))

theorem Follows.orElse {Q R : Except ε α → κ → Prop} {m : ExceptT ε (Program C A) α}
    {cleanup : Program C A Unit} {k : κ} (hm : m.run.Follows p Q k)
    (hok : ∀ a k, Q (.ok a) k → R (.ok a) k)
    (herr : ∀ e k, Q (.error e) k → cleanup.Follows p (fun _ => R (.error e)) k) :
    (Program.orElse m cleanup).run.Follows p R k := by
  refine Follows.bind hm fun r k hr => ?_
  cases r with
  | ok a => exact hok a k hr
  | error e => exact Follows.bind (herr e k hr) fun _ _ h => h

end Program

end Sys
