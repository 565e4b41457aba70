/-!
# Clockwork

Things that go on by themselves: they take steps while the time stands still, and wait for times at
which they can take further ones. Steps that make a measure smaller come to an end. Times are
milliseconds, and no wait on the clock lasts longer than `longestWait`.
-/

namespace Signpost

/-- The longest wait: thirty years. -/
def longestWait : Nat := 30 * 365 * 86400 * 1000

/-- How long a wait lasts that asks the clock for some time. -/
def waited (ms : Nat) : Nat :=
  min ms longestWait

/-- Takes steps until none can be taken, and at most `limit` of them. -/
def settle {σ : Type} (step? : σ → Option σ) : (limit : Nat) → σ → σ
  | 0, s => s
  | n + 1, s =>
    match step? s with
    | some next => settle step? n next
    | none => s

/-- Nothing is left to do once as many steps were allowed as a measure says that every step makes
smaller. -/
theorem step?_settle_eq_none {σ : Type} {step? : σ → Option σ} {work : σ → Nat}
    (work_lt : ∀ s next, step? s = some next → work next < work s) (limit : Nat) (s : σ)
    (h : work s ≤ limit) : step? (settle step? limit s) = none := by
  induction limit generalizing s with
  | zero =>
    cases hs : step? s with
    | none => simpa only [settle] using hs
    | some next =>
      have := work_lt s next hs
      omega
  | succ limit ih =>
    cases hs : step? s with
    | none => simp only [settle, hs]
    | some next =>
      have := work_lt s next hs
      simpa only [settle, hs] using ih next (by omega)

/-- What every step keeps is kept by all steps together. -/
theorem settle_induction {σ : Type} {step? : σ → Option σ} {P : σ → Prop}
    (keep : ∀ s next, P s → step? s = some next → P next) (limit : Nat) (s : σ) (h : P s) :
    P (settle step? limit s) := by
  induction limit generalizing s with
  | zero => simpa only [settle] using h
  | succ limit ih =>
    cases hs : step? s with
    | none => simpa only [settle, hs] using h
    | some next => simpa only [settle, hs] using ih next (keep s next h hs)

structure Clockwork (σ : Type) where
  /-- The step that is taken next, if any can be taken. -/
  step? : σ → Option σ
  /-- No more steps than this can be taken while the time stands still. -/
  work : σ → Nat
  now : σ → Nat
  setTime : Nat → σ → σ
  /-- The times that are waited for. -/
  dues : σ → List Nat

namespace Clockwork

variable {σ : Type}

/-- Goes on until no step can be taken. -/
def rest (c : Clockwork σ) (s : σ) : σ :=
  settle c.step? (c.work s) s

/-- The first time after now and up to `target` that is waited for. -/
def nextDue? (c : Clockwork σ) (target : Nat) (s : σ) : Option Nat :=
  ((c.dues s).filter fun due => c.now s < due && due ≤ target).min?

/-- Goes on up to the time `target`, with at most `limit` stops on the way. -/
def advanceTo (c : Clockwork σ) (target : Nat) : (limit : Nat) → σ → σ
  | 0, s => c.rest (c.setTime target s)
  | n + 1, s =>
    match c.nextDue? target s with
    | some due => advanceTo c target n (c.rest (c.setTime due s))
    | none => c.rest (c.setTime target s)

/-- Goes on for some time. -/
def advance (c : Clockwork σ) (ms : Nat) (s : σ) : σ :=
  c.advanceTo (c.now s + waited ms) (waited ms) (c.rest s)

end Clockwork

end Signpost
