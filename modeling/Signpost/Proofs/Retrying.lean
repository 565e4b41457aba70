import Mathlib.Algebra.BigOperators.Group.Finset.Basic
import Mathlib.Data.Nat.Find
import Mathlib.Order.Bounds.Basic
import Signpost.Docker.Retry

/-!
# Attempts of a call

A call makes one attempt after the other, with a wait in between, up to the first attempt that is
final: one that succeeds, one with a fault that is not worth another attempt, or the last one that
is allowed.
-/

namespace Signpost.Proofs
open Docker Docker.Retry

section Attempts

variable {α : Type} {p : Policy} {op : Operation α} {stop : Option Nat}

/-- How long an attempt lasts. The attempts are counted from zero. -/
def lasts (op : Operation α) (n : Nat) : Nat :=
  (op.attempt n).lasts

/-- Whether no attempt follows the one with the given number, counted from one. -/
inductive Final (p : Policy) (op : Operation α) : Nat → Prop
  | succeeded {n : Nat} {a : α} (result : (op.attempt n).result = .ok a) : Final p op (n + 1)
  | rejected {n : Nat} {f : Fault} (result : (op.attempt n).result = .error f)
      (refused : op.again f = false) : Final p op (n + 1)
  | last {n : Nat} (all : p.attempts.toNat ≤ n + 1) : Final p op (n + 1)

/-- The time at which an attempt begins if those before it are not final. -/
def begins (p : Policy) (op : Operation α) : Nat → Nat
  | 0 => 0
  | n + 1 => begins p op n + lasts op n + waited p.interval

lemma waited_of_le {ms : Nat} (fits : ms ≤ longestWait) : waited ms = ms :=
  Nat.min_eq_left fits

lemma isStopped_of_le {early late : Nat} (order : early ≤ late)
    (running : isStopped stop late = false) : isStopped stop early = false := by
  cases stop with
  | none => rfl
  | some t =>
    simp only [isStopped, Option.any_some, decide_eq_false_iff_not] at running ⊢
    omega

lemma begins_eq (p : Policy) (op : Operation α) (n : Nat) :
    begins p op n = (∑ i ∈ Finset.range n, lasts op i) + n * waited p.interval := by
  induction n with
  | zero => simp [begins]
  | succ n ih =>
    rw [begins, ih, Finset.sum_range_succ, Nat.succ_mul]
    omega

/-- An attempt is final if it succeeds or the policy gives up after its fault. -/
lemma final_iff (n : Nat) :
    Final p op (n + 1) ↔
      ∀ f, (op.attempt n).result = .error f → p.givesUp op.again (n + 1) f = true := by
  simp only [Policy.givesUp, Bool.or_eq_true, decide_eq_true_eq, Bool.not_eq_true']
  constructor
  · intro h f failed
    cases h with
    | succeeded result =>
      rw [failed] at result
      cases result
    | rejected result refused =>
      rw [failed] at result
      cases result
      exact .inr refused
    | last all => exact .inl all
  · intro h
    cases hresult : (op.attempt n).result with
    | ok a => exact .succeeded hresult
    | error f =>
      rcases h f hresult with all | refused
      · exact .last all
      · exact .rejected hresult refused

lemma runFrom_of_final {done now : Nat} (final : Final p op (done + 1))
    (running : isStopped stop (now + lasts op done) = false) :
    runFrom p op stop done now =
      ⟨(op.attempt done).result, done + 1, now + lasts op done⟩ := by
  rw [final_iff] at final
  rw [lasts] at running ⊢
  rw [runFrom]
  simp only [running, Bool.false_eq_true, if_false]
  cases hresult : (op.attempt done).result with
  | ok a => rfl
  | error f => simp [final f hresult]

lemma runFrom_of_not_final {done now : Nat} (more : ¬Final p op (done + 1))
    (running : isStopped stop (now + lasts op done + waited p.interval) = false) :
    runFrom p op stop done now =
      runFrom p op stop (done + 1) (now + lasts op done + waited p.interval) := by
  simp only [final_iff, not_forall, Bool.not_eq_true] at more
  obtain ⟨f, hresult, again⟩ := more
  have before := isStopped_of_le (Nat.le_add_right _ _) running
  rw [lasts] at running before ⊢
  rw [runFrom]
  simp only [before, hresult, again, running, Bool.false_eq_true, if_false, dite_false]

/-- As long as no attempt is final and nobody asks to stop, the next attempt begins in due time. -/
theorem runFrom_of_none_final {n : Nat} (more : ∀ k, k ≤ n → ¬Final p op k)
    (running : isStopped stop (begins p op n) = false) :
    runFrom p op stop 0 0 = runFrom p op stop n (begins p op n) := by
  induction n with
  | zero => rfl
  | succ n ih =>
    have earlier : begins p op n ≤ begins p op (n + 1) := by
      rw [begins]
      omega
    rw [ih (fun k hk => more k (Nat.le_succ_of_le hk)) (isStopped_of_le earlier running)]
    exact runFrom_of_not_final (more (n + 1) (Nat.le_refl _)) running

/-- There is a first final attempt, and the policy allows it. -/
lemma exists_first_final (p : Policy) (op : Operation α) :
    ∃ n, IsLeast {k | Final p op k} (n + 1) ∧ n + 1 ≤ max 1 p.attempts.toNat := by
  classical
  obtain ⟨m, hm⟩ : ∃ m, max 1 p.attempts.toNat = m + 1 :=
    ⟨max 1 p.attempts.toNat - 1, by omega⟩
  have allowed : Final p op (m + 1) := .last (by omega)
  have some : ∃ k, Final p op k := ⟨m + 1, allowed⟩
  have first := Nat.find_spec some
  have least (k : Nat) (h : Final p op k) : Nat.find some ≤ k := Nat.find_min' some h
  generalize Nat.find some = k at first least
  obtain ⟨n, rfl⟩ : ∃ n, k = n + 1 := by
    cases first with
    | succeeded | rejected | last => exact ⟨_, rfl⟩
  exact ⟨n, ⟨first, least⟩, hm ▸ least (m + 1) allowed⟩

/-- Up to the first final attempt only the attempts themselves matter. -/
lemma final_congr {other : Operation α} {n : Nat} (again : other.again = op.again)
    (same : ∀ i, i < n → other.attempt i = op.attempt i) {k : Nat} (within : k ≤ n) :
    Final p other k ↔ Final p op k := by
  cases k with
  | zero => exact ⟨nofun, nofun⟩
  | succ k => rw [final_iff, final_iff, again, same k within]

lemma isLeast_final_congr {other : Operation α} {n : Nat} (again : other.again = op.again)
    (same : ∀ i, i < n → other.attempt i = op.attempt i) (first : IsLeast {k | Final p op k} n) :
    IsLeast {k | Final p other k} n := by
  refine ⟨(final_congr again same (Nat.le_refl n)).mpr first.1, ?_⟩
  intro k hk
  by_contra early
  have within : k ≤ n := Nat.le_of_not_le early
  exact early (first.2 ((final_congr again same within).mp hk))

theorem run_of_first_final {n : Nat} (first : IsLeast {k | Final p op k} (n + 1)) :
    run p op none = ⟨(op.attempt n).result, n + 1,
      (∑ i ∈ Finset.range (n + 1), lasts op i) + n * waited p.interval⟩ := by
  obtain ⟨final, least⟩ := first
  have more (k : Nat) (hk : k ≤ n) : ¬Final p op k := fun h =>
    absurd (least h) (Nat.not_le_of_lt (Nat.lt_succ_of_le hk))
  have unstopped : run p op none = runFrom p op none 0 0 := rfl
  have time : begins p op n + lasts op n =
      (∑ i ∈ Finset.range (n + 1), lasts op i) + n * waited p.interval := by
    rw [begins_eq, Finset.sum_range_succ]
    omega
  rw [unstopped, runFrom_of_none_final more rfl, runFrom_of_final final rfl, time]

/-- Without a request to stop, a call ends with the first attempt that is final and with what this
attempt came to. It takes the time of the attempts and of the waits between them. A counter of 32
bits counts all attempts, and what later attempts would have come to makes no difference. An answer
that blames the request is final if nothing else is said about faults. -/
theorem ends_with_first_final (p : Policy) (op : Operation α) :
    ∃ n, IsLeast {k | Final p op k} (n + 1) ∧
      run p op none = ⟨(op.attempt n).result, n + 1,
        (∑ i ∈ Finset.range (n + 1), lasts op i) + n * waited p.interval⟩ ∧
      (p.interval ≤ longestWait → (run p op none).elapsed =
        (∑ i ∈ Finset.range (n + 1), lasts op i) + n * p.interval) ∧
      n + 1 ≤ max 1 p.attempts.toNat ∧
      (∀ k, k ≤ n + 1 → (UInt32.ofNat k).toNat = k) ∧
      (∀ other : Operation α, other.again = op.again →
        (∀ i, i < n + 1 → other.attempt i = op.attempt i) → run p other none = run p op none) ∧
      (op.again = Fault.isRetryable → ∀ i status message context, status < 500 →
        (op.attempt i).result = .error (.list (.response status message) context) → n ≤ i) := by
  obtain ⟨n, first, allowed⟩ := exists_first_final p op
  refine ⟨n, first, run_of_first_final first, ?_, allowed, ?_, ?_, ?_⟩
  · intro fits
    rw [run_of_first_final first, waited_of_le fits]
  · intro k hk
    have bound : p.attempts.toNat < 2 ^ 32 := p.attempts.toNat_lt
    exact UInt32.toNat_ofNat_of_lt' (show k < 2 ^ 32 by omega)
  · intro other again same
    have sum : ∑ i ∈ Finset.range (n + 1), lasts other i = ∑ i ∈ Finset.range (n + 1), lasts op i :=
      Finset.sum_congr rfl fun i mem => by rw [lasts, lasts, same i (Finset.mem_range.mp mem)]
    rw [run_of_first_final (isLeast_final_congr again same first), run_of_first_final first, sum,
      same n (Nat.lt_succ_self n)]
  · intro again i status message context blames failed
    have refused : op.again (.list (.response status message) context) = false := by
      rw [again]
      simpa [Fault.isRetryable] using blames
    exact Nat.le_of_succ_le_succ (first.2 (.rejected failed refused))

end Attempts

/-- Two attempts that are worth another one, and then an answer that blames the request. -/
def blamedThird : Operation Unit where
  attempt
    | 0 => ⟨7, .error (.ofDaemon .timeout)⟩
    | 1 => ⟨0, .error (.list (.response 503 "unavailable") "list")⟩
    | _ => ⟨3, .error (.list (.response 404 "no such page") "list")⟩

theorem ends_with_first_final_blamedThird :
    let p : Policy := ⟨5, 10⟩
    let blame : Fault := .list (.response 404 "no such page") "list"
    p.interval ≤ longestWait ∧ blamedThird.again = Fault.isRetryable ∧
      (blamedThird.attempt 2).result = .error blame ∧
      (run p blamedThird none).result = .error blame ∧
      (run p blamedThird none).attempts = 3 ∧
      (run p blamedThird none).elapsed = 7 + 0 + 3 + 2 * 10 := by
  intro p blame
  have fits : p.interval ≤ longestWait := by decide
  obtain ⟨n, ⟨final, -⟩, outcome, time, -, -, -, blamed⟩ := ends_with_first_final p blamedThird
  have atMost : n ≤ 2 := blamed rfl 2 404 _ _ (by decide) rfl
  have notFirst : n ≠ 0 := by
    rintro rfl
    exact absurd ((final_iff 0).mp final _ rfl) (by decide)
  have notSecond : n ≠ 1 := by
    rintro rfl
    exact absurd ((final_iff 1).mp final _ rfl) (by decide)
  obtain rfl : n = 2 := by omega
  have elapsed : (run p blamedThird none).elapsed = 7 + 0 + 3 + 2 * 10 :=
    (time fits).trans (by decide)
  refine ⟨fits, rfl, rfl, ?_, ?_, elapsed⟩
  · rw [outcome]
    rfl
  · rw [outcome]

end Signpost.Proofs
