import Signpost.Proofs.Course

/-!
# Sessions as courses

What a session with one run does is a course of this run: its operations are steps of the course,
and when it rests or lets time pass, its tasks take steps in one of the possible orders.
-/

namespace Signpost.Proofs
namespace Course

/-- A session is one that a course comes to. -/
def Reaches (c : Course) (s : Session) : Prop :=
  ∃ acts : List Act, s = (c.after acts).session

lemma session_start (files : Files.Tree) (providers : List Provider) :
    (Session.start files providers).run false =
      (start (.ofProviders files providers) 0).session := rfl

lemma session_send (c : Course) (i : Nat) : (c.session.send i).2 = (c.step (.send i)).session := by
  simp only [step, Session.send]
  cases told : c.session.isTold i with
  | true => rfl
  | false => rfl

lemma session_close (c : Course) (i : Nat) : c.session.close i = (c.step (.close i)).session := by
  simp only [step, Session.close]
  cases told : c.session.isTold i with
  | true => rfl
  | false => rfl

lemma session_tell (c : Course) {i : Nat} (told : c.session.isTold i = true) (t : Told) :
    c.session.setProvider i (.told t) = (c.step (.tell i t)).session := by
  simp only [step, told, if_true]
  rfl

lemma session_script (c : Course) {i : Nat} {settings : Settings.Docker} {d : Docker.Daemon}
    (asked : c.service.members[i]?.map Member.provider = some (.docker settings d))
    (lists : List (Docker.Attempt (List Docker.Container))) :
    c.session.setProvider i (.docker settings { d with lists, asked := 0 }) =
      (c.step (.script i lists)).session := by
  simp only [step, script, asked]
  rfl

lemma session_edit (c : Course) (e : Files.Edit) :
    c.session.edit e = (c.step (.edit e)).session := rfl

lemma session_cancel (c : Course) :
    c.session.cancel = (c.step (.cancel c.session.token)).session := rfl

lemma session_step? {c : Course} {next : Session} (h : c.session.step? = some next) :
    ∃ t, next = (c.step (.task t)).session ∧ next.service.now = c.service.now := by
  obtain ⟨i, mem, hi⟩ := List.exists_of_findSome?_eq_some h
  obtain rfl : i = 0 := by simpa [session] using mem
  simp only [session, List.getElem?_cons_zero] at hi
  cases hstep : c.run.step? c.service with
  | none => simp [hstep] at hi
  | some after =>
    obtain ⟨service, run⟩ := after
    obtain rfl : { service, runs := [run] } = next := by simpa [hstep] using hi
    obtain ⟨t, hmove⟩ := Run.exists_move?_of_step? hstep
    refine ⟨t, ?_, (Run.work_move?_lt hmove).1.now⟩
    rw [step_task_of_some hmove]
    rfl

/-- A session comes to rest by steps of its tasks. -/
theorem session_rest (c : Course) :
    ∃ acts : List Act, c.session.rest = (c.after acts).session ∧
      (c.after acts).service.now = c.service.now := by
  apply settle_induction (P := fun s => ∃ acts : List Act, s = (c.after acts).session ∧
    (c.after acts).service.now = c.service.now)
  · rintro s next ⟨acts, rfl, now⟩ hnext
    obtain ⟨t, rfl, same⟩ := session_step? hnext
    refine ⟨acts ++ [.task t], ?_, ?_⟩
    · rw [after_append]
      rfl
    · rw [after_append]
      exact same.trans now
  · exact ⟨[], rfl, rfl⟩

/-- A session goes on to a later time by steps of its tasks and of the time. -/
lemma session_setTime (c : Course) {time : Nat} (later : c.service.now ≤ time) :
    ∃ acts : List Act, (Session.clockwork.setTime time c.session).rest = (c.after acts).session ∧
      (c.after acts).service.now = time := by
  obtain ⟨acts, hrest, now⟩ := session_rest (c.step (.pass (time - c.service.now)))
  have time_eq : c.service.now + (time - c.service.now) = time := Nat.add_sub_of_le later
  refine ⟨.pass (time - c.service.now) :: acts, ?_, ?_⟩
  · rw [after_cons, ← hrest]
    simp only [step, time_eq]
    rfl
  · rw [after_cons, now]
    exact time_eq

lemma session_advanceTo (c : Course) {target : Nat} (later : c.service.now ≤ target)
    (limit : Nat) : Reaches c (Session.clockwork.advanceTo target limit c.session) := by
  induction limit generalizing c with
  | zero =>
    obtain ⟨acts, hrest, -⟩ := session_setTime c later
    exact ⟨acts, hrest⟩
  | succ limit ih =>
    rw [Clockwork.advanceTo]
    cases hdue : Session.clockwork.nextDue? target c.session with
    | none =>
      obtain ⟨acts, hrest, -⟩ := session_setTime c later
      exact ⟨acts, hrest⟩
    | some due =>
      have mem := List.min?_mem hdue
      have within : Session.clockwork.now c.session < due ∧ due ≤ target := by
        simpa using (List.mem_filter.mp mem).2
      obtain ⟨acts, hrest, now⟩ := session_setTime c (Nat.le_of_lt within.1)
      have before : (c.after acts).service.now ≤ target := by
        rw [now]
        exact within.2
      obtain ⟨more, hmore⟩ := ih (c.after acts) before
      refine ⟨acts ++ more, ?_⟩
      rw [after_append, ← hmore, ← hrest]
      rfl

/-- When time passes, a session does what is possible in a course. -/
theorem session_advance (c : Course) (ms : Nat) : Reaches c (c.session.advance ms) := by
  obtain ⟨acts, hrest, now⟩ := session_rest c
  have later : (c.after acts).service.now ≤ c.service.now + waited ms := by
    rw [now]
    exact Nat.le_add_right _ _
  obtain ⟨more, hmore⟩ := session_advanceTo (c.after acts) later (waited ms)
  refine ⟨acts ++ more, ?_⟩
  rw [after_append, ← hmore, ← hrest]
  rfl

end Course

end Signpost.Proofs
