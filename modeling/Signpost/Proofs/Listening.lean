import Signpost.Proofs.SignalSlots
import Signpost.Provider.Listener

/-!
# Listening to a provider

A provider takes its steps in between what the one who listens to it does: signals are received or
left where they are, files change, time passes, and someone asks to stop. Whoever goes on receiving
gets all signals for which the provider has nothing to wait for.
-/

namespace Signpost.Proofs
open Signal

namespace Listening

/-- What can happen while someone listens to a provider. -/
inductive Act
  /-- The provider takes a step, if it can. -/
  | step
  | receive
  | pass (ms : Nat)
  | edit (e : Files.Edit)
  | cancel
  | abandon

def step (l : Listener) : Act → Listener
  | .step => l.step?.getD l
  | .receive => l.receive.2
  | .pass ms => { l with now := l.now + ms }
  | .edit e => l.edit e
  | .cancel => l.cancel
  | .abandon => l.abandon

def after (l : Listener) (acts : List Act) : Listener :=
  acts.foldl step l

/-- How many signals are received in a step. -/
def receives (l : Listener) : Act → Nat
  | .receive => if l.receive.1 = .signal then 1 else 0
  | _ => 0

def received (l : Listener) : List Act → Nat
  | [] => 0
  | a :: acts => receives l a + received (step l a) acts

/-- Nobody has asked to stop, and the signals can still be received. -/
structure Alive (l : Listener) : Prop where
  running : l.cancelled = false
  receiver : l.subscription.channel.receiver = true

/-- The provider goes on and all signals are received, while the time stands still. -/
def OnlyReceives (acts : List Act) : Prop :=
  ∀ a ∈ acts, a = .step ∨ a = .receive

@[simp]
lemma after_nil (l : Listener) : after l [] = l := rfl

@[simp]
lemma after_cons (l : Listener) (a : Act) (acts : List Act) :
    after l (a :: acts) = after (step l a) acts := rfl

lemma after_append (l : Listener) (first second : List Act) :
    after l (first ++ second) = after (after l first) second :=
  List.foldl_append

lemma step_of_some {l next : Listener} (h : l.step? = some next) : step l .step = next := by
  rw [step, h, Option.getD_some]

lemma step_of_none {l : Listener} (h : l.step? = none) : step l .step = l := by
  rw [step, h, Option.getD_none]

lemma subscription_of_step? {l next : Listener} (h : l.step? = some next) :
    l.subscription.step? l.now l.cancelled = some next.subscription ∧
      next = { l with subscription := next.subscription } := by
  unfold Listener.step? at h
  obtain ⟨subscription, hstep, rfl⟩ := Option.map_eq_some_iff.mp h
  exact ⟨hstep, rfl⟩

lemma receiver_of_channelStep {c next : Channel} (h : ChannelStep c next) :
    next.receiver = c.receiver :=
  (channelFed_of_channelStep h).receiver

lemma receive_without_receiver {c : Channel} (gone : c.receiver = false) :
    c.receive = (.noReceiver, c) := by
  simp only [Channel.receive, gone, Bool.not_false, if_true]

lemma receiver_of_receive (c : Channel) : c.receive.2.receiver = c.receiver := by
  cases receiver : c.receiver with
  | true =>
    rw [(receive_of_receiver receiver).2]
    exact receiver
  | false =>
    rw [receive_without_receiver receiver]
    exact receiver

lemma alive_of_step {l : Listener} {a : Act} (h : Alive (step l a)) : Alive l := by
  obtain ⟨running, receiver⟩ := h
  cases a with
  | step =>
    cases hstep : l.step? with
    | none =>
      rw [step_of_none hstep] at running receiver
      exact ⟨running, receiver⟩
    | some next =>
      rw [step_of_some hstep] at running receiver
      obtain ⟨hsub, hnext⟩ := subscription_of_step? hstep
      obtain ⟨-, channel⟩ := subscription_step? hsub
      rw [hnext] at running
      exact ⟨running, (receiver_of_channelStep channel).symm.trans receiver⟩
  | receive => exact ⟨running, (receiver_of_receive l.subscription.channel).symm.trans receiver⟩
  | pass ms => exact ⟨running, receiver⟩
  | edit e =>
    exact ⟨running, (channelFed_notice l.files e l.subscription).receiver.symm.trans receiver⟩
  | cancel => cases running
  | abandon => cases receiver

/-- Who can still receive at the end could receive all the time. -/
theorem alive_of_after {l : Listener} {acts : List Act} (h : Alive (after l acts)) : Alive l := by
  induction acts generalizing l with
  | nil => exact h
  | cons a acts ih => exact alive_of_step (ih h)

/-- The provider and the one who receives do not stop by themselves. -/
lemma alive_step {l : Listener} {a : Act} (h : Alive l) (only : a = .step ∨ a = .receive) :
    Alive (step l a) := by
  obtain ⟨running, receiver⟩ := h
  rcases only with rfl | rfl
  · cases hstep : l.step? with
    | none =>
      rw [step_of_none hstep]
      exact ⟨running, receiver⟩
    | some next =>
      obtain ⟨hsub, hnext⟩ := subscription_of_step? hstep
      obtain ⟨-, channel⟩ := subscription_step? hsub
      rw [step_of_some hstep, hnext]
      exact ⟨running, (receiver_of_channelStep channel).trans receiver⟩
  · exact ⟨running, (receiver_of_receive l.subscription.channel).trans receiver⟩

theorem alive_after {l : Listener} {acts : List Act} (h : Alive l) (only : OnlyReceives acts) :
    Alive (after l acts) := by
  induction acts generalizing l with
  | nil => exact h
  | cons a acts ih =>
    obtain ⟨first, others⟩ := List.forall_mem_cons.mp only
    exact ih (alive_step h first) others

/-- The provider has nothing to do before some time passes, and all its signals are received. -/
structure Drained (l : Listener) : Prop where
  still : l.step? = none
  empty : l.subscription.channel.held = 0

lemma work_receive_lt {l : Listener} (receiver : l.subscription.channel.receiver = true)
    (held : 0 < l.subscription.channel.held) : (step l .receive).work < l.work := by
  have channel := @Channel.work_of_receive 1 _ _ (receive_of_held receiver held)
  simp only [step, Listener.receive, Listener.work, Subscription.work,
    receive_of_held receiver held]
  omega

/-- However slow the one who receives was, all signals are received in the end. -/
theorem exists_drained {l : Listener} (h : Alive l) :
    ∃ acts, OnlyReceives acts ∧ Drained (after l acts) := by
  -- induction on the work that is left: receiving leaves less of it, and so does every step
  induction hwork : l.work using Nat.strongRecOn generalizing l with
  | ind work ih =>
    have further {a : Act} (only : a = .step ∨ a = .receive) (less : (step l a).work < l.work) :
        ∃ acts, OnlyReceives acts ∧ Drained (after l acts) := by
      obtain ⟨acts, onlyRest, drained⟩ := ih _ (hwork ▸ less) (alive_step h only) rfl
      exact ⟨a :: acts, List.forall_mem_cons.mpr ⟨only, onlyRest⟩, drained⟩
    by_cases held : 0 < l.subscription.channel.held
    · exact further (.inr rfl) (work_receive_lt h.receiver held)
    · cases hstep : l.step? with
      | some next =>
        refine further (.inl rfl) ?_
        rw [step_of_some hstep]
        exact Listener.work_step?_lt hstep
      | none => exact ⟨[], by simp [OnlyReceives], hstep, Nat.eq_zero_of_not_pos held⟩

end Listening
end Signpost.Proofs
