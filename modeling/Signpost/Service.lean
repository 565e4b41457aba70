import Signpost.Provider

/-!
# The service

A service has providers in a fixed order and the table made of their rules. It can be asked while
the table is made anew: it answers from the last one that was complete.
-/

namespace Signpost

/-- A provider of a service, and how often it was asked. -/
structure Member where
  provider : Provider
  /-- How many calls for its rules have begun. -/
  calls : Nat := 0
  /-- How often its signals were subscribed to. -/
  subscriptions : Nat := 0

structure Service where
  now : Nat := 0
  files : Files.Tree := {}
  /-- The tokens by which someone can be told to stop, and whether this was done. -/
  tokens : List Bool := []
  members : List Member := []
  table : Table := []

namespace Service

/-- Why a run ends. There is no other reason. -/
def stoppedMessage : String := "디스커버리 실행이 취소됨"

def ofProviders (files : Files.Tree) (providers : List Provider) : Service :=
  { files, tokens := [false], members := providers.map fun provider => { provider } }

def isCancelled (s : Service) (token : Nat) : Bool :=
  s.tokens[token]?.getD false

/-- Tells those with a token to stop. -/
def cancel (s : Service) (token : Nat) : Service :=
  { s with tokens := s.tokens.set token true }

/-- Whether calls to a daemon are told to stop. They have the first token. -/
def stopsCalls (s : Service) : Bool :=
  s.isCancelled 0

/-- Puts another provider, or the same one in another state, in a place. -/
def setProvider (s : Service) (i : Nat) (provider : Provider) : Service :=
  { s with members := s.members.modify i fun m => { m with provider } }

/-- Begins a call for the rules of a provider. -/
def call? (s : Service) (i : Nat) : Option (Service × Call) :=
  match s.members[i]? with
  | none => none
  | some m =>
    let (provider, call) := m.provider.call s.now s.files s.stopsCalls
    some ({ s with members := s.members.set i { m with provider, calls := m.calls + 1 } }, call)

/-- Sets the time. -/
def setTime (now : Nat) (s : Service) : Service :=
  { s with now }

/-- The new path for a query, and whether a rule changed it. -/
def lookUp (s : Service) (server path : String) : String × Bool :=
  s.table.lookUp server path

/-- How often each provider makes a call at most. -/
def attempts (s : Service) : List Nat :=
  s.members.map fun m => m.provider.attempts

/-- How many items the streams of all providers have. -/
def size (s : Service) : Nat :=
  total (fun m => m.provider.size) s.members

/-- Whether two services are at one time and have as much to do. -/
structure Alike (s t : Service) : Prop where
  now : t.now = s.now
  attempts : t.attempts = s.attempts
  size : t.size = s.size

theorem Alike.trans {s t u : Service} (hst : Alike s t) (htu : Alike t u) : Alike s u :=
  ⟨htu.now.trans hst.now, htu.attempts.trans hst.attempts, htu.size.trans hst.size⟩

theorem alike_of_set {s : Service} {i : Nat} {m : Member} (h : s.members[i]? = some m)
    (other : Member) (hlike : m.provider.Alike other.provider) :
    Alike s { s with members := s.members.set i other } where
  now := rfl
  attempts := by
    obtain ⟨hi, rfl⟩ := List.getElem?_eq_some_iff.1 h
    apply List.ext_getElem
    · simp [Service.attempts]
    · intro j _ _
      by_cases hj : i = j
      · simp [Service.attempts, ← hj, hlike.attempts]
      · simp [Service.attempts, hj]
  size := by
    have htotal := @total_set _ (fun m : Member => m.provider.size) _ _ _ h other
    simp only [hlike.size] at htotal
    simp only [Service.size]
    omega

theorem alike_setProvider {s : Service} {i : Nat} {m : Member} (h : s.members[i]? = some m)
    {p : Provider} (hlike : m.provider.Alike p) : Alike s (s.setProvider i p) := by
  have : Inhabited Member := ⟨m⟩
  simp only [setProvider, List.modify_eq_set, h, Option.getD_some]
  exact alike_of_set h { m with provider := p } hlike

theorem size_le {s : Service} {i : Nat} {m : Member} (h : s.members[i]? = some m) :
    m.provider.size ≤ s.size :=
  @le_total _ (fun m : Member => m.provider.size) _ _ _ h

theorem call?_eq_some {s t : Service} {i : Nat} {c : Call} (h : s.call? i = some (t, c)) :
    ∃ m, s.members[i]? = some m ∧ Alike s t ∧
      c.work m.provider.attempts ≤ 2 * m.provider.attempts + 1 := by
  unfold call? at h
  split at h
  · simp at h
  · rename_i m hm
    obtain ⟨rfl, rfl⟩ : _ = t ∧ _ = c := by simpa using h
    exact ⟨m, hm,
      alike_of_set hm _ (m.provider.alike_call s.now s.files s.stopsCalls),
      m.provider.work_call_le s.now s.files s.stopsCalls⟩

end Service

end Signpost
