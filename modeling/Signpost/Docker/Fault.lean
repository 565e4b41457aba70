/-!
# Faults of the container daemon

What can go wrong when the daemon is asked, and which of it is worth another attempt.
-/

namespace Signpost.Docker

/-- What the daemon or the connection to it says. -/
inductive DaemonFault
  | response (status : Nat) (message : String)
  | io (message : String)
  | timeout
  | apiVersion
  deriving DecidableEq, Repr

def DaemonFault.message : DaemonFault → String
  | response status message =>
    "Docker responded with status code " ++ toString status ++ ": " ++ message
  | io message => message
  | timeout => "Timeout error"
  | apiVersion => "Failed to parse API version"

inductive Fault
  | connection (cause : DaemonFault) (context : String)
  | list (cause : DaemonFault) (context : String)
  /-- A request to stop came first. -/
  | cancelled
  deriving DecidableEq, Repr

namespace Fault

/-- A fault that comes without a context. -/
def ofDaemon (cause : DaemonFault) : Fault :=
  connection cause "Docker 데몬 연결 실패"

def message : Fault → String
  | connection cause context => "Docker 데몬 연결 실패 (" ++ context ++ "): " ++ cause.message
  | list cause context => "컨테이너 목록 조회 실패 (" ++ context ++ "): " ++ cause.message
  | cancelled => "Docker 작업이 취소됨"

/-- What the fault comes from. -/
def cause? : Fault → Option DaemonFault
  | connection cause _ => some cause
  | list cause _ => some cause
  | cancelled => none

/-- Connections may come back, and so may a daemon that answers with a fault of its own. An answer
that blames the request is final. -/
def isRetryable : Fault → Bool
  | connection _ _ => true
  | list (.response status _) _ => decide (500 ≤ status)
  | list _ _ => true
  | cancelled => false

end Fault

end Signpost.Docker
