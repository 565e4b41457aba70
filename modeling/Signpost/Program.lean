import Signpost.Files.Edit
import Signpost.Log
import Signpost.Provider
import Signpost.Settings.Load

/-!
# The program

The program makes the providers that its settings ask for and runs a service with them until it is
told to stop. It logs what it does.
-/

namespace Signpost.Program

/-- The providers of the settings, in order of precedence: the rules file, the daemon if there is a
connection to it, the static rules. -/
def providers (s : Settings) (daemon : Option Docker.Daemon) : List Provider :=
  (if s.file.enabled then [.file (Files.Path.ofString s.file.path)] else [])
    ++ (if s.docker.enabled then daemon.toList.map (Provider.docker s.docker) else [])
    ++ (if s.staticRules.enabled then [.static s.staticRules.rules] else [])

/-- The table of a service that has asked all its providers. -/
def table (files : Files.Tree) (providers : List Provider) : Table :=
  Table.ofAnswers (providers.map fun p => (p.origin, p.list files))

/-- The lines about the providers that are used. -/
def providerLines (s : Settings) (connected : Bool) : List Log.Line :=
  let file : Log.Line :=
    { level := .info, message := "규칙 파일 프로바이더 사용", fields := [("path", .text s.file.path)] }
  let docker : Log.Line :=
    if connected then
      { level := .info
        message := "Docker 프로바이더 사용"
        fields := [("network", .text s.docker.network)] }
    else { level := .error, message := "Docker 클라이언트 초기화 실패, Docker 프로바이더 제외" }
  let static : Log.Line :=
    { level := .info
      message := "정적 규칙 프로바이더 사용"
      fields := [("rules", .number s.staticRules.rules.length)] }
  let none : Log.Line := { level := .warn, message := "활성화된 프로바이더가 없음" }
  (if s.file.enabled then [file] else [])
    ++ (if s.docker.enabled then [docker] else [])
    ++ (if s.staticRules.enabled then [static] else [])
    ++ (if s.file.enabled || s.docker.enabled && connected || s.staticRules.enabled then []
        else [none])

/-- Why the directory of a file cannot be watched. -/
def watchFault (files : Files.Tree) (path : Files.Path) (f : Files.Fault) : String :=
  let reason :=
    match f with
    | .notFound => "No path was found."
    | .nulInName => "data provided contains a nul byte"
    | f => f.message
  let directory := (files.pathTo files.working).join path.directory
  reason ++ " about [" ++ Text.quoted directory.shown ++ "]"

/-- The work of the service with a number of providers. -/
def run (providers : Nat) : Log.Span :=
  { name := "run", part := .service, fields := [("providers", .number providers)] }

/-- The line about the watch for the rules file. -/
def watchLine (files : Files.Tree) (s : Settings) : Log.Line :=
  let path : Files.Path := .ofString s.file.path
  match Files.Watch.start files path with
  | .ok _ =>
    { level := .info
      part := .rulesFile
      message := "규칙 파일 감시 시작"
      fields := [("path", .text s.file.path)] }
  | .error f =>
    { level := .warn
      part := .rulesFile
      message := "규칙 파일 감시 시작 실패"
      fields := [("path", .text s.file.path),
        ("error", .text (watchFault files path f))] }

/-- The line about a provider that fails, where `toml` words the faults of a TOML text. -/
def failureLine (toml : Toml.Fault → String) (origin : Origin) (f : Source.Fault) : Log.Line :=
  { level := .warn
    part := .service
    message := "프로바이더 규칙 조회 실패"
    fields := [("provider", .text origin.name), ("error", .text (f.messageWith toml))] }

/-- The line about a prefix rule that cannot be spelled out. -/
def extensionLine (r : Rule) (e : PatternError) : Log.Line :=
  { level := .warn
    part := .extension
    message := "규칙 확장 실패, 원래 규칙 유지"
    fields := [("src", .text r.pattern.source), ("error", .text e.reason)] }

/-- The lines about what a provider answers. -/
def answerLines (toml : Toml.Fault → String) (origin : Origin) :
    Except Source.Fault (List Rule) → List Log.Line
  | .ok rules => rules.filterMap fun r => r.extensionFault?.map (extensionLine r)
  | .error f => [failureLine toml origin f]

def ruleLine (r : Rule) : Log.Line :=
  { level := .info
    part := .service
    message := "매핑 규칙"
    fields := [("provider", .text r.origin.name), ("server", .text r.server),
      ("src", .text r.pattern.source), ("dst", .text r.target)] }

/-- The lines of one rebuilding: what is wrong with the answers, the rules of the new table, their
number. -/
def rebuildLines (toml : Toml.Fault → String) (files : Files.Tree) (providers : List Provider) :
    List Log.Line :=
  let rules := table files providers
  let lines := providers.flatMap (fun p => answerLines toml p.origin (p.list files))
    ++ rules.map ruleLine
    ++ [{ level := .info
          part := .service
          message := "라우팅 규칙 테이블 갱신"
          fields := [("mappers", .number rules.length)] }]
  lines.map fun line => { line with span := some (run providers.length) }

/-- The line when there is no provider that could tell of a change. -/
def silenceLine : Log.Line :=
  { level := .warn
    part := .service
    message := "모든 프로바이더 이벤트 스트림 종료"
    span := some (run 0) }

/-- The lines until the program waits for something to happen. There is one rebuilding for the first
signal of each provider. -/
def startLines (toml : Toml.Fault → String) (s : Settings) (files : Files.Tree)
    (daemon : Option Docker.Daemon) : List Log.Line :=
  let ps := providers s daemon
  let watched : Log.Line := { watchLine files s with span := some (run ps.length) }
  providerLines s daemon.isSome
    ++ (if s.file.enabled then [watched] else [])
    ++ ps.flatMap (fun _ => rebuildLines toml files ps)
    ++ (if ps.isEmpty then [silenceLine] else [])

/-- The lines when the program is told to stop. -/
def stopLines : List Log.Line :=
  [{ level := .info, part := .shutdown, message := "종료 신호 수신" },
    { level := .info, message := "디스커버리 서비스 종료" }]

/-- What is written when the settings cannot be loaded. -/
def loadFailure (toml : Toml.Fault → String) (f : Settings.Fault) : String :=
  "설정 로드 실패: " ++ f.messageWith toml

end Signpost.Program
