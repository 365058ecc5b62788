import VersionedText.Editor
import VersionedText.Json.Printer
import VersionedText.Method
import VersionedText.Rpc
import VersionedText.Settings.Discovery
import VersionedText.Uri.FilePath

namespace VersionedText

/-!
# Language server sessions

A session keeps one project for one client.  It is started by a handshake, which
also tells it where the workspace and with it the settings are; it serves until
it is asked to shut down, and an exit ends it for good.

A notification has no response, so a refused change or close is reported to the
client as a warning to log.
-/

/-- Where a session stands. -/
inductive Phase where
  | unstarted
  | serving
  | shutDown
  | exited
  deriving Repr, DecidableEq

/-- The state of a session, with the files that settings are read from. -/
structure Session where
  phase : Phase
  project : Project
  files : FileTree

namespace Session

/-- A session before its handshake. -/
def start (files : FileTree) : Session :=
  ⟨.unstarted, .empty .default, files⟩

/-- The wording for calls after the exit. -/
def exitedMessage : String :=
  "language server has exited"

/-- What the server tells about itself in the handshake. -/
def greeting : Json :=
  .object
    [("capabilities", .object
        [("textDocumentSync", .object [("openClose", .boolean true), ("change", .natural 2)])]),
      ("serverInfo", .object
        [("name", .string "scriptsync"), ("version", .string "0.1.0")])]

/-- The directory of a workspace: its first folder, or else its root. -/
def rootOf? (workspace : Workspace) : Option Path :=
  (workspace.folders.head?.bind Uri.filePath?) <|> (workspace.rootUri.bind Uri.filePath?)

/-- Take the settings that hold for a workspace; without a directory nothing changes. -/
def configureFor (session : Session) (workspace : Workspace) : Session :=
  match rootOf? workspace with
  | none => session
  | some root =>
      let settings := (Settings.discover session.files root).1
      { session with project := session.project.configure settings.documentSettings }

/-- The warning about a notification that was refused. -/
def warning (uri : Uri) (refusal : Refusal) : LogMessage :=
  ⟨.warning, uri.text ++ ": " ++ refusal.message⟩

/-- What there is to log about the outcome of a notification. -/
def report (uri : Uri) : Except Refusal α → List LogMessage
  | .ok _ => []
  | .error refusal => [warning uri refusal]

/-- Open the document that an editor has opened. -/
def didOpen (project : Project) (opened : OpenedDocument) : Project × List LogMessage :=
  ((project.openFile opened.uri opened.text .absent).1, [])

/-- Carry out the changes of an editor. -/
def didChange (project : Project) (changed : ChangedDocument) : Project × List LogMessage :=
  let (project, outcome) := project.applyChanges changed.uri changed.changes
  (project, report changed.uri outcome)

/-- Close the document that an editor has closed. -/
def didClose (project : Project) (uri : Uri) : Project × List LogMessage :=
  let (project, outcome) := project.close uri
  (project, report uri outcome)

/-- Report how a document has changed since a version. -/
def changeRange (project : Project) (query : ChangeQuery) : Except Refusal ChangeReport := do
  let snapshot ← project.snapshot query.uri
  return ⟨snapshot.version,
    snapshot.changeSince? (project.document? query.uri) query.sinceVersion⟩

/-- A refusal, as the error of a request. -/
def errorOf (refusal : Refusal) : CallError :=
  .invalidParams refusal.message

/-- The error for calls that do not fit the phase. -/
def phaseError : Phase → CallError
  | .unstarted => .notStarted
  | _ => .invalidRequest

/-- A notification whose parameters make no sense is passed over. -/
def notify
    (session : Session)
    (call : Call)
    (decode : Json.Decoder α)
    (carryOut : Project → α → Project × List LogMessage) :
    Session × Reply :=
  match call.decodeParams decode with
  | .error _ => (session, .silent)
  | .ok params =>
      let (project, messages) := carryOut session.project params
      ({ session with project := project }, .logging messages)

/-- Carry out a call of the right kind while serving. -/
def serve (session : Session) (call : Call) : Method → Session × Reply
  | .clientReady =>
      session.notify call decodeReadiness fun project _ =>
        (project, [⟨.info, "scriptsync initialized"⟩])
  | .didOpen => session.notify call OpenedDocument.decodeParams didOpen
  | .didChange => session.notify call ChangedDocument.decodeParams didChange
  | .didClose => session.notify call decodeClosedDocument didClose
  | .changeRange =>
      match call.decodeParams ChangeQuery.decode with
      | .error error => (session, .refuse call.id error)
      | .ok query =>
          let outcome := (changeRange session.project query).map ChangeReport.toJson
          (session, .respond call.id (outcome.mapError errorOf))
  | .fileOperation =>
      match call.decodeParams FileOperation.decode with
      | .error error => (session, .refuse call.id error)
      | .ok operation =>
          let (project, outcome) := session.project.dispatch operation
          let answer := outcome.map (Json.ofOption Json.natural)
          ({ session with project := project }, .respond call.id (answer.mapError errorOf))
  | .otherRequest shape =>
      match call.decodeParams shape with
      | .error error => (session, .refuse call.id error)
      | .ok _ => (session, .refuse call.id (.methodNotFound none))
  | _ => (session, .silent)

/-- The handshake, which may only succeed once. -/
def handshake (session : Session) (call : Call) : Session × Reply :=
  if session.phase = .unstarted then
    if call.id.isNone then
      (session, .silent)
    else
      match call.decodeParams Workspace.decodeParams with
      | .error error => (session, .refuse call.id error)
      | .ok workspace =>
          ({ session.configureFor workspace with phase := .serving },
            .respond call.id (.ok greeting))
  else
    (session, .refuse call.id .invalidRequest)

/-- Stop serving. -/
def shutdown (session : Session) (call : Call) : Session × Reply :=
  if session.phase = .serving then
    let stopped := { session with phase := .shutDown }
    match call.params with
    | none => (stopped, .respond call.id (.ok .null))
    | some params =>
        (stopped, .refuse call.id (.invalidParams ("Unexpected params: " ++ params.print)))
  else
    (session, .refuse call.id (phaseError session.phase))

/-- Handle a call of a known method. -/
def handleKnown (session : Session) (call : Call) (method : Method) : Session × Reply :=
  match method with
  | .exit => ({ session with phase := .exited }, .silent)
  | .handshake => session.handshake call
  | .shutdown => session.shutdown call
  | .cancel =>
      if call.id.isSome then (session, .refuse call.id .invalidRequest) else (session, .silent)
  | _ =>
      if session.phase ≠ .serving then
        (session, .refuse call.id (phaseError session.phase))
      else if call.id.isSome ≠ method.isRequest then
        (session, .refuse call.id .invalidRequest)
      else
        session.serve call method

/-- Handle a call; after the exit there is no reply any more. -/
def handle (session : Session) (call : Call) : Session × Option Reply :=
  if session.phase = .exited then
    (session, none)
  else
    match Method.ofName? call.method with
    | some method =>
        let (next, reply) := session.handleKnown call method
        (next, some reply)
    | none =>
        if Method.isOptional call.method then
          (session, some .silent)
        else
          (session, some (.refuse call.id (.methodNotFound (some call.method))))

end Session

end VersionedText
