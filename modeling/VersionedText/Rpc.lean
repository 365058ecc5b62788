import VersionedText.Json.Decoder

namespace VersionedText

/-!
# Calls and replies

Editors and hosts talk to a session in JSON-RPC.  A call with an id is a request
and is owed a response; a call without one is a notification and never gets any.
-/

/-- An incoming call. -/
structure Call where
  method : String
  params : Option Json
  id : Option Json

/-- Why a request was not carried out. -/
inductive CallError where
  /-- The session has not been started. -/
  | notStarted
  /-- The call does not fit the state of the session or the kind of the method. -/
  | invalidRequest
  /-- The method is not known; its name is given if it is not a standard one. -/
  | methodNotFound (name : Option String)
  /-- The parameters do not make sense. -/
  | invalidParams (message : String)
  deriving Repr, DecidableEq

namespace CallError

/-- The number of an error. -/
def code : CallError → Int
  | .notStarted => -32002
  | .invalidRequest => -32600
  | .methodNotFound _ => -32601
  | .invalidParams _ => -32602

/-- The wording of an error. -/
def message : CallError → String
  | .notStarted => "Server not initialized"
  | .invalidRequest => "Invalid request"
  | .methodNotFound _ => "Method not found"
  | .invalidParams message => message

/-- The written form of an error. -/
def toJson (error : CallError) : Json :=
  let data :=
    match error with
    | .methodNotFound (some name) => [("data", Json.string name)]
    | _ => []
  .object ([("code", .integer error.code), ("message", .string error.message)] ++ data)

end CallError

/-- How urgent a logged message is. -/
inductive LogLevel where
  | warning
  | info
  deriving Repr, DecidableEq

namespace LogLevel

/-- The number of a level. -/
def code : LogLevel → Nat
  | .warning => 2
  | .info => 3

end LogLevel

/-- A message that the session asks its client to log. -/
structure LogMessage where
  level : LogLevel
  text : String
  deriving Repr, DecidableEq

namespace LogMessage

/-- The notification that carries a log message. -/
def toJson (message : LogMessage) : Json :=
  .object
    [("jsonrpc", .string "2.0"), ("method", .string "window/logMessage"),
      ("params", .object
        [("type", .natural message.level.code), ("message", .string message.text)])]

end LogMessage

/-- What a call brings about for the client. -/
structure Reply where
  /-- The response, if one is owed. -/
  response : Option Json
  /-- What is logged meanwhile. -/
  sent : List LogMessage

namespace Reply

/-- Nothing for the client. -/
def silent : Reply :=
  ⟨none, []⟩

/-- Nothing but messages to log. -/
def logging (messages : List LogMessage) : Reply :=
  ⟨none, messages⟩

/-- The response to a request; a notification has none. -/
def respond (id : Option Json) (outcome : Except CallError Json) : Reply :=
  match id with
  | none => silent
  | some id =>
      let result :=
        match outcome with
        | .ok value => ("result", value)
        | .error error => ("error", error.toJson)
      ⟨some (.object [("jsonrpc", .string "2.0"), result, ("id", id)]), []⟩

/-- The response that refuses a request. -/
def refuse (id : Option Json) (error : CallError) : Reply :=
  respond id (.error error)

end Reply

namespace Call

/-- The parameters of a call, which have to be there. -/
def decodeParams (call : Call) (decode : Json.Decoder α) : Except CallError α :=
  match call.params with
  | none => .error (.invalidParams "Missing params field")
  | some params =>
      match decode.run params with
      | .ok value => .ok value
      | .error error => .error (.invalidParams error.message)

end Call

end VersionedText
