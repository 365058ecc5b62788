import VersionedText.Editor.Request

namespace VersionedText

/-!
# Methods

The methods of the language server protocol, sorted by what a session does with
them.  A method that is none of these is unknown.
-/

/-- What a call asks for. -/
inductive Method where
  /-- Start the session. -/
  | handshake
  /-- The client is ready. -/
  | clientReady
  /-- Stop serving. -/
  | shutdown
  /-- End the session. -/
  | exit
  /-- Give up a request; every request has been answered by the time this comes. -/
  | cancel
  | didOpen
  | didChange
  | didClose
  /-- Report the change of a document since a version. -/
  | changeRange
  /-- Carry out a file operation. -/
  | fileOperation
  /-- A standard request that is not offered, with the shape of its parameters. -/
  | otherRequest (shape : Shape)
  /-- A standard notification that has no effect. -/
  | otherNotification

namespace Method

/-- The methods that are carried out, by name. -/
def offered : List (String × Method) :=
  [("initialize", .handshake),
    ("initialized", .clientReady),
    ("shutdown", .shutdown),
    ("exit", .exit),
    ("$/cancelRequest", .cancel),
    ("textDocument/didOpen", .didOpen),
    ("textDocument/didChange", .didChange),
    ("textDocument/didClose", .didClose),
    ("scriptsync/changeRange", .changeRange),
    ("scriptsync/fileOperation", .fileOperation)]

/-- Standard notifications that have no effect. -/
def otherNotifications : List String :=
  ["textDocument/willSave", "textDocument/didSave", "workspace/didChangeConfiguration",
    "workspace/didChangeWorkspaceFolders", "workspace/didCreateFiles",
    "workspace/didRenameFiles", "workspace/didDeleteFiles", "workspace/didChangeWatchedFiles"]

/-- The method of a name. -/
def ofName? (name : String) : Option Method :=
  match offered.lookup name with
  | some method => some method
  | none =>
      match Request.shapes.lookup name with
      | some shape => some (.otherRequest shape)
      | none => if otherNotifications.contains name then some .otherNotification else none

/-- Whether a method is called as a request, and not as a notification. -/
def isRequest : Method → Bool
  | .handshake | .shutdown | .changeRange | .fileOperation | .otherRequest _ => true
  | _ => false

/-- Unknown methods that a server may pass over in silence. -/
def isOptional (name : String) : Bool :=
  ['$', '/'].isPrefixOf name.toList

end Method

end VersionedText
