import RecallChat.Session

/-!
# The session registry

The registry owns all sessions.  Each session has a number in the pool, in the order of creation; a
handle is such a number, and the index says which session is registered under which identifier, in
the order in which identifiers were first registered.  A session that a restore replaces stays in
the pool, so an old handle still leads to it, but no identifier does.
-/

namespace RecallChat

set_option autoImplicit false

/-- The number of a session in the pool. -/
abbrev Handle := Nat

/-- All sessions, and which of them are registered. -/
structure Registry where
  maxHistory : Value
  defaultId : Value
  pool : List Session
  index : List (Value × Handle)

namespace Registry

/-- The identifier of the session that is used when none is named. -/
def standardId : String := "default"

/-- A registry without sessions. -/
def empty (maxHistory defaultId : Value) : Registry := ⟨maxHistory, defaultId, [], []⟩

/-- A registry without sessions and with the usual settings. -/
def standard : Registry := empty (.integer Window.default.size) (.text standardId)

/-- The identifier that is meant: no identifier means the default one. -/
def resolveId (registry : Registry) : Value → Value
  | .null => registry.defaultId
  | id => id

/-- An identifier, refused when it cannot be a key. -/
def key (id : Value) : Except Fault Value :=
  if id.isHashable then .ok id
  else .error (.wrongType ("no key can be of kind " ++ id.kindName))

/-- The handle registered under an identifier. -/
def handle? (registry : Registry) (id : Value) : Option Handle :=
  (registry.index.find? fun entry => Value.sameKey entry.1 id).map Prod.snd

/-- The session of a handle. -/
def session (registry : Registry) (handle : Handle) : Session := registry.pool.getD handle default

/-- The session registered under an identifier. -/
def find? (registry : Registry) (id : Value) : Option Session :=
  (registry.handle? id).map registry.session

/-- The registered sessions, in the order of their identifiers. -/
def sessions (registry : Registry) : List Session :=
  registry.index.map fun entry => registry.session entry.2

/-- The index with a handle put under an identifier: in its old place, or at the end. -/
def setHandle (id : Value) (handle : Handle) : List (Value × Handle) → List (Value × Handle)
  | [] => [(id, handle)]
  | entry :: rest =>
    if Value.sameKey entry.1 id then (entry.1, handle) :: rest
    else entry :: setHandle id handle rest

/-- The registry with a session put under its identifier. -/
def register (registry : Registry) (session : Session) : Registry :=
  { registry with
    pool := registry.pool ++ [session]
    index := setHandle session.id registry.pool.length registry.index }

/-- The registry with the session of a handle changed. -/
def modify (registry : Registry) (handle : Handle) (f : Session → Session) : Registry :=
  { registry with pool := registry.pool.modify handle f }

/-! ## Operations -/

/-- The handle of the session of an identifier, created if it is not there yet. -/
def getOrCreate (registry : Registry) (id : Value) : Except Fault (Handle × Registry) := do
  let id ← key (registry.resolveId id)
  match registry.handle? id with
  | some handle => return (handle, registry)
  | none =>
    let session ← Session.make id registry.maxHistory
    return (registry.pool.length, registry.register session)

/-- Adds one message to the session of a handle. -/
def addMessage (registry : Registry) (handle : Handle) (role content : Value) :
    Except Fault (Message × Registry) :=
  (Message.make role content).map fun message =>
    (message, registry.modify handle fun session => session.push [message])

/-- Adds a message of the user and its reply to the session of a handle. -/
def addTurn (registry : Registry) (handle : Handle) (user assistant : Value) : Registry :=
  registry.modify handle fun session =>
    (session.push [⟨.user, user⟩]).push [⟨.assistant, assistant⟩]

/-- The prompt of the session of a handle with pending messages. -/
def promptFor (registry : Registry) (handle : Handle) (pending : List Message) : Text.CodePoints :=
  (registry.session handle).prompt pending

/-- The messages of the session of an identifier; there are none while it does not exist. -/
def history (registry : Registry) (id : Value) : Except Fault (List Message) :=
  (key (registry.resolveId id)).map fun id =>
    ((registry.find? id).map Session.messages).getD []

/-- Whether a session is registered under exactly this identifier. -/
def contains (registry : Registry) (id : Value) : Except Fault Bool :=
  (key id).map fun id => (registry.handle? id).isSome

/-- The registered identifiers. -/
def ids (registry : Registry) : List Value := registry.index.map Prod.fst

/-- The number of registered identifiers. -/
def size (registry : Registry) : Nat := registry.index.length

/-! ## Records -/

/-- The registered sessions as records. -/
def toRecords (registry : Registry) : List SessionRecord := registry.sessions.map Session.toRecord

/-- The registry with sessions registered one after the other, up to the first whose identifier
cannot be a key. -/
def registerAll (registry : Registry) : List Session → Except Fault Unit × Registry
  | [] => (.ok (), registry)
  | session :: rest =>
    match key session.id with
    | .error fault => (.error fault, registry)
    | .ok _ => (registry.register session).registerAll rest

/-- Registers the sessions of records, and returns their number.  All sessions are made before the
first is registered. -/
def restore (registry : Registry) (records : List SessionRecord) : Except Fault Nat × Registry :=
  match records.mapM Session.ofRecord with
  | .error fault => (.error fault, registry)
  | .ok sessions =>
    match registry.registerAll sessions with
    | (.ok _, restored) => (.ok sessions.length, restored)
    | (.error fault, partly) => (.error fault, partly)

end Registry

end RecallChat
