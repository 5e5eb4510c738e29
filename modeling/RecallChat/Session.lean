import RecallChat.Message

/-!
# Sessions

A session keeps the last messages of one conversation, as many as its window holds.  Adding a
message to a full window drops the oldest one, so the history is always the end of everything ever
added (`recent_append_recent`).  A prompt can include messages that are not added yet.
-/

namespace RecallChat

set_option autoImplicit false

/-- The last `count` items of a list. -/
def recent {α : Type} (count : Nat) (items : List α) : List α := items.drop (items.length - count)

theorem length_recent_le {α : Type} (count : Nat) (items : List α) :
    (recent count items).length ≤ count := by
  rw [recent, List.length_drop]
  omega

theorem recent_of_length_le {α : Type} {count : Nat} {items : List α} (h : items.length ≤ count) :
    recent count items = items := by
  rw [recent, Nat.sub_eq_zero_of_le h, List.drop_zero]

/-- Keeping the recent items before adding more changes nothing. -/
theorem recent_append_recent {α : Type} (count : Nat) (items more : List α) :
    recent count (recent count items ++ more) = recent count (items ++ more) := by
  rcases Nat.le_total items.length count with h | h
  · rw [recent_of_length_le h]
  · have hlen : (recent count items).length = count := by
      rw [recent, List.length_drop]; omega
    unfold recent at hlen ⊢
    rw [List.length_append, List.length_append, hlen]
    have joined : items.drop (items.length - count) ++ more =
        (items ++ more).drop (items.length - count) :=
      (List.drop_append_of_le_length (Nat.sub_le items.length count)).symm
    rw [joined, List.drop_drop]
    congr 1
    omega

/-! ## Windows -/

/-- How many messages a session keeps.  A window can be given as a truth value, which stands for one
and is shown as it was given. -/
structure Window where
  size : Nat
  isTruthValue : Bool
  positive : 0 < size
  bounded : size < 2 ^ 63

namespace Window

/-- The window of a session for which none is given. -/
def default : Window := ⟨10, false, by decide, by decide⟩

instance : Inhabited Window := ⟨default⟩

/-- The window that a given value denotes. -/
def ofValue (value : Value) : Except Fault Window :=
  match value.number? with
  | none =>
    .error (.wrongType
      ("no window can be of kind " ++ value.kindName))
  | some number =>
    if number.less (.integer 1) then
      value.inWords.bind fun text => .error (.misuse (.windowTooSmall text))
    else
      match number with
      | .real _ => .error (.wrongType "a window is a whole number")
      | .integer n =>
        if h : 0 < n.toNat ∧ n.toNat < 2 ^ 63 then
          .ok ⟨n.toNat, value matches .boolean _, h.1, h.2⟩
        else .error (.tooLarge "integer too large for a size")

/-- A window as the value it was given as. -/
def toValue (window : Window) : Value :=
  if window.isTruthValue then .boolean true else .integer window.size

end Window

/-! ## Sessions -/

/-- A session record, as stored outside.  The identifier is needed, the rest has defaults. -/
structure SessionRecord where
  sessionId : Option Value
  maxHistory : Option Value
  messages : Option Value

/-- The recent messages of one conversation. -/
structure Session where
  id : Value
  window : Window
  messages : List Message

instance : Inhabited Session := ⟨⟨.null, default, []⟩⟩

namespace Session

/-- A session without messages. -/
def make (id maxHistory : Value) : Except Fault Session :=
  (Window.ofValue maxHistory).map fun window => ⟨id, window, []⟩

/-- The window's part of a list of messages. -/
def fit (session : Session) (messages : List Message) : List Message :=
  recent session.window.size messages

/-- The session with messages added at its end. -/
def push (session : Session) (messages : List Message) : Session :=
  { session with messages := session.fit (session.messages ++ messages) }

/-- The session with one message added, and that message. -/
def add (session : Session) (role content : Value) : Except Fault (Message × Session) :=
  (Message.make role content).map fun message => (message, session.push [message])

/-- The prompt of a session as it would be with pending messages added. -/
def prompt (session : Session) (pending : List Message) : Text.CodePoints :=
  Message.renderAll (session.fit (session.messages ++ pending))

/-- The number of messages. -/
def size (session : Session) : Nat := session.messages.length

/-- The descriptive text of a session. -/
def described (session : Session) : String :=
  "ChatSession(" ++ session.id.shown ++ ", messages=" ++ toString session.size ++ "/" ++
    session.window.toValue.display ++ ")"

/-! ## Records -/

/-- A message as a map. -/
def messageValue (message : Message) : Value :=
  .map [(.text "role", .text message.role.name), (.text "content", message.content)]

/-- A session as a record. -/
def toRecord (session : Session) : SessionRecord :=
  ⟨some session.id, some session.window.toValue,
    some (.list (session.messages.map messageValue))⟩

/-- The items one gets by going through a stored value of messages. -/
def itemsOf : Value → Except Fault (List Value)
  | .list items => .ok items
  | .tuple items => .ok items
  | .set items => .ok items
  | .map entries => .ok (entries.map Prod.fst)
  | .text value => .ok (value.toList.map fun c => .text (String.singleton c))
  | .bytes value => .ok (value.map fun byte => .integer byte.toNat)
  | other => .error (.wrongType ("no messages in a value of kind " ++ other.kindName))

/-- A field of a stored message. -/
def messageField (message : Value) (name : String) : Except Fault Value :=
  match message with
  | .map entries =>
    match Value.find? (.text name) entries with
    | some value => .ok value
    | none => .error (.missingKey name)
  | other => .error (.wrongType ("no fields in a value of kind " ++ other.kindName))

/-- The message that a stored value denotes. -/
def messageOfValue (value : Value) : Except Fault Message := do
  let role ← messageField value "role"
  let content ← messageField value "content"
  Message.make role content

/-- The session of a record: its messages are added one after the other to an empty session. -/
def ofRecord (record : SessionRecord) : Except Fault Session := do
  match record.sessionId with
  | none => throw (.missingKey "session_id")
  | some id =>
    let session ← make id (record.maxHistory.getD (.integer Window.default.size))
    let messages ← (← itemsOf (record.messages.getD (.list []))).mapM messageOfValue
    return session.push messages

end Session

end RecallChat
