import RecallChat.Wording

/-!
# Messages

A message is written by the user or by the assistant.  Its rendering is one line: the role, a colon
and a space, the content, a newline.  A content can hold surrogates, so a line is made of code
points.
-/

namespace RecallChat

set_option autoImplicit false

/-- Who wrote a message. -/
inductive Role where
  | user
  | assistant
  deriving DecidableEq, Repr, Inhabited

namespace Role

/-- The name of a role. -/
def name : Role → String
  | .user => "user"
  | .assistant => "assistant"

/-- The role with the given name. -/
def ofName? (name : String) : Option Role :=
  if name = "user" then some .user
  else if name = "assistant" then some .assistant
  else none

/-- The role that a given value names; only the exact names are roles. -/
def parse (role : Value) : Except Fault Role :=
  match role with
  | .text name =>
    match ofName? name with
    | some role => .ok role
    | none => .error (.misuse (.invalidRole name))
  | other => other.inWords.bind fun text => .error (.misuse (.invalidRole text))

end Role

/-- One message of a conversation. -/
structure Message where
  role : Role
  content : Value

namespace Message

/-- The message with a given role and content. -/
def make (role content : Value) : Except Fault Message :=
  (Role.parse role).map fun role => ⟨role, content⟩

/-- A message as a line of a prompt. -/
def render (message : Message) : Text.CodePoints :=
  .ofString (message.role.name ++ ": ") ++ message.content.displayed ++ .ofString "\n"

/-- Messages as lines of a prompt. -/
def renderAll (messages : List Message) : Text.CodePoints := messages.flatMap render

end Message

end RecallChat
