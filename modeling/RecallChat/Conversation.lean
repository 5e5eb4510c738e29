import RecallChat.Action
import RecallChat.Memory
import RecallChat.Registry

/-!
# Chat turns

A turn embeds the user's message, retrieves similar texts from the memory, builds a prompt of them
and the session with the message pending, and generates a reply.  Only when all of that has
succeeded are message and reply added to the session and the message to the memory.  The length of
the reply is taken last, for the log.

A generator replies with a text, but nothing checks that it does: the kind of replies is a parameter
(`Utterance`), and it is `String` where none is given.
-/

namespace RecallChat

set_option autoImplicit false

/-! ## Prompts -/

/-- The line above the retrieved texts. -/
def contextHeader : String := "Context from memory:\n"

/-- A retrieved text as a line of a prompt. -/
def contextLine (text : Value) : Text.CodePoints :=
  .ofString "- " ++ text.displayed ++ .ofString "\n"

/-- The prompt of a session with retrieved texts in front; without any it stays as it is. -/
def buildPrompt (context : List Value) (sessionPrompt : Text.CodePoints) : Text.CodePoints :=
  if context.isEmpty then sessionPrompt
  else .ofString contextHeader ++ context.flatMap contextLine ++ .ofString "\n" ++ sessionPrompt

/-! ## Conversations -/

/-- The sessions and the memory that turns read and write. -/
structure ChatState where
  registry : Registry
  memory : Memory

/-- A world with the state of a conversation. -/
structure Conversing (σ : Type) where
  inner : σ
  chat : ChatState

/-- What a generator can reply with: the content of a message, and a length that may not exist. -/
class Utterance (ρ : Type) where
  content : ρ → Value
  length : ρ → Except Fault Nat

instance : Utterance String where
  content := .text
  length text := .ok text.length

instance : Utterance Value where
  content := id
  length value :=
    match value.length? with
    | some length => .ok length
    | none => .error (.wrongType ("object of type '" ++ value.kindName ++ "' has no len()"))

/-- What a turn needs: an embedder, a generator and two limits. -/
structure Conversation (σ : Type) (ρ : Type := String) where
  embed : Value → Action σ Value
  generate : Text.CodePoints → Value → Action σ ρ
  topK : Value
  maxTokens : Value

/-- The reply of a turn, with what led to it. -/
structure TurnReport (ρ : Type := String) where
  response : ρ
  sessionId : Value
  retrieved : List (Value × Double)
  prompt : Text.CodePoints

/-- What a turn has computed before it changes anything. -/
structure PreparedTurn (ρ : Type := String) where
  embedding : Value
  retrieved : List (Value × Double)
  prompt : Text.CodePoints
  response : ρ

namespace Conversation

variable {σ ρ : Type}

/-- The name under which turns log. -/
def logSource : String := "tierchat.conversation"

/-- An action of the components inside a conversation. -/
def inside {α : Type} (action : Action σ α) : Action (Conversing σ) α :=
  action.within Conversing.inner fun inner world => { world with inner := inner }

/-- The session of a turn, created if it is not there yet. -/
def openSession (sessionId : Value) : Action (Conversing σ) Handle := do
  let chat := (← Action.world).chat
  let (handle, registry) ← Action.ofExcept (chat.registry.getOrCreate sessionId)
  Action.change fun world => { world with chat := { chat with registry := registry } }
  return handle

/-- Computes a reply without changing the session or the memory. -/
def prepare (conversation : Conversation σ ρ) (handle : Handle) (message : Value) :
    Action (Conversing σ) (PreparedTurn ρ) := do
  let embedding ← inside (conversation.embed message)
  let chat := (← Action.world).chat
  let retrieved ← Action.ofExcept (chat.memory.search embedding (.ofValue conversation.topK))
  let prompt := buildPrompt (retrieved.map Prod.fst)
    (chat.registry.promptFor handle [⟨.user, message⟩])
  let response ← inside (conversation.generate prompt conversation.maxTokens)
  return ⟨embedding, retrieved, prompt, response⟩

variable [Utterance ρ]

/-- Adds a turn to its session, then its message to the memory. -/
def commit (handle : Handle) (message : Value) (turn : PreparedTurn ρ) :
    Action (Conversing σ) Unit := do
  Action.change fun world =>
    let registry := world.chat.registry.addTurn handle message (Utterance.content turn.response)
    { world with chat := { world.chat with registry := registry } }
  let chat := (← Action.world).chat
  let memory ← Action.ofExcept (chat.memory.add message turn.embedding)
  Action.change fun world => { world with chat := { world.chat with memory := memory } }

/-- One turn. -/
def turn (conversation : Conversation σ ρ) (message sessionId : Value) :
    Action (Conversing σ) (TurnReport ρ) := do
  let handle ← openSession sessionId
  let id := ((← Action.world).chat.registry.session handle).id
  match ← (conversation.prepare handle message).attempt with
  | .error fault =>
    Action.log .warning logSource
      (.ofString "Chat turn failed for session '" ++ id.displayed ++
        .ofString "'; state left unchanged")
    throw fault
  | .ok prepared =>
    commit handle message prepared
    let length ← Action.ofExcept (Utterance.length prepared.response)
    Action.log .debug logSource
      (.ofString "Turn complete for session '" ++ id.displayed ++ .ofString ("': " ++
        toString prepared.retrieved.length ++ " memories retrieved, " ++
        toString length ++ " chars generated"))
    return ⟨prepared.response, id, prepared.retrieved, prepared.prompt⟩

/-- The reply of one turn. -/
def chat (conversation : Conversation σ ρ) (message sessionId : Value) :
    Action (Conversing σ) ρ :=
  TurnReport.response <$> conversation.turn message sessionId

end Conversation

end RecallChat
