import RecallChat.Generation.Greedy
import RecallChat.Inference
import RecallChat.Limit
import RecallChat.Tokenizer

/-!
# Text generation

Greedy decoding, one token a step.  Every step gives the graph the whole sequence so far and takes
the token with the highest value at the last position.  A decoding stops at the end token, after a
newline where that is asked for, or when its step budget is used up; between steps it can be
cancelled and has a deadline.  `Decoding.advance` is one step, and everything else is made of it: a
`Stream` delivers the pieces of text one by one and does nothing before the first is asked for, and
`Generator.generate` takes all of them.
-/

namespace RecallChat

set_option autoImplicit false

/-- Why a decoding stopped. -/
inductive StopReason where
  | endToken
  | maxTokens
  | newline
  deriving DecidableEq, Repr

namespace StopReason

/-- The name of a reason. -/
def name : StopReason → String
  | .endToken => "eos"
  | .maxTokens => "max_tokens"
  | .newline => "newline"

end StopReason

/-- The settings of a generator; `null` seconds mean no deadline. -/
structure GenerationSettings where
  maxTokens : Value
  stopOnNewline : Value
  maxSeconds : Value

/-- The usual settings. -/
def GenerationSettings.standard : GenerationSettings :=
  ⟨.integer 512, .boolean true, .null⟩

/-- A greedy decoder. -/
structure Generator (σ : Type) where
  graph : Graph σ
  tokenizer : Tokenizer σ
  clock : Action σ Number
  settings : GenerationSettings

/-- A decoding between two steps. -/
structure Decoding where
  prompt : List Int
  produced : List Int
  text : String
  steps : Nat
  budget : Limit
  deadline : Option Number
  endId : Int

/-- The outcome of a finished decoding. -/
structure Generated where
  text : String
  tokenIds : List Int
  stopReason : StopReason
  steps : Nat

/-- What one step of a decoding leads to. -/
inductive Progress where
  | piece (text : String) (next : Decoding)
  | done (result : Generated)

namespace Decoding

/-- The sequence so far. -/
def tokens (decoding : Decoding) : List Int := decoding.prompt ++ decoding.produced

/-- The outcome of a decoding that stops here. -/
def result (decoding : Decoding) (reason : StopReason) : Generated :=
  ⟨decoding.text, decoding.produced, reason, decoding.steps⟩

/-- The decoding with one more token and its text. -/
def push (decoding : Decoding) (id : Int) (piece : String) : Decoding :=
  { decoding with
    produced := decoding.produced ++ [id]
    text := decoding.text ++ piece }

end Decoding

/-- The values at the last position of a graph's output. -/
def lastRow (logits : Tensor) (length : Nat) : List Single :=
  let width := logits.shape.getLast?.getD 0
  (logits.elements.toSingles.extract ((length - 1) * width) (length * width)).toList

namespace Generator

variable {σ : Type}

/-- The name under which generation logs. -/
def logSource : String := "tierchat.generator"

/-- The limit that holds for a call: its own, or that of the settings. -/
def budget (generator : Generator σ) (maxTokens : Value) : Limit :=
  match maxTokens with
  | .null => .ofValue generator.settings.maxTokens
  | own => .ofValue own

/-- The moment at which a decoding that starts now has to be over. -/
def deadline (generator : Generator σ) : Action σ (Option Number) :=
  match generator.settings.maxSeconds with
  | .null => pure none
  | seconds => do
    let now ← generator.clock
    match seconds.number? with
    | none =>
      throw (.wrongType
        ("no number of seconds can be of kind " ++ seconds.kindName))
    | some seconds =>
      match now.add? seconds with
      | some moment => return some moment
      | none => throw (.tooLarge "number of seconds too large")

/-- A decoding before its first step. -/
def start (generator : Generator σ) (prompt : Text.CodePoints) (maxTokens : Value) :
    Action σ Decoding := do
  let deadline ← generator.deadline
  let tokens ← generator.tokenizer.encode (.ofPoints prompt)
  if tokens.isEmpty then throw (.tokenization .emptyPrompt)
  let endId ← generator.tokenizer.endId
  return ⟨tokens, [], "", 0, generator.budget maxTokens, deadline, endId⟩

/-- Stops a decoding that is cancelled or past its deadline. -/
def checkStop (generator : Generator σ) (cancelled : Action σ Bool) (decoding : Decoding) :
    Action σ Unit := do
  if ← cancelled then
    throw (.cancelled (.cancelled decoding.steps) decoding.text decoding.steps)
  if let some moment := decoding.deadline then
    if moment.less (← generator.clock) then
      throw (.timedOut (.exceeded generator.settings.maxSeconds.display decoding.steps)
        decoding.text decoding.steps)

/-- The next token by one run of the graph. -/
def nextToken (generator : Generator σ) (tokens : List Int) : Action σ Int := do
  let outputs ← generator.graph.run (← Action.ofExcept (tokenInputs tokens)) ["logits"]
  let logits ← Action.ofExcept (requireOutput outputs "logits" tokens.length)
  return greedyToken (lastRow logits tokens.length)

/-- Ends a decoding. -/
def finish (decoding : Decoding) (reason : StopReason) : Action σ Progress := do
  Action.log .debug logSource
    (.ofString ("Generation stopped (" ++ reason.name ++ ") after " ++ toString decoding.steps ++
      " steps, " ++ toString decoding.produced.length ++ " tokens"))
  return .done (decoding.result reason)

/-- Whether a decoding has just written the newline it should stop at. -/
def atNewline (generator : Generator σ) (decoding : Decoding) : Bool :=
  generator.settings.stopOnNewline.isTruthy && decoding.text.endsWith "\n"

/-- One step of a decoding. -/
def advance (generator : Generator σ) (cancelled : Action σ Bool) (decoding : Decoding) :
    Action σ Progress := do
  if generator.atNewline decoding then finish decoding .newline
  else if !(← Action.ofExcept (decoding.budget.allows decoding.steps)) then
    finish decoding .maxTokens
  else
    generator.checkStop cancelled decoding
    let id ← generator.nextToken decoding.tokens
    let stepped := { decoding with steps := decoding.steps + 1 }
    if id = decoding.endId then finish stepped .endToken
    else
      let piece ← generator.tokenizer.decode [id]
      return .piece piece (stepped.push id piece)

/-- All remaining steps of a decoding, at most the given number of them; `pieces` are the pieces
delivered so far. -/
def drain (generator : Generator σ) (cancelled : Action σ Bool) :
    Nat → Decoding → List String → Action σ (List String × Generated)
  | 0, decoding, pieces => pure (pieces, decoding.result .maxTokens)
  | fuel + 1, decoding, pieces => do
    match ← generator.advance cancelled decoding with
    | .piece text next => generator.drain cancelled fuel next (pieces ++ [text])
    | .done result => return (pieces, result)

/-- A whole decoding: the pieces of text and the outcome. -/
def decodeAll (generator : Generator σ) (prompt : Text.CodePoints) (maxTokens : Value)
    (cancelled : Action σ Bool) : Action σ (List String × Generated) := do
  let decoding ← generator.start prompt maxTokens
  generator.drain cancelled (decoding.budget.steps + 1) decoding []

/-- Generates text and reports how and why the decoding stopped. -/
def generateDetailed (generator : Generator σ) (prompt : Text.CodePoints) (maxTokens : Value)
    (cancelled : Action σ Bool) : Action σ Generated :=
  Prod.snd <$> generator.decodeAll prompt maxTokens cancelled

/-- Generates text. -/
def generate (generator : Generator σ) (prompt : Text.CodePoints) (maxTokens : Value) :
    Action σ String :=
  Generated.text <$> generator.generateDetailed prompt maxTokens (pure false)

end Generator

/-! ## Streams -/

/-- A lazy decoding: not begun, under way, or over. -/
inductive Stream where
  | fresh (prompt : Text.CodePoints) (maxTokens : Value)
  | active (decoding : Decoding)
  | over

namespace Generator

variable {σ : Type}

/-- The next piece of a decoding, if there is one more. -/
def deliver (generator : Generator σ) (cancelled : Action σ Bool) (decoding : Decoding) :
    Action σ (Option String × Stream) := do
  match ← generator.advance cancelled decoding with
  | .piece text next => return (some text, .active next)
  | .done _ => return (none, .over)

/-- The next piece of a stream, if there is one more.  A fault is given as a value, because the
stream is over after it. -/
def next (generator : Generator σ) (cancelled : Action σ Bool) (stream : Stream) :
    Action σ (Except Fault (Option String) × Stream) := do
  let result ← Action.attempt do
    match stream with
    | .over => return (none, .over)
    | .active decoding => generator.deliver cancelled decoding
    | .fresh prompt maxTokens =>
      generator.deliver cancelled (← generator.start prompt maxTokens)
  match result with
  | .ok (piece, stream) => return (.ok piece, stream)
  | .error fault => return (.error fault, .over)

end Generator

end RecallChat
