import RecallChat.Proofs.Decoding.Delivery
import RecallChat.Proofs.Decoding.Requests
import RecallChat.Proofs.Outcome
import RecallChat.Proofs.Steady
import RecallChat.Rehearsal.Graph
import Mathlib.Logic.Function.Basic

/-!
# Calls of one generator, interleaved

A generator keeps nothing between its calls: all progress of a stream is in the stream.  So streams
of one generator can be asked for pieces in any order, with whole decodings in between
(`Generator.serveAll`).  Where the answers of the graph and the tokenizer depend on their arguments
only, each stream answers as it does alone, wherever it is asked (`serveAll_alone`).

What a stream answers alone is what it delivers when it is drained (`ask_of_drains`): its pieces,
how it ends, and nothing more from then on.  The main theorem is `serveAll_drained`.
-/

set_option autoImplicit false

namespace RecallChat

open RecallChat.Action

/-! ## Decodings without a deadline -/

/-- That the decoding of a stream under way has no deadline. -/
def Stream.Free : Stream → Prop
  | .active decoding => decoding.deadline = none
  | _ => True

/-- That a decoding that goes on has no deadline. -/
def Progress.Free : Progress → Prop
  | .piece _ next => next.deadline = none
  | .done _ => True

namespace Generator

variable {σ : Type} {generator : Generator σ}

/-- That a generator has no bound on its seconds, and that what its graph and its tokenizer answer
depends on their arguments only. -/
structure Functional (generator : Generator σ) : Prop where
  unbounded : generator.settings.maxSeconds = .null
  run : ∀ feed outputs, Steady (fun _ => True) (generator.graph.run feed outputs)
  encode : ∀ text, Steady (fun _ => True) (generator.tokenizer.encode text)
  decode : ∀ ids, Steady (fun _ => True) (generator.tokenizer.decode ids)
  endId : Steady (fun _ => True) generator.tokenizer.endId

section Steadiness

variable (functional : generator.Functional)

include functional

theorem start_steady (prompt : Text.CodePoints) (maxTokens : Value) :
    Steady (fun decoding => decoding.deadline = none) (generator.start prompt maxTokens) := by
  unfold start
  rw [deadline_of_null generator functional.unbounded, pure_bind]
  refine (functional.encode _).bind fun tokens _ => .ite _ ?_ ?_
  · have refused : Steady (fun _ => True)
        (throw (.tokenization .emptyPrompt) : Action σ Unit) := .throw _
    exact refused.bind fun _ _ => functional.endId.bind fun _ _ => .pure rfl
  · exact functional.endId.bind fun _ _ => .pure rfl

theorem nextToken_steady (tokens : List Int) :
    Steady (fun _ => True) (generator.nextToken tokens) := by
  unfold nextToken
  refine (Steady.ofExcept _).bind fun feed _ => (functional.run _ _).bind fun outputs _ => ?_
  exact (Steady.ofExcept _).bind fun _ _ => .pure trivial

/-- One step of a decoding without a deadline is steady. -/
theorem advance_steady {decoding : Decoding} (free : decoding.deadline = none) :
    Steady Progress.Free (generator.advance (pure false) decoding) := by
  have finishing : ∀ (decoding : Decoding) (reason : StopReason),
      Steady Progress.Free (finish decoding reason : Action σ Progress) :=
    fun _ _ => (Steady.log _ _ _).bind fun _ _ => .pure trivial
  have looking : Steady (fun _ => True) (generator.checkStop (pure false) decoding) :=
    ⟨.ok (), trivial, fun scene => by rw [perform_checkStop_free generator free]⟩
  unfold advance
  refine .ite _ (finishing _ _) ((Steady.ofExcept _).bind fun _ _ => .ite _ (finishing _ _) ?_)
  refine looking.bind fun _ _ => (nextToken_steady functional _).bind fun id _ => ?_
  exact .ite _ (finishing _ _) ((functional.decode _).bind fun _ _ => .pure free)

theorem deliver_steady {decoding : Decoding} (free : decoding.deadline = none) :
    Steady (fun given => given.2.Free) (generator.deliver (pure false) decoding) := by
  refine (advance_steady functional free).bind fun progress goesOn => ?_
  cases progress with
  | piece text next => exact .pure goesOn
  | done result => exact .pure trivial

/-- A stream gives the same in every scene, and is the same stream then. -/
theorem next_steady {stream : Stream} (free : stream.Free) :
    Steady (fun given => given.2.Free) (generator.next (pure false) stream) := by
  refine .bind (.attempt (?_ : Steady (fun given => given.2.Free) _)) fun result ended => ?_
  · rcases stream with ⟨prompt, maxTokens⟩ | decoding | _
    · exact (start_steady functional prompt maxTokens).bind fun _ started =>
        deliver_steady functional started
    · exact deliver_steady functional free
    · exact .pure trivial
  · cases result with
    | error fault => exact .pure trivial
    | ok given => exact .pure ended

theorem drain_steady (fuel : Nat) {decoding : Decoding} (free : decoding.deadline = none)
    (pieces : List String) :
    Steady (fun _ => True) (generator.drain (pure false) fuel decoding pieces) := by
  induction fuel generalizing decoding pieces with
  | zero => exact .pure trivial
  | succ fuel ih =>
      refine (advance_steady functional free).bind fun progress goesOn => ?_
      cases progress with
      | piece text next => exact ih goesOn _
      | done result => exact .pure trivial

/-- A whole decoding has the same text, or the same fault, in every scene. -/
theorem generate_steady (prompt : Text.CodePoints) (maxTokens : Value) :
    Steady (fun _ => True) (generator.generate prompt maxTokens) := by
  have whole : Steady (fun _ => True)
      (generator.decodeAll prompt maxTokens (pure false)) :=
    (start_steady functional prompt maxTokens).bind fun _ free => drain_steady functional _ free []
  have detailed : Steady (fun _ => True)
      (generator.generateDetailed prompt maxTokens (pure false)) := whole.map fun _ _ => trivial
  exact detailed.map fun _ _ => trivial

end Steadiness

/-! ## One stream alone -/

/-- What a stream gives when it is asked a number of times. -/
def ask (generator : Generator σ) (cancelled : Action σ Bool) :
    Nat → Stream → Action σ (List (Except Fault (Option String)))
  | 0, _ => pure []
  | count + 1, stream => do
    let (answer, next) ← generator.next cancelled stream
    let others ← generator.ask cancelled count next
    return answer :: others

/-- What a stream that is drained has given, asked a number of times more than there were pieces:
the pieces, its end, and nothing from then on. -/
def drained {α : Type} (pieces : List String) (outcome : Except Fault α) (count : Nat) :
    List (Except Fault (Option String)) :=
  pieces.map (fun text => .ok (some text)) ++
    (outcome.map fun _ => none) :: List.replicate count (.ok none)

variable {cancelled : Action σ Bool}

/-- Asking a stream never fails: a fault is an answer. -/
theorem next_answers (generator : Generator σ) (cancelled : Action σ Bool) (stream : Stream)
    (scene : Scene σ) :
    ∃ answer next after,
      (generator.next cancelled stream).perform scene = (.ok (answer, next), after) := by
  unfold next
  rw [perform_bind, perform_attempt]
  generalize (perform _ scene) = ended
  obtain ⟨fault | ⟨piece, next⟩, after⟩ := ended
  · exact ⟨.error fault, .over, after, rfl⟩
  · exact ⟨.ok piece, next, after, rfl⟩

theorem perform_ask_succ {stream next : Stream} {scene after : Scene σ}
    {answer : Except Fault (Option String)}
    (asked : (generator.next cancelled stream).perform scene = (.ok (answer, next), after))
    (count : Nat) :
    (generator.ask cancelled (count + 1) stream).perform scene =
      (((generator.ask cancelled count next).perform after).1.map (answer :: ·),
        ((generator.ask cancelled count next).perform after).2) := by
  rw [ask, perform_bind_of_ok asked]
  dsimp only
  rw [perform_bind]
  rcases (generator.ask cancelled count next).perform after with ⟨fault | others, last⟩
  · rfl
  · rfl

/-- A stream that is over has nothing more. -/
theorem perform_ask_over (count : Nat) (scene : Scene σ) :
    (generator.ask cancelled count .over).perform scene =
      (.ok (List.replicate count (.ok none)), scene) := by
  induction count with
  | zero => rfl
  | succ count ih =>
      rw [perform_ask_succ (perform_next_over scene), ih]
      rfl

/-- A stream that is asked gives the pieces that it delivers, and goes on from there. -/
theorem ask_of_delivers {first last : Stream} {start between : Scene σ} {pieces : List String}
    (delivers : generator.Delivers cancelled first start pieces last between) (count : Nat) :
    (generator.ask cancelled (pieces.length + count) first).perform start =
      (((generator.ask cancelled count last).perform between).1.map
          (pieces.map (fun text => .ok (some text)) ++ ·),
        ((generator.ask cancelled count last).perform between).2) := by
  induction delivers generalizing count with
  | none =>
      rw [List.length_nil, Nat.zero_add]
      rcases (generator.ask cancelled count first).perform start with ⟨fault | answers, after⟩
      · rfl
      · rfl
  | @more pieces text _ next _ after _ asked ih =>
      have length_eq : (pieces ++ [text]).length + count = pieces.length + (count + 1) := by
        rw [List.length_append, List.length_singleton]
        omega
      rw [length_eq, ih (count + 1), perform_ask_succ asked]
      rcases (generator.ask cancelled count next).perform after with ⟨fault | answers, last⟩
      · rfl
      · simp [Except.map]

/-- **A stream that is asked gives what it delivers when it is drained**, and nothing more. -/
theorem ask_of_drains {α : Type} {first : Stream} {start after : Scene σ} {pieces : List String}
    {outcome : Except Fault α}
    (drains : generator.Drains cancelled first start pieces outcome after) (count : Nat) :
    (generator.ask cancelled (pieces.length + (count + 1)) first).perform start =
      (.ok (drained pieces outcome count), after) := by
  obtain ⟨last, between, delivers, ended⟩ := drains
  rw [ask_of_delivers delivers, perform_ask_succ ended, perform_ask_over]
  rfl

/-- Asked more often, a stream gives the same answers first. -/
theorem ask_prefix {stream : Stream} {scene : Scene σ} {fewer more : Nat}
    {answers others : List (Except Fault (Option String))}
    (asked : ((generator.ask cancelled fewer stream).perform scene).1 = .ok answers)
    (askedMore : ((generator.ask cancelled (fewer + more) stream).perform scene).1 = .ok others) :
    answers <+: others := by
  induction fewer generalizing stream scene answers others with
  | zero =>
      cases asked
      exact List.nil_prefix
  | succ fewer ih =>
      obtain ⟨answer, next, after, given⟩ := next_answers generator cancelled stream scene
      rw [perform_ask_succ given] at asked
      rw [Nat.succ_add, perform_ask_succ given] at askedMore
      obtain ⟨rest, restAsked, rfl⟩ := Outcome.map_eq_ok.mp asked
      obtain ⟨restMore, restAskedMore, rfl⟩ := Outcome.map_eq_ok.mp askedMore
      exact List.cons_prefix_cons.mpr ⟨rfl, ih restAsked restAskedMore⟩

end Generator

/-! ## Many calls -/

/-- A call of a generator: a stream is asked for a piece, or a whole text is generated. -/
inductive Demand (ι : Type) where
  | next (stream : ι)
  | generate (prompt : Text.CodePoints) (maxTokens : Value)

/-- A call of a generator with its answer. -/
inductive Served (ι : Type) where
  | next (stream : ι) (answer : Except Fault (Option String))
  | generate (prompt : Text.CodePoints) (maxTokens : Value) (answer : Except Fault String)

namespace Served

variable {ι : Type}

/-- The call that was answered. -/
def demand : Served ι → Demand ι
  | next stream _ => .next stream
  | generate prompt maxTokens _ => .generate prompt maxTokens

/-- The answer that a stream was given. -/
def answer? [DecidableEq ι] (stream : ι) : Served ι → Option (Except Fault (Option String))
  | next asked answer => if asked = stream then some answer else none
  | generate .. => none

/-- The answers that a stream was given. -/
def answersOf [DecidableEq ι] (stream : ι) (served : List (Served ι)) :
    List (Except Fault (Option String)) :=
  served.filterMap (answer? stream)

variable [DecidableEq ι] {stream asked : ι} (rest : List (Served ι))

theorem answersOf_self (answer : Except Fault (Option String)) :
    answersOf stream (.next stream answer :: rest) = answer :: answersOf stream rest :=
  List.filterMap_cons_some (if_pos rfl)

theorem answersOf_other (ne : asked ≠ stream) (answer : Except Fault (Option String)) :
    answersOf stream (.next asked answer :: rest) = answersOf stream rest :=
  List.filterMap_cons_none (if_neg ne)

theorem length_answersOf_le (stream : ι) (served : List (Served ι)) :
    (answersOf stream served).length ≤ served.length :=
  List.length_filterMap_le _ _

end Served

namespace Generator

variable {σ ι : Type} [DecidableEq ι]

/-- One call on the streams of a generator: what was answered, and the streams then. -/
def serve (generator : Generator σ) (streams : ι → Stream) :
    Demand ι → Action σ (Served ι × (ι → Stream))
  | .next stream => do
    let (answer, next) ← generator.next (pure false) (streams stream)
    return (.next stream answer, Function.update streams stream next)
  | .generate prompt maxTokens => do
    let answer ← (generator.generate prompt maxTokens).attempt
    return (.generate prompt maxTokens answer, streams)

/-- Calls on the streams of a generator, one after the other. -/
def serveAll (generator : Generator σ) :
    List (Demand ι) → (ι → Stream) → Action σ (List (Served ι))
  | [], _ => pure []
  | demand :: rest, streams => do
    let (served, after) ← generator.serve streams demand
    let others ← generator.serveAll rest after
    return served :: others

variable {generator : Generator σ}

theorem perform_serveAll_cons {demand : Demand ι} {rest : List (Demand ι)}
    {streams next : ι → Stream} {served : Served ι} {others : List (Served ι)}
    {start middle after : Scene σ}
    (first : (generator.serve streams demand).perform start = (.ok (served, next), middle))
    (later : (generator.serveAll rest next).perform middle = (.ok others, after)) :
    (generator.serveAll (demand :: rest) streams).perform start =
      (.ok (served :: others), after) := by
  rw [serveAll, perform_bind_of_ok first]
  exact perform_bind_of_ok later

/-- That calls were answered as they are alone: the streams wherever they are asked as often, and
the whole texts wherever they are generated. -/
structure ServedAlone (generator : Generator σ) (streams : ι → Stream)
    (served : List (Served ι)) : Prop where
  next_alone : ∀ stream scene,
    ((generator.ask (pure false) (Served.answersOf stream served).length
      (streams stream)).perform scene).1 = .ok (Served.answersOf stream served)
  generate_alone : ∀ prompt maxTokens answer, .generate prompt maxTokens answer ∈ served →
    ∀ scene, ((generator.generate prompt maxTokens).perform scene).1 = answer

namespace ServedAlone

variable {streams : ι → Stream} {others : List (Served ι)} (functional : generator.Functional)

include functional

/-- One more piece in front: the stream that was asked answers alone as it did here, and is the same
stream then. -/
theorem next {asked : ι} (free : (streams asked).Free) {start middle : Scene σ} {stream : Stream}
    {answer : Except Fault (Option String)}
    (given : (generator.next (pure false) (streams asked)).perform start =
      (.ok (answer, stream), middle))
    (alone : generator.ServedAlone (Function.update streams asked stream) others) :
    generator.ServedAlone streams (.next asked answer :: others) := by
  constructor
  case next_alone =>
    intro other scene
    by_cases same : asked = other
    · subst same
      have everywhere := (next_steady functional free).eq_of_perform given scene
      have givenThere : (generator.next (pure false) (streams asked)).perform scene =
          (.ok (answer, stream),
            ((generator.next (pure false) (streams asked)).perform scene).2) :=
        Prod.ext everywhere rfl
      have rest := alone.next_alone asked
        ((generator.next (pure false) (streams asked)).perform scene).2
      rw [Function.update_self] at rest
      rw [Served.answersOf_self, List.length_cons, perform_ask_succ givenThere, rest]
      rfl
    · have rest := alone.next_alone other scene
      rw [Function.update_of_ne (Ne.symm same)] at rest
      rw [Served.answersOf_other _ same]
      exact rest
  case generate_alone =>
    intro prompt maxTokens text member
    rcases List.mem_cons.mp member with same | later
    · cases same
    · exact alone.generate_alone prompt maxTokens text later

/-- One more whole text in front: it is generated alone as it was here. -/
theorem generate {prompt : Text.CodePoints} {maxTokens : Value} {answer : Except Fault String}
    {start middle : Scene σ}
    (generated : (generator.generate prompt maxTokens).perform start = (answer, middle))
    (alone : generator.ServedAlone streams others) :
    generator.ServedAlone streams (.generate prompt maxTokens answer :: others) := by
  constructor
  case next_alone => exact alone.next_alone
  case generate_alone =>
    intro prompt' maxTokens' answer' member scene
    rcases List.mem_cons.mp member with same | later
    · cases same
      exact (generate_steady functional prompt maxTokens).eq_of_perform generated scene
    · exact alone.generate_alone prompt' maxTokens' answer' later scene

end ServedAlone

/-- **Streams and whole decodings of one generator do not meet.**  Whatever the order of the calls,
each is answered as it is alone. -/
theorem serveAll_alone (functional : generator.Functional) (demands : List (Demand ι))
    {streams : ι → Stream} (free : ∀ stream, (streams stream).Free) (start : Scene σ) :
    ∃ served after, (generator.serveAll demands streams).perform start = (.ok served, after) ∧
      served.map Served.demand = demands ∧ generator.ServedAlone streams served := by
  induction demands generalizing streams start with
  | nil =>
      refine ⟨[], start, rfl, rfl, fun stream scene => rfl, ?_⟩
      intro prompt maxTokens answer member
      cases member
  | cons demand rest ih =>
      cases demand with
      | next asked =>
          obtain ⟨answer, stream, middle, given⟩ := next_answers generator (pure false)
            (streams asked) start
          have freeThen : ∀ other, (Function.update streams asked stream other).Free := by
            intro other
            by_cases same : other = asked
            · rw [same, Function.update_self]
              exact (next_steady functional (free asked)).of_ok given
            · rw [Function.update_of_ne same]
              exact free other
          obtain ⟨others, after, later, made, alone⟩ := ih freeThen middle
          have first : (generator.serve streams (.next asked)).perform start =
              (.ok (.next asked answer, Function.update streams asked stream), middle) :=
            perform_bind_of_ok given
          exact ⟨.next asked answer :: others, after, perform_serveAll_cons first later,
            congrArg (Demand.next asked :: ·) made, alone.next functional (free asked) given⟩
      | generate prompt maxTokens =>
          rcases generated : (generator.generate prompt maxTokens).perform start with
            ⟨answer, middle⟩
          obtain ⟨others, after, later, made, alone⟩ := ih free middle
          have first : (generator.serve streams (.generate prompt maxTokens)).perform start =
              (.ok (.generate prompt maxTokens answer, streams), middle) := by
            rw [serve, perform_bind, perform_attempt, generated]
            rfl
          exact ⟨.generate prompt maxTokens answer :: others, after,
            perform_serveAll_cons first later,
            congrArg (Demand.generate prompt maxTokens :: ·) made,
            alone.generate functional generated⟩

/-- **One generator serves interleaved calls.**  Streams of one generator that are opened and then
asked in any order, with whole texts generated in between, give the pieces that they deliver when
they are drained alone, and end in the same way; and the whole texts are what they are alone. -/
theorem serveAll_drained (generator : Generator σ) (functional : generator.Functional)
    (prompts : ι → Text.CodePoints) (budgets : ι → Value)
    (whole : ∀ stream, ∃ budget, generator.budget (budgets stream) = .whole budget)
    (demands : List (Demand ι)) (start : Scene σ) :
    ∃ served after,
      (generator.serveAll demands fun stream =>
          .fresh (prompts stream) (budgets stream)).perform start = (.ok served, after) ∧
      served.map Served.demand = demands ∧
      (∀ stream alone, ∃ pieces outcome last,
        generator.Drains (pure false) (.fresh (prompts stream) (budgets stream)) alone pieces
            (outcome : Except Fault Generated) last ∧
          Served.answersOf stream served <+: drained pieces outcome demands.length) ∧
      ∀ prompt maxTokens answer, .generate prompt maxTokens answer ∈ served →
        ∀ alone, ((generator.generate prompt maxTokens).perform alone).1 = answer := by
  have free : ∀ stream, (Stream.fresh (prompts stream) (budgets stream)).Free := fun _ => trivial
  obtain ⟨served, after, performed, made, each⟩ := serveAll_alone functional demands free start
  refine ⟨served, after, performed, made, fun stream alone => ?_, each.generate_alone⟩
  obtain ⟨budget, wholeBudget⟩ := whole stream
  obtain ⟨pieces, outcome, last, -, drains⟩ :=
    decodeAll_drains wholeBudget alone (pure false) (prompts stream)
  refine ⟨pieces, outcome, last, drains, ?_⟩
  have asked := each.next_alone stream alone
  have all := congrArg Prod.fst (ask_of_drains drains demands.length)
  have fewer : (Served.answersOf stream served).length ≤ demands.length := by
    rw [← made, List.length_map]
    exact Served.length_answersOf_le stream served
  obtain ⟨more, enough⟩ := Nat.exists_eq_add_of_le
    (show (Served.answersOf stream served).length ≤ pieces.length + (demands.length + 1) by omega)
  rw [enough] at all
  exact ask_prefix asked all

/-- A generator whose graph counts its runs and looks up the last token: the token of the prompt is
followed by another one, and that by the end token. -/
def lookup : Generator Nat where
  graph := ⟨fun feed _ => do
    Action.change (· + 1)
    let ids := ((named? feed "input_ids").map fun input => input.elements.toIntegers.toList).getD []
    let rows := [0, 2, 0].map (Rehearsal.oneHot 3)
    let graph : Rehearsal.ScriptedGraph := ⟨.table rows, "logits", .single, none, none⟩
    Action.ofExcept (graph.answer 1 ids)⟩
  tokenizer := ⟨fun _ => pure [1], fun _ => pure "a", pure 0⟩
  clock := pure (.integer 0)
  settings := { GenerationSettings.standard with stopOnNewline := .boolean false }

theorem lookup_functional : lookup.Functional where
  unbounded := rfl
  run := by
    intro feed outputs
    have counted : Steady (fun _ => True) (Action.change (· + 1) : Action Nat Unit) :=
      ⟨.ok (), trivial, fun _ => rfl⟩
    exact counted.bind fun _ _ => .ofExcept _
  encode := fun _ => .pure trivial
  decode := fun _ => .pure trivial
  endId := .pure trivial

/-- Two streams that take turns, with a whole text between them. -/
theorem lookup_serves :
    ∃ served after,
      (lookup.serveAll
        [.next false, .generate (.ofString "q") .null, .next true, .next false, .next false]
        fun _ => .fresh (.ofString "p") (.integer 3)).perform ⟨0, ⟨40, []⟩⟩ = (.ok served, after) ∧
      Served.answersOf false served = [.ok (some "a"), .ok none, .ok none] ∧
      (∀ stream : Bool, ∀ alone, ∃ pieces outcome last,
        lookup.Drains (pure false) (.fresh (.ofString "p") (.integer 3)) alone pieces
            (outcome : Except Fault Generated) last ∧
          Served.answersOf stream served <+: drained pieces outcome 5) ∧
      ∀ alone, ((lookup.generate (.ofString "q") .null).perform alone).1 = .ok "a" := by
  have whole : ∀ stream : Bool, ∃ budget, lookup.budget (.integer 3) = .whole budget :=
    fun _ => ⟨3, rfl⟩
  obtain ⟨served, after, performed, -, each, texts⟩ := lookup.serveAll_drained lookup_functional
    (fun _ => .ofString "p") (fun _ => .integer 3) whole
    [.next false, .generate (.ofString "q") .null, .next true, .next false, .next false]
    ⟨0, ⟨40, []⟩⟩
  have ran : (lookup.serveAll
      [.next false, .generate (.ofString "q") .null, .next true, .next false, .next false]
      fun _ => .fresh (.ofString "p") (.integer 3)).perform ⟨0, ⟨40, []⟩⟩ =
        (.ok [.next false (.ok (some "a")), .generate (.ofString "q") .null (.ok "a"),
          .next true (.ok (some "a")), .next false (.ok none), .next false (.ok none)],
          ⟨5, ⟨40, []⟩⟩) := rfl
  obtain ⟨answered, rfl⟩ := Prod.mk.inj (ran.symm.trans performed)
  obtain rfl := Except.ok.inj answered
  exact ⟨_, _, performed, rfl, each, texts (.ofString "q") .null (.ok "a") (by simp)⟩

end Generator

end RecallChat
