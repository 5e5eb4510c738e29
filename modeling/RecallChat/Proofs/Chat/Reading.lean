import RecallChat.Conversation

/-!
# Reading prompts back

A prompt is text: retrieved texts on lines of their own, an empty line, and the lines of messages,
whose contents can hold newlines.  It determines what it was made of (`prompt_determines`) as long
as no retrieved text holds a newline and no content holds the beginning of a message's line after
one (`LegiblePrompt`).

The lines of retrieved texts end at their newlines.  The content of a message ends at the newline
after which there is nothing, or the beginning of a message's line: a content that went on beyond it
would hold that beginning (`opening_prefix`).

A text can hold surrogates, so a prompt is made of code points.  As a string it has the replacement
character for every surrogate, so it determines the texts and messages that have none.
-/

set_option autoImplicit false

namespace RecallChat

open Text

/-! ## Code points of strings -/

namespace Text.CodePoints

theorem ofString_injective : Function.Injective ofString := by
  intro first second same
  have strings := congrArg toString? same
  rw [toString?_ofString, toString?_ofString] at strings
  exact Option.some.inj strings

theorem any_isSurrogate_ofString (string : String) :
    (ofString string).any isSurrogate = false := by
  simp [ofString, isSurrogate_toNat]

theorem replaced_ofString (string : String) : replaced (ofString string) = string := by
  simp [replaced, ofString, Function.comp_def, character_toNat]

/-- That code points are those of a string. -/
def IsString (points : CodePoints) : Prop := ∃ string, ofString string = points

theorem IsString.append {first second : CodePoints} (isString : IsString first)
    (isString' : IsString second) : IsString (first ++ second) := by
  obtain ⟨string, rfl⟩ := isString
  obtain ⟨string', rfl⟩ := isString'
  exact ⟨string ++ string', by simp [ofString]⟩

theorem IsString.flatMap {α : Type} {items : List α} {points : α → CodePoints}
    (each : ∀ item ∈ items, IsString (points item)) : IsString (items.flatMap points) := by
  induction items with
  | nil => exact ⟨"", rfl⟩
  | cons item rest ih =>
      obtain ⟨first, later⟩ := List.forall_mem_cons.mp each
      exact first.append (ih later)

/-- Strings are told apart by their code points. -/
theorem IsString.eq_of_replaced {points points' : CodePoints} (isString : IsString points)
    (isString' : IsString points') (same : replaced points = replaced points') :
    points = points' := by
  obtain ⟨string, rfl⟩ := isString
  obtain ⟨string', rfl⟩ := isString'
  rw [replaced_ofString, replaced_ofString] at same
  rw [same]

end Text.CodePoints

/-! ## Texts -/

namespace Value

/-- That a value is a text, a string where it has no surrogate. -/
inductive IsText : Value → Prop
  | string (string : String) : IsText (.text string)
  | surrogates {points : CodePoints} (present : points.any CodePoints.isSurrogate = true) :
      IsText (.illFormed points)

/-- A text is determined by its code points. -/
theorem IsText.eq_of_displayed {first second : Value} (isText : first.IsText)
    (isText' : second.IsText) (same : first.displayed = second.displayed) : first = second := by
  cases isText with
  | string string =>
      cases isText' with
      | string string' => exact congrArg text (CodePoints.ofString_injective same)
      | @surrogates points present =>
          have points_eq : CodePoints.ofString string = points := same
          rw [← points_eq, CodePoints.any_isSurrogate_ofString] at present
          cases present
  | @surrogates points present =>
      cases isText' with
      | string string =>
          have points_eq : points = CodePoints.ofString string := same
          rw [points_eq, CodePoints.any_isSurrogate_ofString] at present
          cases present
      | surrogates present' => exact congrArg illFormed same

end Value

/-! ## Lines -/

namespace Text.CodePoints

/-- The code point at which a line ends. -/
def newline : Nat := 10

/-- A line ends at the first newline. -/
theorem line_append_inj {line line' more more' : CodePoints} (whole : newline ∉ line)
    (whole' : newline ∉ line') (same : line ++ newline :: more = line' ++ newline :: more') :
    line = line' ∧ more = more' := by
  induction line generalizing line' with
  | nil =>
      cases line' with
      | nil => exact ⟨rfl, (List.cons.inj same).2⟩
      | cons point rest => exact absurd (List.cons.inj same).1 (List.ne_of_not_mem_cons whole')
  | cons point rest ih =>
      cases line' with
      | nil => exact absurd (List.cons.inj same).1.symm (List.ne_of_not_mem_cons whole)
      | cons point' rest' =>
          obtain ⟨rfl, others⟩ := List.cons.inj same
          obtain ⟨rfl, more_eq⟩ := ih (List.not_mem_of_not_mem_cons whole)
            (List.not_mem_of_not_mem_cons whole') others
          exact ⟨rfl, more_eq⟩

/-- What stands at the beginning of a line and has no newline stands within the line. -/
theorem prefix_of_prefix_line {start line more : CodePoints} (plain : newline ∉ start)
    (begins : start <+: line ++ newline :: more) : start <+: line := by
  induction start generalizing line with
  | nil => exact List.nil_prefix
  | cons point rest ih =>
      cases line with
      | nil => exact absurd (List.cons_prefix_cons.mp begins).1.symm (List.ne_of_not_mem_cons plain)
      | cons point' rest' =>
          obtain ⟨first, begins'⟩ := List.cons_prefix_cons.mp begins
          exact List.cons_prefix_cons.mpr ⟨first, ih (List.not_mem_of_not_mem_cons plain) begins'⟩

end Text.CodePoints

open CodePoints (newline)

/-! ## Messages -/

/-- What the line of a message begins with. -/
def Role.opening (role : Role) : CodePoints := .ofString (role.name ++ ": ")

/-- The code point that a role begins with. -/
def Role.initial : Role → Nat
  | .user => 'u'.toNat
  | .assistant => 'a'.toNat

theorem Role.initial_injective : Function.Injective Role.initial := by
  intro role role' same
  cases role <;> cases role' <;> first | rfl | exact absurd same (by decide)

theorem Role.head?_opening_append (role : Role) (more : CodePoints) :
    (role.opening ++ more).head? = some role.initial := by
  cases role <;> rfl

theorem Role.newline_not_mem_opening (role : Role) : newline ∉ role.opening := by
  cases role <;> decide

/-- The beginning of a line says who wrote its message. -/
theorem Role.opening_append_inj {role role' : Role} {more more' : CodePoints}
    (same : role.opening ++ more = role'.opening ++ more') : role = role' ∧ more = more' := by
  have heads := congrArg List.head? same
  rw [head?_opening_append, head?_opening_append] at heads
  obtain rfl := initial_injective (Option.some.inj heads)
  exact ⟨rfl, List.append_cancel_left same⟩

namespace Message

theorem render_append (message : Message) (more : CodePoints) :
    message.render ++ more =
      message.role.opening ++ (message.content.displayed ++ newline :: more) := by
  unfold render
  rw [List.append_assoc, List.append_assoc]
  rfl

theorem renderAll_cons (message : Message) (rest : List Message) :
    renderAll (message :: rest) =
      message.role.opening ++ (message.content.displayed ++ newline :: renderAll rest) :=
  message.render_append (renderAll rest)

/-- The lines of messages begin with a role. -/
theorem head?_renderAll (messages : List Message) :
    (renderAll messages).head? = messages.head?.map fun message => message.role.initial := by
  cases messages with
  | nil => rfl
  | cons message rest =>
      rw [renderAll_cons, Role.head?_opening_append, List.head?_cons, Option.map_some]

/-- That nothing follows, or the line of a message. -/
def Opens (points : CodePoints) : Prop := points = [] ∨ ∃ role : Role, role.opening <+: points

theorem opens_renderAll (messages : List Message) : Opens (renderAll messages) := by
  cases messages with
  | nil => exact .inl rfl
  | cons message rest =>
      rw [renderAll_cons]
      exact .inr ⟨message.role, List.prefix_append _ _⟩

/-- **What goes on beyond the end of a content holds the beginning of a message.** -/
theorem opening_prefix {beyond more more' : CodePoints} (opens : Opens more)
    (same : newline :: more = beyond ++ newline :: more') (goesOn : beyond ≠ []) :
    ∃ role : Role, newline :: role.opening <+: beyond := by
  cases beyond with
  | nil => exact absurd rfl goesOn
  | cons point rest =>
      obtain ⟨rfl, others⟩ := List.cons.inj same
      rcases opens with rfl | ⟨role, begins⟩
      · cases rest <;> cases others
      · rw [others] at begins
        have within := CodePoints.prefix_of_prefix_line role.newline_not_mem_opening begins
        exact ⟨role, List.cons_prefix_cons.mpr ⟨rfl, within⟩⟩

/-- That no line of a content but the first begins like a message. -/
def Plain (content : CodePoints) : Prop :=
  ∀ role : Role, ¬ CodePoints.ofString ("\n" ++ role.name ++ ": ") <:+: content

theorem ofString_opening (role : Role) :
    CodePoints.ofString ("\n" ++ role.name ++ ": ") = newline :: role.opening := by
  cases role <;> decide

/-- A content is not longer than one after which a message follows. -/
theorem Plain.not_beyond {content beyond more more' : CodePoints}
    (plain : Plain (content ++ beyond)) (opens : Opens more)
    (same : newline :: more = beyond ++ newline :: more') : beyond = [] := by
  by_cases ends : beyond = []
  · exact ends
  · obtain ⟨role, begins⟩ := opening_prefix opens same ends
    refine absurd ?_ (plain role)
    rw [ofString_opening]
    exact begins.isInfix.trans (List.suffix_append content beyond).isInfix

/-- A content ends where nothing follows, or a message. -/
theorem content_append_inj {content content' more more' : CodePoints} (plain : Plain content)
    (plain' : Plain content') (opens : Opens more) (opens' : Opens more')
    (same : content ++ newline :: more = content' ++ newline :: more') :
    content = content' ∧ more = more' := by
  rcases List.append_eq_append_iff.mp same with ⟨beyond, rfl, rest⟩ | ⟨beyond, rfl, rest⟩
  · obtain rfl := plain'.not_beyond opens rest
    exact ⟨(List.append_nil _).symm, (List.cons.inj rest).2⟩
  · obtain rfl := plain.not_beyond opens' rest
    exact ⟨List.append_nil _, (List.cons.inj rest).2.symm⟩

/-- That a message has a text as its content, and no line in it but the first begins like a
message. -/
structure Legible (message : Message) : Prop where
  isText : message.content.IsText
  plain : Plain message.content.displayed

/-- The lines of messages determine the messages. -/
theorem renderAll_inj {messages messages' : List Message}
    (legible : ∀ message ∈ messages, message.Legible)
    (legible' : ∀ message ∈ messages', message.Legible)
    (same : renderAll messages = renderAll messages') : messages = messages' := by
  induction messages generalizing messages' with
  | nil =>
      have heads := congrArg List.head? same
      rw [head?_renderAll, head?_renderAll] at heads
      exact (List.head?_eq_none_iff.mp (Option.map_eq_none_iff.mp heads.symm)).symm
  | cons message rest ih =>
      cases messages' with
      | nil =>
          have heads := congrArg List.head? same
          rw [head?_renderAll, head?_renderAll] at heads
          cases heads
      | cons message' rest' =>
          obtain ⟨first, later⟩ := List.forall_mem_cons.mp legible
          obtain ⟨first', later'⟩ := List.forall_mem_cons.mp legible'
          rw [renderAll_cons, renderAll_cons] at same
          obtain ⟨role_eq, same'⟩ := Role.opening_append_inj same
          obtain ⟨content_eq, others⟩ := content_append_inj first.plain first'.plain
            (opens_renderAll rest) (opens_renderAll rest') same'
          have message_eq : message = message' := by
            cases message
            cases message'
            cases role_eq
            cases first.isText.eq_of_displayed first'.isText content_eq
            rfl
          rw [message_eq, ih later later' others]

end Message

/-! ## Retrieved texts -/

/-- That a retrieved text is a text in one line. -/
structure Value.Legible (text : Value) : Prop where
  isText : text.IsText
  oneLine : newline ∉ text.displayed

theorem contextLine_append (text : Value) (more : CodePoints) :
    contextLine text ++ more =
      CodePoints.ofString "- " ++ (text.displayed ++ newline :: more) := by
  unfold contextLine
  rw [List.append_assoc, List.append_assoc]
  rfl

/-- The lines of retrieved texts and the empty line after them determine the texts and what
follows. -/
theorem context_append_inj {texts texts' : List Value} {more more' : CodePoints}
    (legible : ∀ text ∈ texts, text.Legible) (legible' : ∀ text ∈ texts', text.Legible)
    (same : texts.flatMap contextLine ++ newline :: more =
      texts'.flatMap contextLine ++ newline :: more') : texts = texts' ∧ more = more' := by
  induction texts generalizing texts' with
  | nil =>
      cases texts' with
      | nil => exact ⟨rfl, (List.cons.inj same).2⟩
      | cons text' rest' =>
          rw [List.flatMap_cons, List.append_assoc, contextLine_append] at same
          exact absurd (List.cons.inj same).1 (by decide)
  | cons text rest ih =>
      rw [List.flatMap_cons, List.append_assoc, contextLine_append] at same
      cases texts' with
      | nil => exact absurd (List.cons.inj same).1 (by decide)
      | cons text' rest' =>
          obtain ⟨first, later⟩ := List.forall_mem_cons.mp legible
          obtain ⟨first', later'⟩ := List.forall_mem_cons.mp legible'
          rw [List.flatMap_cons, List.append_assoc, contextLine_append] at same
          obtain ⟨text_eq, others⟩ := CodePoints.line_append_inj first.oneLine first'.oneLine
            (List.append_cancel_left same)
          obtain ⟨rest_eq, more_eq⟩ := ih later later' others
          rw [first.isText.eq_of_displayed first'.isText text_eq, rest_eq]
          exact ⟨rfl, more_eq⟩

/-! ## Prompts -/

theorem buildPrompt_of_ne_nil {texts : List Value} (given : texts ≠ []) (prompt : CodePoints) :
    buildPrompt texts prompt =
      CodePoints.ofString contextHeader ++ (texts.flatMap contextLine ++ newline :: prompt) := by
  unfold buildPrompt
  rw [if_neg (fun none => given (List.isEmpty_iff.mp none)), List.append_assoc, List.append_assoc]
  rfl

/-- Lines of messages do not begin as a prompt with retrieved texts does. -/
theorem buildPrompt_ne_renderAll {texts : List Value} (given : texts ≠ []) (prompt : CodePoints)
    (messages : List Message) : buildPrompt texts prompt ≠ Message.renderAll messages := by
  intro same
  have heads := congrArg List.head? same
  rw [buildPrompt_of_ne_nil given, Message.head?_renderAll] at heads
  cases messages with
  | nil => cases heads
  | cons message rest =>
      have initial : 'C'.toNat = message.role.initial := Option.some.inj heads
      cases role : message.role <;> rw [role] at initial <;> exact absurd initial (by decide)

/-- That retrieved texts and messages can be read back from a prompt: each retrieved text is a text
in one line, and no content has the beginning of a message after a newline. -/
structure LegiblePrompt (texts : List Value) (messages : List Message) : Prop where
  texts : ∀ text ∈ texts, text.Legible
  messages : ∀ message ∈ messages, message.Legible

section Prompts

variable {texts texts' : List Value} {messages messages' : List Message}

theorem buildPrompt_inj (legible : LegiblePrompt texts messages)
    (legible' : LegiblePrompt texts' messages')
    (same : buildPrompt texts (Message.renderAll messages) =
      buildPrompt texts' (Message.renderAll messages')) :
    texts = texts' ∧ messages = messages' := by
  by_cases none : texts = []
  · by_cases none' : texts' = []
    · subst none
      subst none'
      exact ⟨rfl, Message.renderAll_inj legible.messages legible'.messages same⟩
    · subst none
      exact absurd same.symm (buildPrompt_ne_renderAll none' _ _)
  · by_cases none' : texts' = []
    · subst none'
      exact absurd same (buildPrompt_ne_renderAll none _ _)
    · rw [buildPrompt_of_ne_nil none, buildPrompt_of_ne_nil none'] at same
      obtain ⟨texts_eq, lines_eq⟩ :=
        context_append_inj legible.texts legible'.texts (List.append_cancel_left same)
      exact ⟨texts_eq, Message.renderAll_inj legible.messages legible'.messages lines_eq⟩

/-! ## Prompts as strings -/

/-- That a prompt is made of texts without surrogates. -/
structure SurrogateFree (texts : List Value) (messages : List Message) : Prop where
  texts : ∀ text ∈ texts, ∃ string, text = .text string
  contents : ∀ message ∈ messages, ∃ string, message.content = .text string

/-- A prompt of texts without surrogates is a string. -/
theorem SurrogateFree.isString (free : SurrogateFree texts messages) :
    (buildPrompt texts (Message.renderAll messages)).IsString := by
  have messagesAre : CodePoints.IsString (Message.renderAll messages) := by
    refine CodePoints.IsString.flatMap fun message member => ?_
    obtain ⟨string, content_eq⟩ := free.contents message member
    exact (CodePoints.IsString.append ⟨_, rfl⟩ ⟨string, by rw [content_eq]; rfl⟩).append ⟨_, rfl⟩
  have textsAre : CodePoints.IsString (texts.flatMap contextLine) := by
    refine CodePoints.IsString.flatMap fun text member => ?_
    obtain ⟨string, rfl⟩ := free.texts text member
    exact (CodePoints.IsString.append ⟨_, rfl⟩ ⟨string, rfl⟩).append ⟨_, rfl⟩
  unfold buildPrompt
  split
  · exact messagesAre
  · exact ((CodePoints.IsString.append ⟨_, rfl⟩ textsAre).append ⟨_, rfl⟩).append messagesAre

/-- **A prompt determines what it was made of.**  Two prompts of legible texts and messages are the
same only if they were made of the same texts, in the same order, and the same messages, in the same
order; one with retrieved texts is none without.  Where there are no surrogates this is true of the
prompts as strings. -/
theorem prompt_determines (legible : LegiblePrompt texts messages)
    (legible' : LegiblePrompt texts' messages') :
    (buildPrompt texts (Message.renderAll messages) =
        buildPrompt texts' (Message.renderAll messages') →
      texts = texts' ∧ messages = messages') ∧
      (texts ≠ [] → buildPrompt texts (Message.renderAll messages) ≠
        buildPrompt [] (Message.renderAll messages')) ∧
      (SurrogateFree texts messages → SurrogateFree texts' messages' →
        ((buildPrompt texts (Message.renderAll messages)).replaced =
            (buildPrompt texts' (Message.renderAll messages')).replaced →
          texts = texts' ∧ messages = messages') ∧
        (texts ≠ [] → (buildPrompt texts (Message.renderAll messages)).replaced ≠
          (buildPrompt [] (Message.renderAll messages')).replaced)) := by
  refine ⟨buildPrompt_inj legible legible', fun given => buildPrompt_ne_renderAll given _ _, ?_⟩
  intro free free'
  refine ⟨fun same => ?_, fun given same => ?_⟩
  · exact buildPrompt_inj legible legible' (free.isString.eq_of_replaced free'.isString same)
  · have bare : SurrogateFree [] messages' := ⟨nofun, free'.contents⟩
    exact buildPrompt_ne_renderAll given _ _ (free.isString.eq_of_replaced bare.isString same)

/-- A reply, and after it a message that begins like the line of a message. -/
def answered (reply : String) : List Message :=
  [⟨.assistant, .text reply⟩, ⟨.user, .text "user: b"⟩]

theorem answered_legible {reply : String} (plain : Message.Plain (.ofString reply)) :
    LegiblePrompt [.text ""] (answered reply) where
  texts := by
    intro text member
    obtain rfl := List.mem_singleton.mp member
    exact ⟨.string "", by decide⟩
  messages := by
    have plain' : Message.Plain (.ofString "user: b") := by
      intro role
      cases role <;> decide +kernel
    refine List.forall_mem_cons.mpr ⟨⟨.string reply, plain⟩, List.forall_mem_cons.mpr ⟨?_, nofun⟩⟩
    exact ⟨.string "user: b", plain'⟩

theorem answered_surrogateFree (reply : String) : SurrogateFree [.text ""] (answered reply) where
  texts := List.forall_mem_cons.mpr ⟨⟨_, rfl⟩, nofun⟩
  contents := List.forall_mem_cons.mpr ⟨⟨_, rfl⟩, List.forall_mem_cons.mpr ⟨⟨_, rfl⟩, nofun⟩⟩

/-- A newline at the end of a reply can be told from none, also where a message begins like the line
of a message and a retrieved text is empty. -/
theorem answered_differs :
    buildPrompt [.text ""] (Message.renderAll (answered "a\n")) ≠
        buildPrompt [.text ""] (Message.renderAll (answered "a")) ∧
      (buildPrompt [.text ""] (Message.renderAll (answered "a\n"))).replaced ≠
        (buildPrompt [.text ""] (Message.renderAll (answered "a"))).replaced := by
  have plain : Message.Plain (.ofString "a\n") := by
    intro role
    cases role <;> decide
  have plain' : Message.Plain (.ofString "a") := by
    intro role
    cases role <;> decide
  have apart : answered "a\n" ≠ answered "a" := by
    intro messages_eq
    have contents := congrArg (List.map fun message => message.content.display) messages_eq
    exact absurd contents (by decide)
  obtain ⟨points, _, strings⟩ :=
    prompt_determines (answered_legible plain) (answered_legible plain')
  obtain ⟨strings, _⟩ := strings (answered_surrogateFree _) (answered_surrogateFree _)
  exact ⟨fun same => apart (points same).2, fun same => apart (strings same).2⟩

end Prompts

end RecallChat
