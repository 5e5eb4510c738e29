import RecallChat.Inference.Provider

/-!
# The provider that takes a model

What a backend offers for a model is known from the providers it has and from what comes of building
a session with one of them, which can depend on the sessions that were built before (`Offer`).  A
session that was built says which providers it uses and what its graph declares, whenever it is asked
(`BuiltSession.Tells`).  A provider takes the model where it is available, a session is built with
it, and this session really uses it (`Offer.Takes`).

Providers are tried from the front of their order.  Those that do not take the model leave one
failed attempt each, with the reason (`Offer.Declined`), and the first one that takes it ends the
search: no session is built for any provider behind it, and none for one that is not available
(`Backend.load_negotiates`).
-/

set_option autoImplicit false

namespace RecallChat

/-- What a backend offers for a model: the providers it has, and what comes of building a session
with one of them after sessions were built with others, which is a fault or the providers that the
session really uses. -/
structure Offer where
  available : List String
  active : List String → String → Except Fault (List String)

namespace Offer

variable (offer : Offer)

/-- That a provider takes the model, after sessions were built with others. -/
def Takes (before : List String) (provider : String) : Prop :=
  provider ∈ offer.available ∧
    ∃ active, offer.active before provider = .ok active ∧ provider ∈ active

/-- The providers among those tried with which sessions are built. -/
def built (tried : List String) : List String :=
  tried.filter fun provider => offer.available.contains provider

/-- Why a provider does not take the model. -/
def reason (before : List String) (provider : String) : String :=
  if provider ∈ offer.available then
    match offer.active before provider with
    | .error fault => fault.text
    | .ok active => "session fell back to " ++ quotedNames active
  else "not available in this onnxruntime build"

/-- That none of the providers that were tried one after the other takes the model, and that each
left a failed attempt with its reason. -/
structure Declined (before tried : List String) (attempts : List ProviderAttempt) : Prop where
  providers : attempts.map ProviderAttempt.provider = tried
  each : ∀ passed provider later, tried = passed ++ provider :: later →
    ¬ offer.Takes (before ++ offer.built passed) provider ∧
    attempts[passed.length]? =
      some ⟨provider, some (offer.reason (before ++ offer.built passed) provider)⟩

theorem built_cons (provider : String) (tried : List String) :
    offer.built (provider :: tried) = offer.built [provider] ++ offer.built tried :=
  List.filter_append [provider] tried

namespace Declined

variable {offer} {before : List String}

theorem nil : offer.Declined before [] [] :=
  ⟨rfl, fun passed _ _ split => absurd split (by simp)⟩

theorem cons {provider : String} (declines : ¬ offer.Takes before provider) {tried : List String}
    {attempts : List ProviderAttempt}
    (rest : offer.Declined (before ++ offer.built [provider]) tried attempts) :
    offer.Declined before (provider :: tried)
      (⟨provider, some (offer.reason before provider)⟩ :: attempts) := by
  refine ⟨congrArg (provider :: ·) rest.providers, fun passed other later split => ?_⟩
  cases passed with
  | nil =>
      cases split
      have none : before ++ offer.built [] = before := List.append_nil before
      rw [none]
      exact ⟨declines, rfl⟩
  | cons first passed =>
      cases split
      rw [built_cons, ← List.append_assoc]
      exact rest.each passed other later rfl

end Declined

end Offer

section Sessions

variable {σ : Type} (built : σ → List String)

/-- That a session says at any time which providers it uses and what its graph declares, and that
asking it builds no other one. -/
structure BuiltSession.Tells (session : BuiltSession σ) (active : List String)
    (bound : BackendSession σ) : Prop where
  providers : ∀ scene, ∃ after, session.providers.perform scene = (.ok active, after) ∧
    built after.world = built scene.world
  declared : ∀ scene, ∃ after, session.declared.perform scene = (.ok bound, after) ∧
    built after.world = built scene.world

/-- What comes of building a session, and what is offered: the same fault, or a session that tells
the providers. -/
inductive Offer.Comes : Except Fault (BuiltSession σ) → Except Fault (List String) → Prop
  | failed (fault : Fault) : Comes (.error fault) (.error fault)
  | made {session : BuiltSession σ} {active : List String} {bound : BackendSession σ}
      (tells : session.Tells built active bound) : Comes (.ok session) (.ok active)

end Sessions

namespace Backend

variable {σ : Type} {backend : Backend σ} {path : Path} {level : Optimization}
  {built : σ → List String} {offer : Offer}

/-- That a backend makes an offer for a model, where a world tells the providers with which sessions
were built in it: the providers can be listed, and building a session is noted whatever comes of
it. -/
structure Makes (backend : Backend σ) (path : Path) (level : Optimization)
    (built : σ → List String) (offer : Offer) : Prop where
  lists : ∀ scene, ∃ after, backend.available.perform scene = (.ok offer.available, after) ∧
    built after.world = built scene.world
  builds : ∀ provider scene, ∃ outcome after,
    (backend.create path level provider).perform scene = (outcome, after) ∧
    Offer.Comes built outcome (offer.active (built scene.world) provider) ∧
    built after.world = built scene.world ++ [provider]

/-- That a session is what the backend built with a provider, after it had built some others, and
that it uses the provider and declares what is bound. -/
def Built (backend : Backend σ) (path : Path) (level : Optimization) (built : σ → List String)
    (before : List String) (provider : String) (session : BuiltSession σ)
    (bound : BackendSession σ) : Prop :=
  ∃ active scene after, built scene.world = before ∧
    (backend.create path level provider).perform scene = (.ok session, after) ∧
    session.Tells built active bound ∧ provider ∈ active

/-! ## One provider -/

/-- A provider is tried without a fault: it takes the model with the session that is built, or there
is a reason why not. -/
theorem perform_tryProvider (makes : backend.Makes path level built offer) (provider : String)
    (scene : Scene σ) :
    ∃ outcome after,
      (backend.tryProvider path level provider).perform scene = (.ok outcome, after) ∧
      built after.world = built scene.world ++ offer.built [provider] ∧
      ((∃ session bound, outcome = .ok session ∧ offer.Takes (built scene.world) provider ∧
          backend.Built path level built (built scene.world) provider session bound) ∨
        (outcome = .error (offer.reason (built scene.world) provider) ∧
          ¬ offer.Takes (built scene.world) provider)) := by
  obtain ⟨listed, lists, unchanged⟩ := makes.lists scene
  unfold tryProvider
  rw [Action.perform_bind_of_ok lists]
  by_cases available : provider ∈ offer.available
  · have one : offer.built [provider] = [provider] := by simp [Offer.built, available]
    obtain ⟨outcome, after, builds, comes, noted⟩ := makes.builds provider listed
    rw [unchanged] at comes noted
    have tried : (backend.create path level provider).attempt.perform listed =
        (.ok outcome, after) := by
      rw [Action.perform_attempt, builds]
    rw [if_neg (by simpa using available), one, Action.perform_bind_of_ok tried]
    generalize offered : offer.active (built scene.world) provider = result at comes
    cases comes with
    | failed fault =>
        refine ⟨_, after, rfl, noted, .inr ⟨?_, fun takes => ?_⟩⟩
        · rw [Offer.reason, if_pos available, offered]
        · obtain ⟨-, active, succeeded, -⟩ := takes
          cases offered.symm.trans succeeded
    | @made session active bound tells =>
        dsimp only
        obtain ⟨told, asked, same⟩ := tells.providers after
        rw [Action.perform_bind_of_ok asked]
        rw [← same] at noted
        by_cases used : provider ∈ active
        · rw [if_pos (by simpa using used)]
          exact ⟨_, told, rfl, noted, .inl ⟨session, bound, rfl, ⟨available, _, offered, used⟩,
            active, listed, after, unchanged, builds, tells, used⟩⟩
        · rw [if_neg (by simpa using used)]
          refine ⟨_, told, rfl, noted, .inr ⟨?_, fun takes => ?_⟩⟩
          · rw [Offer.reason, if_pos available, offered]
          · obtain ⟨-, _, succeeded, used'⟩ := takes
            cases offered.symm.trans succeeded
            exact used used'
  · have none : offer.built [provider] = [] := by simp [Offer.built, available]
    rw [if_pos (by simpa using available), none, List.append_nil]
    refine ⟨_, listed, rfl, unchanged, .inr ⟨?_, fun takes => available takes.1⟩⟩
    rw [Offer.reason, if_neg available]

/-! ## Providers in order -/

/-- The fault of a model that no provider takes. -/
def refusal (path : Path) (attempts : List ProviderAttempt) : Fault :=
  .load path.text
    (.noProvider (attempts.map fun attempt => (attempt.provider, attempt.failure.getD ""))) attempts

/-- What negotiating over providers in an order comes to, where sessions were built with some
providers before, and with the providers of all sessions that are built by then.  The first provider
that takes the model has a session, which is bound to it, and whose attempts are the earlier ones,
the failed ones and its own; where none takes it, all attempts are failed ones. -/
inductive Negotiated (backend : Backend σ) (path : Path) (level : Optimization)
    (built : σ → List String) (offer : Offer) (before order : List String)
    (earlier : List ProviderAttempt) (outcome : Except Fault (InferenceSession σ))
    (after : List String) : Prop
  | taken (tried : List String) (provider : String) (rest : List String)
      (failed : List ProviderAttempt) (session : BuiltSession σ) (bound : BackendSession σ)
      (split : order = tried ++ provider :: rest)
      (declined : offer.Declined before tried failed)
      (takes : offer.Takes (before ++ offer.built tried) provider)
      (own : backend.Built path level built (before ++ offer.built tried) provider session bound)
      (returned : outcome = .ok ⟨bound, path, provider, earlier ++ failed ++ [⟨provider, none⟩]⟩)
      (noted : after = before ++ offer.built (tried ++ [provider]))
  | exhausted (failed : List ProviderAttempt)
      (declined : offer.Declined before order failed)
      (refused : outcome = .error (refusal path (earlier ++ failed)))
      (noted : after = before ++ offer.built order)

/-- A provider that does not take the model, in front of others. -/
theorem Negotiated.cons {before order after : List String} {provider : String}
    (declines : ¬ offer.Takes before provider) {earlier : List ProviderAttempt}
    {outcome : Except Fault (InferenceSession σ)}
    (rest : backend.Negotiated path level built offer (before ++ offer.built [provider]) order
      (earlier ++ [⟨provider, some (offer.reason before provider)⟩]) outcome after) :
    backend.Negotiated path level built offer before (provider :: order) earlier outcome after := by
  cases rest with
  | taken tried last rest failed session bound split declined takes own returned noted =>
      rw [List.append_assoc, ← offer.built_cons] at takes own noted
      refine .taken (provider :: tried) last rest _ session bound
        (congrArg (provider :: ·) split) (declined.cons declines) takes own (returned.trans ?_) noted
      simp
  | exhausted failed declined refused noted =>
      rw [List.append_assoc, ← offer.built_cons] at noted
      refine .exhausted _ (declined.cons declines) (refused.trans ?_) noted
      simp

/-- Negotiating over providers, whatever was tried and built before. -/
theorem perform_negotiate (makes : backend.Makes path level built offer) (order : List String) :
    ∀ (earlier : List ProviderAttempt) (scene : Scene σ), ∃ outcome after,
      (backend.negotiate path level order earlier).perform scene = (outcome, after) ∧
      backend.Negotiated path level built offer (built scene.world) order earlier outcome
        (built after.world) := by
  induction order with
  | nil =>
      intro earlier scene
      exact ⟨_, scene, rfl, .exhausted [] .nil (by rw [List.append_nil]; rfl)
        (List.append_nil _).symm⟩
  | cons provider rest ih =>
      intro earlier scene
      obtain ⟨outcome, tried, tries, noted, ⟨session, bound, rfl, takes, own⟩ |
        ⟨rfl, declines⟩⟩ := perform_tryProvider makes provider scene
      · have told := own
        obtain ⟨_, _, _, _, _, tells, _⟩ := told
        unfold negotiate
        dsimp only
        rw [Action.perform_bind_of_ok tries]
        dsimp only
        rw [Action.perform_bind_of_ok (Action.perform_log _ _ _ tried),
          Action.perform_bind_of_ok (Action.perform_log _ _ _ _)]
        obtain ⟨after, declares, same⟩ := tells.declared _
        rw [Action.perform_bind_of_ok declares]
        have none : built scene.world ++ offer.built [] = built scene.world := List.append_nil _
        refine ⟨_, after, rfl, .taken [] provider rest [] session bound rfl .nil
          (none.symm ▸ takes) (none.symm ▸ own) ?_ (same.trans noted)⟩
        rw [List.append_nil]
      · unfold negotiate
        dsimp only
        rw [Action.perform_bind_of_ok tries]
        dsimp only
        rw [Action.perform_bind_of_ok (Action.perform_log _ _ _ tried)]
        refine (ih _ _).imp fun outcome => Exists.imp fun after =>
          And.imp_right fun negotiated => Negotiated.cons declines ?_
        rw [← noted]
        exact negotiated

/-- **Loading a model file tries the preferred providers other than the baseline in their order, and
then the baseline once, and the first provider that takes the model has it.** -/
theorem load_negotiates (makes : backend.Makes path level built offer)
    (isFile : Path → Action σ Bool) {scene found : Scene σ}
    (present : (isFile path).perform scene = (.ok true, found)) (value : Value)
    (named : Optimization.parse value = .ok level) (preferred : List String) :
    ∃ outcome after, (backend.load isFile path preferred value).perform scene = (outcome, after) ∧
      backend.Negotiated path level built offer (built found.world)
        (preferred.filter (· != baseline) ++ [baseline]) [] outcome (built after.world) := by
  obtain ⟨outcome, after, ends, negotiated⟩ := perform_negotiate makes (order preferred) [] found
  refine ⟨outcome, after, ?_, negotiated⟩
  unfold load
  rw [Action.perform_bind_of_ok present, named]
  exact ends

/-- What is offered by a backend that builds no session with one of its providers the first time,
and whose sessions with another one fall back to the baseline. -/
def hesitant : Offer where
  available := ["CoreMLExecutionProvider", "DmlExecutionProvider", baseline]
  active before provider :=
    if provider = "CoreMLExecutionProvider" ∧ provider ∉ before then
      .error (.outside .backend "busy")
    else if provider = "DmlExecutionProvider" then .ok [baseline]
    else .ok [provider]

/-- The backend that offers this; its world are the providers with which sessions were built. -/
def hesitating : Backend (List String) where
  available := pure hesitant.available
  create _ _ provider := do
    let before ← Action.world
    Action.setWorld (before ++ [provider])
    let active ← Action.ofExcept (hesitant.active before provider)
    return ⟨pure active, pure [], pure [], fun _ _ => pure []⟩

theorem hesitating_makes (path : Path) (level : Optimization) :
    hesitating.Makes path level id hesitant where
  lists scene := ⟨scene, rfl, rfl⟩
  builds provider scene := by
    cases active : hesitant.active scene.world provider with
    | error fault =>
        refine ⟨.error fault, ⟨scene.world ++ [provider], scene.journal⟩, ?_, ?_, rfl⟩
        · simp [hesitating, active, Except.map]
        · exact active ▸ .failed fault
    | ok used =>
        refine ⟨.ok ⟨pure used, pure [], pure [], fun _ _ => pure []⟩,
          ⟨scene.world ++ [provider], scene.journal⟩, ?_, ?_, rfl⟩
        · simp [hesitating, active, Except.map]
        · exact active ▸ .made ⟨fun scene => ⟨scene, rfl, rfl⟩, fun scene => ⟨scene, rfl, rfl⟩⟩

/-- The provider that is not available and the one that falls back are passed over, and the one that
fails at first is bound at its second place. -/
theorem hesitating_negotiates :
    let path : Path := ⟨0, [.ofString "models", .ofString "chat.onnx"]⟩
    let ended := (hesitating.load (fun _ => pure true) path
      [baseline, "CUDAExecutionProvider", "CoreMLExecutionProvider", "DmlExecutionProvider",
        "CoreMLExecutionProvider", "DmlExecutionProvider"] (.text "basic")).perform ⟨[], ⟨0, []⟩⟩
    ended.1.map InferenceSession.attempts = .ok
        [⟨"CUDAExecutionProvider", some "not available in this onnxruntime build"⟩,
          ⟨"CoreMLExecutionProvider", some "busy"⟩,
          ⟨"DmlExecutionProvider", some "session fell back to ['CPUExecutionProvider']"⟩,
          ⟨"CoreMLExecutionProvider", none⟩] ∧
      ended.2.world =
        ["CoreMLExecutionProvider", "DmlExecutionProvider", "CoreMLExecutionProvider"] ∧
      hesitating.Negotiated path .basic id hesitant []
        ["CUDAExecutionProvider", "CoreMLExecutionProvider", "DmlExecutionProvider",
          "CoreMLExecutionProvider", "DmlExecutionProvider", baseline]
        [] ended.1 ended.2.world := by
  refine ⟨by rfl, by rfl, ?_⟩
  obtain ⟨outcome, after, ends, negotiated⟩ :=
    load_negotiates (hesitating_makes ⟨0, [.ofString "models", .ofString "chat.onnx"]⟩ .basic)
      (fun _ => pure true) rfl (.text "basic") rfl
      [baseline, "CUDAExecutionProvider", "CoreMLExecutionProvider", "DmlExecutionProvider",
        "CoreMLExecutionProvider", "DmlExecutionProvider"]
  rw [ends]
  exact negotiated

end Backend

end RecallChat
