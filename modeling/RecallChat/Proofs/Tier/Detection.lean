import RecallChat.Proofs.Recording
import RecallChat.Tier.Detection

/-!
# Detection as readings see it

A reading of the memory is a value or a fault, and `Tier.ofReading` says what detection makes of it.
Every reading that is no positive finite number stands for the smallest tier, but for two kinds that
detection lets through as faults (`Tier.Escapes`): a fault of a kind that it does not expect, and an
integer beyond the range of floating point values, even a positive one.

A selector takes readings until one gives a tier and then keeps it, whatever is asked of it later
(`Selector.Settles`, `Selector.answers_settle`).  Where no reading escapes, no call fails, and there
is one reading at most (`Selector.Settles.steady`).
-/

set_option autoImplicit false

namespace RecallChat.Tier

open RecallChat.Action

variable {σ : Type}

/-! ## One reading -/

/-- What detection makes of a reading in gigabytes. -/
def ofReading : Except Fault Value → Except Fault Tier
  | .error fault => if isTolerated fault then .ok .micro else .error fault
  | .ok value =>
    match value.number? with
    | none => .ok .micro
    | some number =>
      match number.toReal? with
      | none => .error (.tooLarge "number of gigabytes too large")
      | some size =>
        if size.isFinite && !number.atMost (.integer 0) then .ok (forMemory number)
        else .ok .micro

/-- The readings that detection lets through as faults. -/
inductive Escapes : Except Fault Value → Prop
  | unexpected {fault : Fault} (untolerated : isTolerated fault = false) : Escapes (.error fault)
  | boundless {value : Value} {n : Int} (isInteger : value.number? = some (.integer n))
      (beyond : Number.realOfInt? n = none) : Escapes (.ok value)

/-- A reading escapes, or it gives a tier. -/
theorem escapes_or_ofReading (reading : Except Fault Value) :
    (Escapes reading ∧ ∃ fault, ofReading reading = .error fault) ∨
      (¬ Escapes reading ∧ ∃ tier, ofReading reading = .ok tier) := by
  cases reading with
  | error fault =>
      cases tolerated : isTolerated fault with
      | false => exact .inl ⟨.unexpected tolerated, fault, by simp [ofReading, tolerated]⟩
      | true =>
          refine .inr ⟨fun escapes => ?_, .micro, by simp [ofReading, tolerated]⟩
          cases escapes with
          | unexpected untolerated => simp [tolerated] at untolerated
  | ok value =>
      cases isNumber : value.number? with
      | none =>
          refine .inr ⟨fun escapes => ?_, .micro, by simp [ofReading, isNumber]⟩
          cases escapes with
          | boundless isInteger => simp [isNumber] at isInteger
      | some number =>
          cases isReal : number.toReal? with
          | none =>
              cases number with
              | integer n =>
                  exact .inl ⟨.boundless isNumber isReal, .tooLarge "number of gigabytes too large",
                    by simp [ofReading, isNumber, isReal]⟩
              | real x => cases isReal
          | some size =>
              refine .inr ⟨fun escapes => ?_, ?_⟩
              · cases escapes with
                | boundless isInteger beyond =>
                    rw [isNumber] at isInteger
                    cases isInteger
                    rw [Number.toReal?, beyond] at isReal
                    cases isReal
              · simp only [ofReading, isNumber, isReal]
                split
                · exact ⟨_, rfl⟩
                · exact ⟨_, rfl⟩

/-- What is no number is refused, in a way that detection expects. -/
theorem believable_of_no_number {value : Value} (noNumber : value.number? = none) :
    ∃ fault, believable value = .error fault ∧ isTolerated fault = true := by
  cases value with
  | boolean value => cases noNumber
  | integer value => cases noNumber
  | real value => cases noNumber
  | _ => exact ⟨_, rfl, rfl⟩

/-- A number is refused unless it is positive and finite; one beyond the range of floating point
values cannot be tested. -/
theorem believable_of_number {value : Value} {number : Number}
    (isNumber : value.number? = some number) :
    believable value =
      match number.toReal? with
      | none => .error (.tooLarge "number of gigabytes too large")
      | some size =>
        if !size.isFinite || number.atMost (.integer 0)
        then .error (.detection (.unbelievable value.shown)) else .ok number := by
  cases value with
  | boolean value => cases isNumber; rfl
  | integer value => cases isNumber; rfl
  | real value => cases isNumber; rfl
  | _ => cases isNumber

/-- What `believable` refuses is taken for the smallest tier, unless the reading escapes. -/
theorem ofReading_eq (reading : Except Fault Value) :
    ofReading reading =
      match reading >>= believable with
      | .ok number => .ok (forMemory number)
      | .error fault => if isTolerated fault then .ok .micro else .error fault := by
  cases reading with
  | error fault => rfl
  | ok value =>
      change ofReading (.ok value) =
        match believable value with
        | .ok number => .ok (forMemory number)
        | .error fault => if isTolerated fault then .ok .micro else .error fault
      cases isNumber : value.number? with
      | none =>
          obtain ⟨fault, refused, tolerated⟩ := believable_of_no_number isNumber
          rw [refused, ofReading, isNumber]
          simp only [tolerated, if_true]
      | some number =>
          rw [believable_of_number isNumber]
          cases isReal : number.toReal? with
          | none => simp only [ofReading, isNumber, isReal]; rfl
          | some size =>
              simp only [ofReading, isNumber, isReal]
              cases size.isFinite <;> cases number.atMost (.integer 0) <;> rfl

/-- Detection answers its one reading as `ofReading` says, and only logs besides. -/
theorem perform_detect (reader : Action σ Value) (scene : Scene σ) :
    ∃ journal, (detect reader).perform scene =
      (ofReading (reader.perform scene).1, ⟨(reader.perform scene).2.world, journal⟩) := by
  have tried : (attempt (do Action.ofExcept (believable (← reader)))).perform scene =
      (.ok ((reader.perform scene).1 >>= believable), (reader.perform scene).2) := by
    rw [perform_attempt, perform_bind]
    rcases reader.perform scene with ⟨_ | value, after⟩
    · rfl
    · simp only [perform_ofExcept]
      rfl
  rw [detect, perform_bind_of_ok tried, ofReading_eq]
  cases (reader.perform scene).1 >>= believable with
  | ok number => exact ⟨_, rfl⟩
  | error fault =>
      dsimp only
      split
      · exact ⟨_, rfl⟩
      · exact ⟨_, rfl⟩

theorem detect_mirrors {τ : Type} {part : τ → σ} {outer : Action τ Value} {inner : Action σ Value}
    (mirrors : Mirrors part outer inner) : Mirrors part (detect outer) (detect inner) := by
  refine .bind (.attempt (.bind mirrors fun _ => .ofExcept _)) fun reading => ?_
  cases reading with
  | ok number => exact .bind (.log _ _ _) fun _ => .pure _
  | error fault => exact .ite _ (.bind (.log _ _ _) fun _ => .pure _) (.throw _)

/-! ## Many questions -/

namespace Selector

/-- The answers of a selector to as many questions; a fault leaves it as it is. -/
def asks (reader : Action σ Value) : Nat → Selector → Action σ (List (Except Fault Tier))
  | 0, _ => pure []
  | count + 1, selector => do
    match ← (selector.detect reader).attempt with
    | .ok (tier, next) => return .ok tier :: (← next.asks reader count)
    | .error fault => return .error fault :: (← selector.asks reader count)

/-- The answers of a new selector. -/
def answers (override : Option Tier) (reader : Action σ Value) (count : Nat) :
    Action σ (List (Except Fault Tier)) := do
  (← make override).asks reader count

theorem asks_mirrors {τ : Type} {part : τ → σ} {outer : Action τ Value} {inner : Action σ Value}
    (mirrors : Mirrors part outer inner) (count : Nat) (selector : Selector) :
    Mirrors part (selector.asks outer count) (selector.asks inner count) := by
  induction count generalizing selector with
  | zero => exact .pure _
  | succ count ih =>
      have detected : Mirrors part (selector.detect outer) (selector.detect inner) := by
        cases known : selector.known with
        | some tier => simpa only [detect, known] using .pure _
        | none => simpa only [detect, known] using .bind (detect_mirrors mirrors) fun _ => .pure _
      refine .bind (.attempt detected) fun answer => ?_
      cases answer with
      | ok found => exact .bind (ih found.2) fun _ => .pure _
      | error fault => exact .bind (ih selector) fun _ => .pure _

theorem answers_mirrors {τ : Type} {part : τ → σ} {outer : Action τ Value} {inner : Action σ Value}
    (override : Option Tier) (mirrors : Mirrors part outer inner) (count : Nat) :
    Mirrors part (answers override outer count) (answers override inner count) := by
  refine .bind ?_ fun selector => asks_mirrors mirrors count selector
  cases override with
  | none => exact .pure _
  | some tier => exact .bind (.log _ _ _) fun _ => .pure _

/-- The readings that a selector takes over a number of questions, and its answers.  With a known
tier it takes none; otherwise it takes one a question until one does not escape. -/
inductive Settles :
    Option Tier → Nat → List (Except Fault Value) → List (Except Fault Tier) → Prop
  | known (tier : Tier) (count : Nat) :
      Settles (some tier) count [] (List.replicate count (.ok tier))
  | unsettled {readings : List (Except Fault Value)}
      (escape : ∀ reading ∈ readings, Escapes reading) :
      Settles none readings.length readings (readings.map ofReading)
  | settled {failed : List (Except Fault Value)} {reading : Except Fault Value} {tier : Tier}
      (rest : Nat) (escape : ∀ reading ∈ failed, Escapes reading)
      (settles : ofReading reading = .ok tier) :
      Settles none (failed.length + (rest + 1)) (failed ++ [reading])
        (failed.map ofReading ++ List.replicate (rest + 1) (.ok tier))

/-- One more reading that escapes, before the others. -/
theorem Settles.cons {reading : Except Fault Value} {count : Nat}
    {readings : List (Except Fault Value)} {answers : List (Except Fault Tier)}
    (escapes : Escapes reading) (settles : Settles none count readings answers) :
    Settles none (count + 1) (reading :: readings) (ofReading reading :: answers) := by
  cases settles with
  | unsettled escape => exact @Settles.unsettled (reading :: readings) (by simp_all)
  | @settled failed last tier rest escape settles =>
      have longer := @Settles.settled (reading :: failed) last tier rest (by simp_all) settles
      rwa [List.length_cons, Nat.add_right_comm] at longer

/-- Where no reading escapes, there is one at most, and all answers are the same tier. -/
theorem Settles.steady {override : Option Tier} {count : Nat}
    {readings : List (Except Fault Value)} {answers : List (Except Fault Tier)}
    (settles : Settles override count readings answers)
    (stay : ∀ reading ∈ readings, ¬ Escapes reading) :
    readings.length ≤ 1 ∧ ∃ tier, answers = List.replicate count (.ok tier) ∧
      ∀ reading ∈ readings, ofReading reading = .ok tier := by
  cases settles with
  | known tier count => exact ⟨Nat.zero_le _, tier, rfl, by simp⟩
  | unsettled escape =>
      cases readings with
      | nil => exact ⟨Nat.zero_le _, .micro, rfl, by simp⟩
      | cons reading readings =>
          exact absurd (escape reading (by simp)) (stay reading (by simp))
  | @settled failed reading tier rest escape settles =>
      cases failed with
      | nil => exact ⟨Nat.le_refl _, tier, by simp, by simpa using settles⟩
      | cons first failed => exact absurd (escape first (by simp)) (stay first (by simp))

theorem perform_asks_known (reader : Action σ Value) (tier : Tier) (count : Nat)
    (scene : Scene σ) :
    (asks reader count ⟨some tier⟩).perform scene =
      (.ok (List.replicate count (.ok tier)), scene) := by
  induction count with
  | zero => rfl
  | succ count ih =>
      have asked : ((detect ⟨some tier⟩ reader).attempt : Action σ _).perform scene =
          (.ok (.ok (tier, ⟨some tier⟩)), scene) := rfl
      rw [asks, perform_bind_of_ok asked]
      dsimp only
      rw [perform_bind_of_ok ih]
      rfl

/-- The first question to a selector that knows no tier, with what it answers. -/
theorem perform_detect_unknown (reader : Action σ Value)
    (scene : Scene (Recorded (Except Fault Value) σ)) :
    ∃ reading inner journal,
      (detect ⟨none⟩ (reader.recorded id)).attempt.perform scene =
        (.ok ((ofReading reading).map fun tier => (tier, ⟨some tier⟩)),
          ⟨⟨inner, scene.world.requests ++ [reading]⟩, journal⟩) := by
  obtain ⟨journal, detected⟩ := Tier.perform_detect (reader.recorded id) scene
  rcases performed : reader.perform ⟨scene.world.inner, scene.journal⟩ with ⟨reading, after⟩
  rw [perform_recorded, performed] at detected
  refine ⟨reading, after.world, journal, ?_⟩
  rw [perform_attempt, detect, perform_bind, detected]
  cases ofReading reading <;> rfl

/-- A selector that knows no tier goes on as the readings let it. -/
theorem perform_asks_unknown (reader : Action σ Value) (count : Nat)
    (scene : Scene (Recorded (Except Fault Value) σ)) :
    ∃ answers readings inner journal,
      (asks (reader.recorded id) count ⟨none⟩).perform scene =
        (.ok answers, ⟨⟨inner, scene.world.requests ++ readings⟩, journal⟩) ∧
      Settles none count readings answers := by
  induction count generalizing scene with
  | zero =>
      exact ⟨[], [], scene.world.inner, scene.journal, by rw [List.append_nil]; rfl,
        @Settles.unsettled [] (by simp)⟩
  | succ count ih =>
      obtain ⟨reading, inner, journal, asked⟩ := perform_detect_unknown reader scene
      rw [asks, perform_bind_of_ok asked]
      rcases escapes_or_ofReading reading with ⟨escapes, fault, failed⟩ | ⟨-, tier, found⟩
      · -- the fault goes out, and the next question finds the same selector
        obtain ⟨answers, readings, inner', journal', rest, settles⟩ :=
          ih ⟨⟨inner, scene.world.requests ++ [reading]⟩, journal⟩
        refine ⟨ofReading reading :: answers, reading :: readings, inner', journal', ?_,
          settles.cons escapes⟩
        rw [failed]
        simp only [Except.map]
        rw [perform_bind_of_ok rest, List.append_assoc]
        rfl
      · -- from here on the selector knows the tier
        have settles : Settles none (count + 1) [reading] (List.replicate (count + 1) (.ok tier)) := by
          simpa using @Settles.settled [] reading tier count (by simp) found
        refine ⟨_, [reading], inner, journal, ?_, settles⟩
        rw [found]
        simp only [Except.map]
        rw [perform_bind_of_ok (perform_asks_known _ tier count _)]
        rfl

theorem perform_answers (override : Option Tier) (reader : Action σ Value) (count : Nat)
    (scene : Scene (Recorded (Except Fault Value) σ)) :
    ∃ given readings inner journal,
      (answers override (reader.recorded id) count).perform scene =
        (.ok given, ⟨⟨inner, scene.world.requests ++ readings⟩, journal⟩) ∧
      Settles override count readings given := by
  cases override with
  | some tier =>
      obtain ⟨journal, made⟩ : ∃ journal, (make (some tier)).perform scene =
          (.ok ⟨some tier⟩, ⟨scene.world, journal⟩) := ⟨_, rfl⟩
      refine ⟨_, [], scene.world.inner, journal, ?_, .known tier count⟩
      rw [answers, perform_bind_of_ok made, perform_asks_known, List.append_nil]
  | none => exact perform_asks_unknown reader count scene

/-- **However often a selector is asked, its readings and answers are those of one that settles**:
it takes readings while they escape, and after the first one that gives a tier no more.  A selector
whose readings never escape never fails, takes one reading at most, and always gives one tier. -/
theorem answers_settle (override : Option Tier) (reader : Action σ Value) (count : Nat) (inner : σ)
    (journal : Journal) :
    ∃ given after,
      (answers override (reader.recorded id) count).perform ⟨⟨inner, []⟩, journal⟩ =
        (.ok given, after) ∧
      (answers override reader count).perform ⟨inner, journal⟩ =
        (.ok given, sceneOf Recorded.inner after) ∧
      Settles override count after.world.requests given ∧
      ((∀ reading ∈ after.world.requests, ¬ Escapes reading) →
        after.world.requests.length ≤ 1 ∧ ∃ tier, given = List.replicate count (.ok tier) ∧
          ∀ reading ∈ after.world.requests, ofReading reading = .ok tier) := by
  obtain ⟨given, readings, inner', journal', performed, settles⟩ :=
    perform_answers override reader count ⟨⟨inner, []⟩, journal⟩
  have plain := answers_mirrors override (.recorded id reader) count ⟨⟨inner, []⟩, journal⟩
  rw [performed] at plain
  exact ⟨given, _, performed, plain, settles, settles.steady⟩

/-- A positive number of gigabytes beyond the range of floating point values. -/
def enormous : Value := .integer (10 ^ 400)

theorem believable_enormous :
    believable enormous = .error (.tooLarge "number of gigabytes too large") := by
  have beyond : Number.realOfInt? (10 ^ 400) = none := by decide +kernel
  have isNumber : enormous.number? = some (.integer (10 ^ 400)) := rfl
  rw [believable_of_number isNumber]
  simp only [Number.toReal?, beyond]

/-- A positive number of gigabytes that escapes: two questions read it twice and fail twice. -/
theorem enormous_fails :
    (answers none ((pure enormous : Action Unit Value).recorded id) 2).perform
        ⟨⟨(), []⟩, .empty⟩ =
      (.ok (List.replicate 2 (.error (.tooLarge "number of gigabytes too large"))),
        ⟨⟨(), List.replicate 2 (.ok enormous)⟩, .empty⟩) := by
  have detected (scene : Scene (Recorded (Except Fault Value) Unit)) :
      (Tier.detect ((pure enormous : Action Unit Value).recorded id)).perform scene =
        (.error (.tooLarge "number of gigabytes too large"),
          ⟨⟨(), scene.world.requests ++ [.ok enormous]⟩, scene.journal⟩) := by
    simp [Tier.detect, believable_enormous, isTolerated, Fault.tooLarge, OutsideKind.isSystem,
      OutsideKind.isRuntime, OutsideKind.isValue]
  simp [answers, make, asks, detect, detected, Except.map]

end Selector

end RecallChat.Tier
