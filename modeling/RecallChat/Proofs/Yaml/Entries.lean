import RecallChat.Proofs.Outcome
import RecallChat.Yaml.Document

/-!
# The values of a document

No document is a tuple, and no value of an entry of a document is one (`Yaml.read_untupled`): no
scalar is a tuple, and a collection becomes a list, a set or a map.  The pairs in a list of pairs are
tuples, but they stand one level further in and are no nodes of their own.

Building is followed with what every step keeps (`Building.Keeps`), and unfolding with what every
step yields (`Yields`).
-/

set_option autoImplicit false

namespace RecallChat

/-- That a value is no tuple, and that none of its entries has one as its value. -/
structure Value.Untupled (value : Value) : Prop where
  noTuple : ∀ items, value ≠ .tuple items
  entries : ∀ entries, value = .map entries → ∀ entry ∈ entries, ∀ items, entry.2 ≠ .tuple items

namespace Yaml

/-! ## Scalars -/

theorem timestamp_untupled {text : List Char} {value : Value} (read : timestamp text = .ok value) :
    value.Untupled := by
  unfold timestamp at read
  split at read
  · cases read
  · next year month day time _ =>
    dsimp only at read
    split at read
    · next found =>
      cases read
      obtain ⟨date, _, made⟩ := Option.bind_eq_some_iff.mp found
      cases time with
      | none =>
          cases made
          exact ⟨nofun, nofun⟩
      | some parts =>
          obtain ⟨moment, _, rfl⟩ := Option.map_eq_some_iff.mp made
          exact ⟨nofun, nofun⟩
    · cases read

theorem characterValue_untupled {kind : String} {text : List Char} {value : Value}
    (read : characterValue kind text = .ok value) : value.Untupled := by
  unfold characterValue at read
  split at read
  · obtain ⟨number, _, rfl⟩ := Outcome.map_eq_ok.mp read
    exact ⟨nofun, nofun⟩
  · obtain ⟨number, _, rfl⟩ := Outcome.map_eq_ok.mp read
    exact ⟨nofun, nofun⟩
  · obtain ⟨bytes, _, rfl⟩ := Outcome.map_eq_ok.mp read
    exact ⟨nofun, nofun⟩
  · exact timestamp_untupled read
  · cases read
    exact ⟨nofun, nofun⟩

/-- No scalar is a tuple or a map. -/
theorem scalarValue_untupled {kind : String} {text : Text.CodePoints} {value : Value}
    (read : scalarValue kind text = .ok value) : value.Untupled := by
  unfold scalarValue at read
  split at read
  · unfold truthValue at read
    dsimp only at read
    split at read
    · cases read
      exact ⟨nofun, nofun⟩
    · cases read
  · cases read
    unfold Value.ofPoints
    split <;> exact ⟨nofun, nofun⟩
  · exact characterValue_untupled read

/-! ## Tables of nodes -/

section Table

variable {α : Type} {table : Array (Option α)} {id other : NodeId} {entry found : α}

/-- A table in which one entry is set has that one and old ones. -/
theorem join_setIfInBounds
    (there : ((table.setIfInBounds id (some entry))[other]?).join = some found) :
    found = entry ∨ (table[other]?).join = some found := by
  rw [Array.getElem?_setIfInBounds] at there
  split at there
  · split at there
    · exact .inl (Option.some.inj there).symm
    · cases there
  · exact .inr there

theorem join_replicate (count : Nat) :
    ((Array.replicate count (none : Option α))[id]?).join = none := by
  rw [Array.getElem?_replicate]
  split <;> rfl

end Table

/-! ## Building -/

/-- That no scalar that was built is a tuple. -/
def Plain (built : Array (Option Built)) : Prop :=
  ∀ (id : NodeId) (value : Value) (isNamedNaN : Bool),
    (built[id]?).join = some (.scalar value isNamedNaN) → value.Untupled

/-- That a step of building builds no tuple. -/
def Building.Keeps {α : Type} (step : Building α) : Prop :=
  ∀ shop after : Workshop, ∀ result, step.run shop = .ok (result, after) → Plain shop.built →
    Plain after.built

namespace Building.Keeps

variable {α β : Type} {step : Building α} {next : α → Building β}

theorem pure (value : α) : Keeps (pure value : Building α) := by
  intro shop after result made plain
  cases made
  exact plain

theorem throw (trouble : Trouble) : Keeps (throw trouble : Building α) := by
  intro shop after result made
  cases made

theorem bind (first : Keeps step) (rest : ∀ value, Keeps (next value)) : Keeps (step >>= next) := by
  intro shop after result made plain
  obtain ⟨⟨value, middle⟩, started, made⟩ := Outcome.bind_eq_ok.mp made
  exact rest value middle after result made (first shop middle value started plain)

theorem bind_get {next : Workshop → Building α}
    (rest : ∀ shop : Workshop, Plain shop.built → Keeps (next shop)) :
    Keeps ((get : Building Workshop) >>= next) :=
  fun shop after result made plain => rest shop plain shop after result made plain

theorem set {shop : Workshop} (plain : Plain shop.built) : Keeps (set shop : Building PUnit) := by
  intro before after result made _
  cases made
  exact plain

/-- A step that changes the graph or the list of waiting collections builds nothing. -/
theorem modify (f : Workshop → Workshop) (same : ∀ shop, (f shop).built = shop.built) :
    Keeps (modify f : Building Unit) := by
  intro shop after result made plain
  cases made
  exact (same shop).symm ▸ plain

theorem forM {step : α → Building Unit} {items : List α} (each : ∀ item, Keeps (step item)) :
    Keeps (items.forM step) := by
  induction items with
  | nil => exact pure ()
  | cons item rest ih => exact (each item).bind fun _ => ih

theorem mapM {step : α → Building β} {items : List α} (each : ∀ item, Keeps (step item)) :
    Keeps (items.mapM step) := by
  induction items with
  | nil => exact pure []
  | cons item rest ih =>
      rw [List.mapM_cons]
      exact (each item).bind fun _ => ih.bind fun _ => pure _

theorem note (id : NodeId) {built : Built}
    (plain : ∀ value isNamedNaN, built = .scalar value isNamedNaN → value.Untupled) :
    Keeps (Building.note id built) := by
  intro shop after result made before other value isNamedNaN found
  cases made
  rcases join_setIfInBounds found with same | old
  · exact plain value isNamedNaN same.symm
  · exact before other value isNamedNaN old

theorem built? (id : NodeId) : Keeps (Building.built? id) := bind_get fun _ _ => pure _

/-- What is read beforehand builds nothing. -/
theorem bind_lift {reading : Reading α} (rest : ∀ value, reading = .ok value → Keeps (next value)) :
    Keeps ((liftM reading : Building α) >>= next) := by
  intro shop after result made plain
  obtain ⟨⟨value, middle⟩, started, made⟩ := Outcome.bind_eq_ok.mp made
  cases reading with
  | error trouble => cases started
  | ok read =>
      cases started
      exact rest value rfl shop after result made plain

theorem scalar_note (kind : String) (id : NodeId) :
    Keeps (Building.scalar kind id >>= Building.note id) := by
  unfold Building.scalar
  simp only [bind_assoc]
  refine bind_get fun shop _ => bind_lift fun text _ => ?_
  generalize (kind == "timestamp" && _) = misplaced
  cases misplaced with
  | true => exact throw (.fault (.wrongType "a point in time is written as a scalar"))
  | false =>
      rw [if_neg Bool.false_ne_true, bind_assoc]
      refine bind_lift fun value read => note id fun other isNamedNaN same => ?_
      cases same
      exact scalarValue_untupled read

theorem visit (id : NodeId) : Keeps (Building.visit id) := by
  unfold Building.visit
  refine (built? id).bind fun known => ?_
  split
  · refine bind_get fun shop plain => ?_
    split
    · exact throw _
    · next kind _ =>
      split
      · exact scalar_note kind id
      · split
        · exact (note id fun _ _ built => by cases built).bind fun _ => modify _ fun _ => rfl
        · exact throw _
  · exact pure _

theorem isSameKey (a b : NodeId) : Keeps (Building.isSameKey a b) := by
  unfold Building.isSameKey
  refine (built? a).bind fun first => (built? b).bind fun second => ?_
  split
  · split <;> exact pure _
  · exact pure _

theorem putEntry (key value : NodeId) (entries : Entries) :
    Keeps (Building.putEntry key value entries) := by
  induction entries with
  | nil => exact pure _
  | cons entry rest ih =>
      unfold Building.putEntry
      refine (isSameKey entry.1 key).bind fun same => ?_
      split
      · exact pure _
      · exact ih.bind fun _ => pure _

theorem mapEntries (done entries : Entries) : Keeps (Building.mapEntries done entries) := by
  induction entries generalizing done with
  | nil => exact pure _
  | cons entry rest ih =>
      unfold Building.mapEntries
      refine (visit entry.1).bind fun _ => (built? entry.1).bind fun key => ?_
      split
      · exact (visit entry.2).bind fun _ => (putEntry _ _ _).bind ih
      · exact throw _

theorem mapping (id : NodeId) : Keeps (Building.mapping id) := by
  unfold Building.mapping
  refine bind_get fun shop plain => ?_
  split
  · refine bind_lift fun flattened _ => (bind (set ?_) fun _ => mapEntries [] _)
    exact plain
  · exact throw _

theorem sequence (id : NodeId) : Keeps (Building.sequence id) := by
  unfold Building.sequence
  refine bind_get fun shop plain => ?_
  split
  · exact pure _
  · exact throw _

theorem pair (id : NodeId) : Keeps (Building.pair id) := by
  unfold Building.pair
  refine bind_get fun shop plain => ?_
  split
  · exact (visit _).bind fun _ => (visit _).bind fun _ => pure _
  · exact throw _

theorem fill (id : NodeId) : Keeps (Building.fill id) := by
  unfold Building.fill
  refine bind_get fun shop plain => ?_
  split
  · exact (sequence id).bind fun _ => (forM visit).bind fun _ => note id nofun
  · exact (mapping id).bind fun _ => note id nofun
  · exact (mapping id).bind fun _ => note id nofun
  · exact (sequence id).bind fun _ => (mapM pair).bind fun _ => note id nofun

theorem fillAll (fuel : Nat) : Keeps (Building.fillAll fuel) := by
  induction fuel with
  | zero => exact throw _
  | succ fuel ih =>
      unfold Building.fillAll
      refine bind_get fun shop plain => ?_
      dsimp only
      split
      · exact (modify (fun shop => { shop with waiting := [] }) fun _ => rfl).bind fun _ =>
          (forM fill).bind fun _ => ih
      · exact pure _

end Building.Keeps

theorem Document.build_plain {document : Document} {built : Array (Option Built)}
    (made : document.build = .ok built) : Plain built := by
  obtain ⟨⟨result, after⟩, whole, rfl⟩ := Outcome.map_eq_ok.mp made
  obtain ⟨⟨_, visited⟩, first, whole⟩ := Outcome.bind_eq_ok.mp whole
  obtain ⟨⟨_, filled⟩, second, whole⟩ := Outcome.bind_eq_ok.mp whole
  cases whole
  refine Building.Keeps.fillAll _ visited _ () second
    (Building.Keeps.visit _ _ visited () first ?_)
  intro id value isNamedNaN found
  rw [join_replicate] at found
  cases found

/-! ## Unfolding -/

/-- That no value that is known is a tuple. -/
def Known.Plain (known : Known) : Prop :=
  ∀ (id : NodeId) (value : Value), (known[id]?).join = some value → value.Untupled

/-- That what a step of unfolding gives has a property, and that it leaves no tuple behind. -/
def Yields {α : Type} (property : α → Prop) (step : StateM Known α) : Prop :=
  ∀ known : Known, known.Plain → property (step.run known).1 ∧ (step.run known).2.Plain

namespace Yields

variable {α β : Type} {property : α → Prop} {property' : β → Prop} {step : StateM Known α}
  {next : α → StateM Known β}

theorem pure {value : α} (holds : property value) :
    Yields property (pure value : StateM Known α) :=
  fun _ plain => ⟨holds, plain⟩

theorem bind (first : Yields property step)
    (rest : ∀ value, property value → Yields property' (next value)) :
    Yields property' (step >>= next) := by
  intro known plain
  obtain ⟨holds, middle⟩ := first known plain
  exact rest _ holds _ middle

theorem bind_get {next : Known → StateM Known α}
    (rest : ∀ known : Known, known.Plain → Yields property (next known)) :
    Yields property (get >>= next) :=
  fun known plain => rest known plain known plain

theorem remember (id : NodeId) {value : Value} (untupled : value.Untupled) :
    Yields (fun _ => True)
      (modify fun known => known.setIfInBounds id (some value) : StateM Known Unit) := by
  refine fun known plain => ⟨trivial, fun other value' found => ?_⟩
  rcases join_setIfInBounds found with rfl | old
  · exact untupled
  · exact plain other value' old

theorem mapM {step : α → StateM Known β} {items : List α}
    (each : ∀ item, Yields property' (step item)) :
    Yields (fun results => ∀ result ∈ results, property' result) (items.mapM step) := by
  induction items with
  | nil => exact pure nofun
  | cons item rest ih =>
      rw [List.mapM_cons]
      refine (each item).bind fun result holds => ih.bind fun results others => pure ?_
      exact List.forall_mem_cons.mpr ⟨holds, others⟩

end Yields

/-- Unfolded entries hold no tuples. -/
theorem unfoldEntries_yields {part : NodeId → StateM Known (Value × Bool)}
    (each : ∀ id, Yields (fun result => result.1.Untupled) (part id)) (entries : Entries) :
    Yields (fun result => ∀ entry ∈ result.1, entry.2.Untupled) (unfoldEntries part entries) := by
  unfold unfoldEntries
  have pairs : ∀ entry : NodeId × NodeId,
      Yields (fun result : (Value × Bool) × Value × Bool => result.2.1.Untupled)
        (do return (← part entry.1, ← part entry.2)) := fun entry =>
    (each entry.1).bind fun _ _ => (each entry.2).bind fun _ plain => .pure plain
  refine (Yields.mapM pairs).bind fun parts plain => .pure ?_
  intro entry member
  obtain ⟨part, at', rfl⟩ := List.mem_map.mp member
  exact plain part at'

/-- **Nothing unfolds to a tuple.** -/
theorem unfold_yields {built : Array (Option Built)} (plain : Plain built) (fuel : Nat) :
    ∀ around id, Yields (fun result => result.1.Untupled) (unfold built fuel around id) := by
  induction fuel with
  | zero => exact fun _ _ => .pure ⟨nofun, nofun⟩
  | succ fuel ih =>
      intro around id
      rw [unfold]
      refine .bind_get fun known familiar => ?_
      cases found : (known[id]?).join with
      | some value => exact .pure (familiar id value found)
      | none =>
          dsimp only
          have kept (result : Value × Bool) (untupled : result.1.Untupled) :
              Yields (fun result => result.1.Untupled) (do
                if result.2 then modify fun known => known.setIfInBounds id (some result.1)
                return (result.1, result.2)) := by
            cases whole : result.2 with
            | true => exact (Yields.remember id untupled).bind fun _ _ => .pure untupled
            | false => exact .pure untupled
          split
          · next value isNamedNaN scalar =>
            refine (Yields.pure ?_).bind kept
            exact plain id value isNamedNaN scalar
          · exact (Yields.mapM (ih (id :: around))).bind fun _ _ =>
              (Yields.pure ⟨nofun, nofun⟩).bind kept
          · split
            · exact (Yields.pure ⟨nofun, nofun⟩).bind kept
            · refine (unfoldEntries_yields (ih (id :: around)) _).bind fun parts untupled =>
                (Yields.pure ⟨nofun, ?_⟩).bind kept
              intro entries same entry member
              cases same
              exact (untupled entry member).noTuple
          · split
            · exact (Yields.pure ⟨nofun, nofun⟩).bind kept
            · exact (Yields.mapM (ih (id :: around))).bind fun _ _ =>
                (Yields.pure ⟨nofun, nofun⟩).bind kept
          · split
            · exact (Yields.pure ⟨nofun, nofun⟩).bind kept
            · exact (unfoldEntries_yields (ih (id :: around)) _).bind fun _ _ =>
                (Yields.pure ⟨nofun, nofun⟩).bind kept
          · exact (Yields.pure ⟨nofun, nofun⟩).bind kept
          · exact (Yields.pure ⟨nofun, nofun⟩).bind kept

/-- **No value in a document is a tuple**, and neither is the document. -/
theorem read_untupled {text : String} {value : Value} (describes : read text = .ok value) :
    value.Untupled := by
  obtain ⟨document?, parsed, described⟩ := Outcome.bind_eq_ok.mp describes
  cases document? with
  | none =>
      cases described
      exact ⟨nofun, nofun⟩
  | some document =>
      obtain ⟨built, made, described⟩ := Outcome.bind_eq_ok.mp described
      have unknown : Known.Plain (Array.replicate built.size none) := by
        intro id value found
        rw [join_replicate] at found
        cases found
      have unfolds := unfold_yields (Document.build_plain made) (built.size + 1) []
      have valued : valueOf built document.root = value := Except.ok.inj described
      subst valued
      unfold valueOf
      dsimp only
      split
      · next parts _ =>
        have plain := (unfoldEntries_yields unfolds parts _ unknown).1
        refine ⟨nofun, fun entries same entry member => ?_⟩
        cases same
        exact (plain entry member).noTuple
      · exact (unfolds document.root _ unknown).1

end Yaml

end RecallChat
