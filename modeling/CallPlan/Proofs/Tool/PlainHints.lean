import CallPlan.Toolbox

/-!
# CallPlan.Proofs.Tool.PlainHints

Classes as type hints.

* A class that is there from the start says nothing of its own about the class it is made of, so
  that asking it for its JSON type comes to an end (`jsonType?_type`), whatever the machine.
* Hence a function whose parameters have such classes as type hints has a schema of its arguments
  (`Signature.exists_schema_plain`).
-/

namespace CallPlan

namespace TypeHint

/-! ## Actions -/

theorem get_store (store : Store) : (get : Action Store) store = .ok store store := rfl

/-- Actions that all come to an end and leave the store alone do so one after the other. -/
theorem exists_mapM_ok {α β : Type} {action : α → Action β} {P : β → Prop} {items : List α}
    (ends : ∀ item ∈ items, ∀ store, ∃ b, action item store = .ok b store ∧ P b) (store : Store) :
    ∃ made, items.mapM action store = .ok made store ∧ ∀ b ∈ made, P b := by
  induction items with
  | nil => exact ⟨[], rfl, nofun⟩
  | cons item rest ih =>
      obtain ⟨b, first, holds⟩ := ends item List.mem_cons_self store
      obtain ⟨made, others, hold⟩ := ih fun item member => ends item (List.mem_cons_of_mem _ member)
      refine ⟨b :: made, ?_, List.forall_mem_cons.2 ⟨holds, hold⟩⟩
      simp only [List.mapM_cons, bind, EStateM.bind, first, others]
      rfl

theorem mapM_ends {α β : Type} {action : α → Action β} {items : List α}
    (ends : ∀ item ∈ items, ∀ store, ∃ b, action item store = .ok b store) (store : Store) :
    ∃ made, items.mapM action store = .ok made store := by
  have each : ∀ item ∈ items, ∀ store, ∃ b, action item store = .ok b store ∧ True :=
    fun item member store => (ends item member store).imp fun _ ended => ⟨ended, trivial⟩
  exact (exists_mapM_ok each store).imp fun _ made => made.1

/-! ## What a class holds -/

section
variable (m : Machine) (store : Store) (type : String)

/-- No class that was made stands above one that is there from the start. -/
theorem madeMember?_type (name : String) : store.madeMember? (.type type) name = none := by
  have line : store.line (.type type) = (Class.line type).map .type := rfl
  rw [Store.madeMember?, line, List.findSome?_eq_none_iff]
  simp only [List.mem_map]
  rintro _ ⟨holder, -, rfl⟩
  rfl

theorem itemNames?_type : Machine.itemNames? store (.type type) = none := by
  rw [Machine.itemNames?, madeMember?_type]

/-- What a class has under a name that tells nothing about itself: a class, a function of one, or
nothing in its place. -/
def IsMember : Value → Prop
  | .nothing | .type _ | .method .. | .member .. => True
  | _ => False

theorem IsMember.isHashable {value : Value} (h : IsMember value) :
    store.isHashable value = true := by
  cases value with
  | nothing | type | method | member => rfl
  | _ => exact h.elim

theorem isMember_heldIn? {value : Value} (h : Class.heldIn? type "__origin__" = some value) :
    IsMember value := by
  rw [Class.heldIn?, Option.join_eq_some_iff] at h
  obtain ⟨holder, -, held⟩ := List.exists_of_findSome?_eq_some h
  have own : Class.value? holder "__origin__" = none := rfl
  simp only [own] at held
  cases found : Class.find? holder with
  | none =>
      rw [found] at held
      cases held
  | some entry =>
      simp only [found] at held
      split at held
      · cases held
        trivial
      · split at held <;> cases held

theorem isMember_typeMember? (value : Value)
    (h : Machine.typeMember? type "__origin__" = some value) : IsMember value := by
  unfold Machine.typeMember? at h
  split at h
  next held =>
    cases h
    exact isMember_heldIn? type held
  next =>
    split at h
    all_goals
      cases h
      trivial
  next =>
    split at h
    all_goals cases h
    trivial

/-! ## What a class is made of -/

theorem exists_classAttribute?_type :
    ∃ held, m.classAttribute? (.type type) "__origin__" store = .ok held store ∧
      ∀ value ∈ held, IsMember value := by
  have noItem : Machine.itemPlace? store (.type type) "__origin__" = none := by
    rw [Machine.itemPlace?, itemNames?_type, Option.bind_none]
  have noMethod : Machine.isItemMethod store (.type type) "__origin__" = false := by
    rw [Machine.isItemMethod, itemNames?_type, Option.isSome_none, Bool.and_false]
  have fields : m.classAttribute? (.type type) "__origin__" store
      = Machine.classAttribute?.fieldOf (.type type) "__origin__" store store := by
    simp only [Machine.classAttribute?, bind, EStateM.bind, get_store, madeMember?_type, noItem,
      noMethod, Bool.false_eq_true, if_false]
  have noField : Machine.classField? (.type type) "__origin__" store = .ok none store := rfl
  have untold : typeField? store (.type type) "__origin__" = none := rfl
  rw [fields]
  simp only [Machine.classAttribute?.fieldOf, bind, EStateM.bind, noField, untold]
  -- a name and a home of its own decide only where the class is looked up
  cases ownName? store (.type type) with
  | none => exact ⟨_, rfl, isMember_typeMember? _⟩
  | some own =>
      cases home? store (.type type) with
      | none => exact ⟨_, rfl, isMember_typeMember? _⟩
      | some home => exact ⟨_, rfl, isMember_typeMember? _⟩

theorem exists_attribute?_type :
    ∃ held, m.attribute? (.type type) "__origin__" store = .ok held store ∧
      ∀ value ∈ held, IsMember value := by
  obtain ⟨held, asked, members⟩ := exists_classAttribute?_type m store type
  have asClass : Machine.attributeIn m 10 (.type type) "__origin__" store = .ok held store := asked
  simp only [Machine.attribute?, bind, EStateM.bind, asClass]
  cases held with
  | none => exact ⟨none, rfl, fun value held => absurd held (Option.not_mem_none value)⟩
  | some value => exact ⟨some value, rfl, members⟩

/-- Asking a class for its JSON type comes to an end. -/
theorem jsonType?_type : ∃ word, Meaning.jsonType? m (.type type) store = .ok word store := by
  obtain ⟨held, asked, members⟩ := exists_attribute?_type m store type
  have hashable : store.isHashable (held.getD (.type type)) = true := by
    cases held with
    | none => rfl
    | some value => exact (members value rfl).isHashable store
  simp only [Meaning.jsonType?, bind, EStateM.bind, asked, Value.hashed, get_store, List.all_cons,
    List.all_nil, hashable, Bool.and_true, if_true, pure, EStateM.pure]
  generalize held.getD (.type type) = origin
  cases origin <;> exact ⟨_, rfl⟩

end

/-! ## What the type hints of a function come to -/

/-- Type hints that are classes come to JSON types. -/
theorem Declared.exists_meanings {declared : Declared}
    (classes : ∀ hint ∈ declared.hints, ∃ type, hint.2 = .type type) (parameters : List String) :
    ∃ types, declared.meanings parameters = .ok types := by
  let IsClass (hint : String × Value) : Prop := ∃ type, hint.2 = .type type
  unfold meanings
  generalize machineFor declared.given = m
  -- neither names in quotes nor marks stand in a class
  have resolves : ∀ hint ∈ declared.hints, ∀ store, ∃ named,
      (do return (hint.1, ← Meaning.resolve m Meaning.depthLimit [] (← Meaning.asType hint.2)) :
        Action (String × Value)) store = .ok named store ∧ IsClass named := by
    rintro ⟨name, value⟩ member store
    obtain ⟨type, rfl⟩ : ∃ type, value = .type type := classes _ member
    exact ⟨(name, .type type), rfl, type, rfl⟩
  obtain ⟨resolved, resolves, classes⟩ := exists_mapM_ok resolves declared.store
  have plains : ∀ hint ∈ resolved, ∀ store, ∃ named,
      (do return (hint.1, ← Meaning.plain Meaning.depthLimit hint.2) :
        Action (String × Value)) store = .ok named store ∧ IsClass named := by
    rintro ⟨name, value⟩ member store
    obtain ⟨type, rfl⟩ : ∃ type, value = .type type := classes _ member
    exact ⟨(name, .type type), rfl, type, rfl⟩
  obtain ⟨plain, plains, classes⟩ := exists_mapM_ok plains declared.store
  simp only [bind] at resolves plains
  simp only [EStateM.run, bind, EStateM.bind, resolves, plains]
  generalize ran :
    (List.mapM _ parameters : Action (List (String × Option String))) declared.store = result
  obtain ⟨types, rfl⟩ : ∃ types, result = EStateM.Result.ok types declared.store := by
    rw [← ran]
    refine mapM_ends (fun name _ store => ?_) declared.store
    cases found : List.lookup name plain with
    | none => exact ⟨(name, none), rfl⟩
    | some value =>
        obtain ⟨before, after, plain_eq, -⟩ := List.lookup_eq_some_iff.1 found
        obtain ⟨type, rfl⟩ : ∃ type, value = .type type :=
          classes (name, value) (by simp [plain_eq])
        obtain ⟨word, asked⟩ := jsonType?_type m store type
        refine ⟨(name, word), ?_⟩
        simp only [EStateM.bind, asked]
        rfl
  exact ⟨types, rfl⟩

end TypeHint

/-- Ordinary parameters have a schema if none of them has a reserved word as its name. -/
theorem Signature.exists_schema_plain {parameters : List (String × String)}
    (free : ∀ parameter ∈ parameters, TypeHint.Token.reserved.contains parameter.1 = false) :
    ∃ members, (Signature.plain parameters).schema = .ok members := by
  have noWord : (Signature.plain parameters).parameters.find? (fun p =>
      TypeHint.Token.reserved.contains p.name && decide (p.kind ≠ .positional)) = none := by
    rw [List.find?_eq_none]
    intro p member
    obtain ⟨parameter, declared, rfl⟩ := List.mem_map.1 member
    simp [-List.contains_eq_mem, free parameter declared]
  have classes : ∀ hint ∈ (Signature.plain parameters).hints.hints,
      ∃ type, hint.2 = TypeHint.Value.type type := by
    intro hint member
    obtain ⟨parameter, -, rfl⟩ := List.mem_map.1 member
    exact ⟨parameter.2, rfl⟩
  obtain ⟨types, meanings⟩ := TypeHint.Declared.exists_meanings classes
    ((Signature.plain parameters).parameters.map (·.name))
  simp only [Signature.schema, noWord, meanings]
  exact ⟨_, rfl⟩

end CallPlan
