import CallPlan.Proofs.FirstFailure
import CallPlan.Proofs.Record.Checked
import CallPlan.Proofs.Registry.Lookup
import CallPlan.Proofs.Tool.PlainHints

/-!
# CallPlan.Proofs.Tool.Accord

The functions of a toolbox and their declarations.

* A registration comes to one of three ends (`Registering`, `register_registering`): it is refused
  and changes nothing, it puts a function and its declaration in place, or it finds the declaration
  to be none when the function is in place already and leaves the function behind.
* Functions without a declaration come about in the last way alone, and go only with their name
  (`stranded_after`). No declaration is ever without its function (`Covered.after`).
* `standard_accord` says of every sequence of registrations and removals when the names of the
  functions are those of the declarations, and what a failure leaves changed.
  `standard_leaves_behind` is a registration that leaves a function behind.
-/

namespace CallPlan

/-! ## Names -/

namespace ToolName

theorem isSame_self (name : Json) : isSame name name = true := by
  unfold isSame
  split
  next ratio ratio' =>
    cases ratio.symm.trans ratio'
    exact decide_eq_true rfl
  next => exact decide_eq_true rfl

theorem isSame_str (text : String) (name : Json) :
    isSame (.str text) name = decide (name = .str text) := by
  have noNumber : ratio? (.str text) = none := rfl
  rw [isSame, noNumber]
  exact decide_eq_decide.2 eq_comm

end ToolName

/-! ## Declarations -/

theorem ToolSchema.name_of_check {members : Members} {schema : ToolSchema}
    (h : ToolSchema.check (.obj members) = .ok schema) :
    members.get? "name" = some (.str schema.name) := by
  obtain ⟨members', same, fields⟩ := Record.object_eq_ok_iff.1 h
  cases same
  simp only [Checked.seq_eq_ok_iff, Checked.map_eq_ok_iff] at fields
  obtain ⟨_, output, ⟨_, input, ⟨_, description, ⟨name, named, rfl⟩, -, rfl⟩, -, rfl⟩, -, rfl⟩ :=
    fields
  obtain ⟨value, held, text⟩ := Record.required_eq_ok_iff.1 named
  rw [held, Record.text_eq_ok_iff.1 text]

/-- A declaration that is one is for its own name. -/
theorem ToolDeclaration.name_of_schema {declaration : ToolDeclaration} {function : ToolFunction}
    {schema : ToolSchema} (h : declaration.schema function = .ok schema) :
    declaration.name = .str schema.name := by
  unfold ToolDeclaration.schema at h
  dsimp only at h
  split at h
  all_goals
    obtain ⟨input, -, h⟩ := bind_eq_ok_iff.1 h
    split at h
    next checks =>
      cases h
      exact Option.some.inj (ToolSchema.name_of_check checks)
    next => cases h

/-! ## Sequences of registrations and removals -/

/-- What may be asked of a toolbox. -/
inductive ToolAction where
  | register (declaration : ToolDeclaration) (function : ToolFunction)
  | unregister (name : Json)

namespace ToolAction

/-- Whether an action leaves a function behind under a name: it registers the function under this
name, which is free, and the declaration turns out to be none. -/
def Strands (box : Toolbox) (name : Json) : ToolAction → Prop
  | .register declaration function =>
    declaration.name = name ∧ ToolName.isName name = true ∧ box.find? name = none ∧
      ∃ failure, declaration.schema function = .error failure
  | .unregister _ => False

/-- Whether an action takes a name away. -/
def Removes (name : Json) : ToolAction → Prop
  | .register .. => False
  | .unregister other => ToolName.isName other = true ∧ ToolName.isSame name other = true

end ToolAction

namespace Toolbox

/-- Does what it is asked for. -/
def act (box : Toolbox) : ToolAction → Except Failure Unit × Toolbox
  | .register declaration function =>
    ((box.register declaration function).1.map fun _ => (), (box.register declaration function).2)
  | .unregister name => box.unregister name

theorem act_register (box : Toolbox) (declaration : ToolDeclaration) (function : ToolFunction) :
    box.act (.register declaration function)
      = ((box.register declaration function).1.map fun _ => (),
        (box.register declaration function).2) := rfl

theorem act_unregister (box : Toolbox) (name : Json) :
    box.act (.unregister name) = box.unregister name := rfl

/-- A toolbox after some actions, whether they failed or not. -/
def after (box : Toolbox) (actions : List ToolAction) : Toolbox :=
  actions.foldl (fun box action => (box.act action).2) box

/-- The names that have a function. -/
def functionNames (box : Toolbox) : List Json := box.functions.map Prod.fst

/-- The names that have a declaration. -/
def declaredNames (box : Toolbox) : List Json := box.registry.order.map .str

/-- The names of the functions are those of the declarations. -/
def InStep (box : Toolbox) : Prop := ∀ name, name ∈ box.functionNames ↔ name ∈ box.declaredNames

/-- A function without declaration stands under a name. -/
def Stranded (box : Toolbox) (name : Json) : Prop :=
  name ∈ box.functionNames ∧ name ∉ box.declaredNames

/-- Every declaration has its function. -/
def Covered (box : Toolbox) : Prop := ∀ name ∈ box.declaredNames, name ∈ box.functionNames

/-- A toolbox with a further function, which has no declaration yet. -/
def withFunction (box : Toolbox) (name : Json) (function : ToolFunction) : Toolbox :=
  { box with functions := box.functions ++ [(name, function)] }

/-- What a registration comes to. -/
inductive Registering (box : Toolbox) (declaration : ToolDeclaration) (function : ToolFunction) :
    Except Failure ToolSchema × Toolbox → Prop where
  /-- What is given is no name, or taken. -/
  | refused (failure : Failure)
      (unfit : ToolName.isName declaration.name = false ∨ (box.find? declaration.name).isSome) :
      Registering box declaration function (.error failure, box)
  | stranded {failure : Failure} (isName : ToolName.isName declaration.name = true)
      (free : box.find? declaration.name = none)
      (undeclared : declaration.schema function = .error failure) :
      Registering box declaration function
        (.error failure, box.withFunction declaration.name function)
  | registered {schema : ToolSchema} (free : box.find? declaration.name = none)
      (declares : declaration.schema function = .ok schema) :
      Registering box declaration function
        (.ok schema, ⟨box.functions ++ [(declaration.name, function)], box.store.register schema⟩)

theorem register_registering (box : Toolbox) (declaration : ToolDeclaration)
    (function : ToolFunction) :
    Registering box declaration function (box.register declaration function) := by
  unfold register
  split
  next noName => exact .refused _ (.inl (by simpa using noName))
  next isName =>
    split
    next taken => exact .refused _ (.inr taken)
    next free =>
      have free : box.find? declaration.name = none := by simpa using free
      cases declares : declaration.schema function with
      | ok schema => exact .registered free declares
      | error failure => exact .stranded (by simpa using isName) free declares

/-! ### One step -/

section
variable {box : Toolbox} {name : Json}

/-- A free name has no function. -/
theorem not_mem_functionNames (free : box.find? name = none) : name ∉ box.functionNames := by
  intro member
  obtain ⟨⟨found, function⟩, stands, rfl⟩ := List.mem_map.1 member
  rw [find?, Option.map_eq_none_iff, List.find?_eq_none] at free
  exact free _ stands (ToolName.isSame_self found)

theorem functions_unregister {other : Json} (isName : ToolName.isName other = true) :
    (box.unregister other).2.functions
      = box.functions.filter fun (n, _) => !ToolName.isSame n other := by
  simp only [unregister, isName, if_true]

theorem order_unregister {other : Json} (isName : ToolName.isName other = true) :
    (box.unregister other).2.registry.order
      = box.registry.order.filter fun text => !ToolName.isSame (.str text) other := by
  cases other with
  | str removed =>
      have kept : ∀ text,
          (!ToolName.isSame (.str text) (.str removed)) = decide (text ≠ removed) := by
        intro text
        rw [ToolName.isSame_str, ← decide_not, decide_eq_decide, Json.str.injEq]
        exact not_congr eq_comm
      simp only [kept]
      exact Registry.order_without box.registry removed
  | _ =>
      have kept : ∀ text ∈ box.registry.order, (true : Bool) = true := fun _ _ => rfl
      exact (List.filter_eq_self.2 kept).symm

theorem unregister_of_not_isName {other : Json} (noName : ToolName.isName other = false) :
    box.unregister other = (.error (.shape .kind), box) := by
  simp only [unregister, noName, Bool.false_eq_true, if_false]

theorem mem_functionNames_unregister {other : Json} (isName : ToolName.isName other = true) :
    name ∈ (box.unregister other).2.functionNames
      ↔ name ∈ box.functionNames ∧ ToolName.isSame name other = false := by
  rw [functionNames, functions_unregister isName]
  simp only [functionNames, List.mem_map, List.mem_filter]
  constructor
  · rintro ⟨entry, ⟨member, kept⟩, rfl⟩
    exact ⟨⟨entry, member, rfl⟩, by simpa using kept⟩
  · rintro ⟨⟨entry, member, rfl⟩, kept⟩
    exact ⟨entry, ⟨member, by simpa using kept⟩, rfl⟩

theorem mem_declaredNames_unregister {other : Json} (isName : ToolName.isName other = true) :
    name ∈ (box.unregister other).2.declaredNames
      ↔ name ∈ box.declaredNames ∧ ToolName.isSame name other = false := by
  rw [declaredNames, order_unregister isName]
  simp only [declaredNames, List.mem_map, List.mem_filter]
  constructor
  · rintro ⟨text, ⟨member, kept⟩, rfl⟩
    exact ⟨⟨text, member, rfl⟩, by simpa using kept⟩
  · rintro ⟨⟨text, member, rfl⟩, kept⟩
    exact ⟨text, ⟨member, by simpa using kept⟩, rfl⟩

/-- A registered function is under the name of its declaration, and that name was free. -/
theorem mem_names_registered {declaration : ToolDeclaration} {function : ToolFunction}
    {schema : ToolSchema} (declares : declaration.schema function = .ok schema) :
    let registered : Toolbox :=
      ⟨box.functions ++ [(declaration.name, function)], box.store.register schema⟩
    (name ∈ registered.functionNames ↔ name ∈ box.functionNames ∨ name = declaration.name) ∧
      (name ∈ registered.declaredNames ↔ name ∈ box.declaredNames ∨ name = declaration.name) := by
  intro registered
  refine ⟨by simp [registered, functionNames], ?_⟩
  rw [ToolDeclaration.name_of_schema declares]
  simp only [registered, declaredNames, registry, RegistryStore.register, RegistryStore.replace,
    List.mem_map, Registry.mem_order_withSchema]
  constructor
  · rintro ⟨text, member | rfl, rfl⟩
    · exact .inl ⟨text, member, rfl⟩
    · exact .inr rfl
  · rintro (⟨text, member, rfl⟩ | rfl)
    · exact ⟨text, .inl member, rfl⟩
    · exact ⟨schema.name, .inr rfl, rfl⟩

theorem mem_names_withFunction {other : Json} {function : ToolFunction} :
    (name ∈ (box.withFunction other function).functionNames
        ↔ name ∈ box.functionNames ∨ name = other) ∧
      (box.withFunction other function).declaredNames = box.declaredNames :=
  ⟨by simp [withFunction, functionNames], rfl⟩

theorem Covered.act (h : box.Covered) (action : ToolAction) : (box.act action).2.Covered := by
  cases action with
  | register declaration function =>
      have registering := box.register_registering declaration function
      rw [act_register]
      generalize box.register declaration function = result at registering ⊢
      cases registering with
      | refused failure unfit => exact h
      | stranded isName free undeclared =>
          intro name member
          exact mem_names_withFunction.1.2 (.inl (h name member))
      | registered free declares =>
          intro name member
          obtain ⟨functions, declared⟩ := mem_names_registered declares
          exact functions.2 ((declared.1 member).imp_left (h name))
  | unregister other =>
      rw [act_unregister]
      cases isName : ToolName.isName other with
      | true =>
          intro name member
          obtain ⟨member, kept⟩ := (mem_declaredNames_unregister isName).1 member
          exact (mem_functionNames_unregister isName).2 ⟨h name member, kept⟩
      | false =>
          rw [unregister_of_not_isName isName]
          exact h

/-- Which functions lack a declaration after one action. -/
theorem stranded_act (covered : box.Covered) (action : ToolAction) :
    (box.act action).2.Stranded name ↔
      (box.Stranded name ∧ ¬ action.Removes name) ∨ action.Strands box name := by
  cases action with
  | register declaration function =>
      have registering := box.register_registering declaration function
      rw [act_register]
      generalize box.register declaration function = result at registering ⊢
      simp only [ToolAction.Removes, not_false_eq_true, and_true]
      cases registering with
      | refused failure unfit =>
          refine ⟨.inl, ?_⟩
          rintro (stranded | ⟨rfl, isName, free, -⟩)
          · exact stranded
          · simp [isName, free] at unfit
      | @stranded failure isName free undeclared =>
          obtain ⟨functions, declared⟩ :=
            @mem_names_withFunction box name declaration.name function
          simp only [Stranded, functions, declared]
          constructor
          · rintro ⟨member | rfl, undeclared'⟩
            · exact .inl ⟨member, undeclared'⟩
            · exact .inr ⟨rfl, isName, free, failure, undeclared⟩
          · rintro (⟨member, undeclared'⟩ | ⟨rfl, -⟩)
            · exact ⟨.inl member, undeclared'⟩
            · exact ⟨.inr rfl, fun member => not_mem_functionNames free (covered _ member)⟩
      | @registered schema free declares =>
          obtain ⟨functions, declared⟩ :=
            @mem_names_registered box name declaration function schema declares
          simp only [Stranded, functions, declared]
          constructor
          · rintro ⟨member | rfl, undeclared⟩
            · exact .inl ⟨member, fun member' => undeclared (.inl member')⟩
            · exact absurd (.inr rfl) undeclared
          · rintro (⟨member, undeclared⟩ | ⟨rfl, -, -, failure, undeclared⟩)
            · refine ⟨.inl member, ?_⟩
              rintro (member' | rfl)
              · exact undeclared member'
              · exact not_mem_functionNames free member
            · cases declares.symm.trans undeclared
  | unregister other =>
      rw [act_unregister]
      simp only [ToolAction.Strands, or_false, ToolAction.Removes]
      cases isName : ToolName.isName other with
      | true =>
          simp only [Stranded, mem_functionNames_unregister isName,
            mem_declaredNames_unregister isName, true_and, Bool.not_eq_true]
          constructor
          · rintro ⟨⟨member, kept⟩, undeclared⟩
            exact ⟨⟨member, fun member' => undeclared ⟨member', kept⟩⟩, kept⟩
          · rintro ⟨⟨member, undeclared⟩, kept⟩
            exact ⟨⟨member, kept⟩, fun member' => undeclared member'.1⟩
      | false =>
          rw [unregister_of_not_isName isName]
          simp

end

/-! ### Runs -/

section
variable {box : Toolbox} {name : Json}

theorem after_cons (box : Toolbox) (action : ToolAction) (rest : List ToolAction) :
    box.after (action :: rest) = (box.act action).2.after rest := rfl

theorem Covered.after (h : box.Covered) (actions : List ToolAction) :
    (box.after actions).Covered := by
  induction actions generalizing box with
  | nil => exact h
  | cons action rest ih => exact ih (h.act action)

/-- The functions without declaration after some actions are those from before that were not taken
away, and those that one of the actions left behind and none after it took away. -/
theorem stranded_after (covered : box.Covered) (actions : List ToolAction) :
    (box.after actions).Stranded name ↔
      (box.Stranded name ∧ ∀ action ∈ actions, ¬ action.Removes name) ∨
        ∃ before action later, actions = before ++ action :: later ∧
          action.Strands (box.after before) name ∧ ∀ other ∈ later, ¬ other.Removes name := by
  induction actions generalizing box with
  | nil => simp [after]
  | cons action rest ih =>
      rw [after_cons, ih (covered.act action), stranded_act covered action, List.forall_mem_cons]
      constructor
      · rintro (⟨⟨stranded, kept⟩ | strands, remain⟩ | ⟨before, other, later, rfl, strands, remain⟩)
        · exact .inl ⟨stranded, kept, remain⟩
        · exact .inr ⟨[], action, rest, rfl, strands, remain⟩
        · exact .inr ⟨action :: before, other, later, rfl, strands, remain⟩
      · rintro (⟨stranded, kept, remain⟩ | ⟨before, other, later, actions_eq, strands, remain⟩)
        · exact .inl ⟨.inl ⟨stranded, kept⟩, remain⟩
        · rcases List.cons_eq_append_iff.1 actions_eq with ⟨rfl, same⟩ | ⟨before', rfl, rfl⟩
          · cases same
            exact .inl ⟨.inr strands, remain⟩
          · exact .inr ⟨before', other, later, rfl, strands, remain⟩

theorem inStep_iff (covered : box.Covered) : box.InStep ↔ ∀ name, ¬ box.Stranded name := by
  constructor
  · rintro same name ⟨member, undeclared⟩
    exact undeclared ((same name).1 member)
  · intro none name
    refine ⟨fun member => ?_, covered name⟩
    exact Decidable.of_not_not fun undeclared => none name ⟨member, undeclared⟩

theorem InStep.covered (h : box.InStep) : box.Covered := fun name => (h name).2

/-- Where the names agree at first, they agree after some actions if each function that was left
behind was taken away later. -/
theorem inStep_after_iff (h : box.InStep) (actions : List ToolAction) :
    (box.after actions).InStep ↔
      ∀ before action later name, actions = before ++ action :: later →
        action.Strands (box.after before) name → ∃ other ∈ later, other.Removes name := by
  rw [inStep_iff (h.covered.after actions)]
  constructor
  · intro none before action later name actions_eq strands
    refine Classical.byContradiction fun kept => none name ?_
    have remains : ∀ other ∈ later, ¬ other.Removes name :=
      fun other member removes => kept ⟨other, member, removes⟩
    exact (stranded_after h.covered actions).2
      (.inr ⟨before, action, later, actions_eq, strands, remains⟩)
  · intro removed name stranded
    rcases (stranded_after h.covered actions).1 stranded with
      ⟨stranded, -⟩ | ⟨before, action, later, actions_eq, strands, kept⟩
    · exact (inStep_iff h.covered).1 h name stranded
    · obtain ⟨other, member, removes⟩ := removed before action later name actions_eq strands
      exact kept other member removes

end

/-! ### The toolbox at the start -/

/-- The echo tool has a declaration. -/
theorem exists_echo_schema : ∃ schema, echoDeclaration.schema echo = .ok schema := by
  obtain ⟨members, derived⟩ : ∃ members, echo.signature.schema = .ok members :=
    Signature.exists_schema_plain (by decide)
  refine ⟨⟨"echo", Text.strip echo.doc, members, Wrapped.outputSchema echoDeclaration.artifact⟩, ?_⟩
  simp only [ToolDeclaration.schema, derived]
  rfl

theorem standard_eq : standard = (empty.act (.register echoDeclaration echo)).2 := by
  rw [act_register, standard]

/-- At the start the functions and the declarations are in step. -/
theorem standard_inStep : standard.InStep := by
  have noTools : empty.Covered := nofun
  obtain ⟨schema, declares⟩ := exists_echo_schema
  rw [standard_eq, inStep_iff (noTools.act _)]
  intro name stranded
  rcases (stranded_act noTools (.register echoDeclaration echo)).1 stranded with
    ⟨⟨member, -⟩, -⟩ | ⟨-, -, -, failure, undeclared⟩
  · cases member
  · cases declares.symm.trans undeclared

end Toolbox

/-- What the functions of a toolbox and their declarations are like after some actions. -/
structure Accord (box : Toolbox) (actions : List ToolAction) : Prop where
  /-- Every declaration has its function. -/
  covered : ∀ name ∈ (box.after actions).declaredNames, name ∈ (box.after actions).functionNames
  /-- The names agree unless a function was left behind under a name that no later action took
  away. -/
  inStep_iff : (box.after actions).InStep ↔
    ∀ before action later name, actions = before ++ action :: later →
      action.Strands (box.after before) name → ∃ other ∈ later, other.Removes name
  /-- A failure changes nothing else than that a function may be left behind. -/
  refused : ∀ action failure, ((box.after actions).act action).1 = .error failure →
    (∀ name, ¬ action.Strands (box.after actions) name) →
    ((box.after actions).act action).2 = box.after actions
  /-- A function is left behind by a failure, under its name and without a declaration. -/
  strands : ∀ declaration function name,
    (ToolAction.register declaration function).Strands (box.after actions) name →
    (∃ failure, ((box.after actions).act (.register declaration function)).1 = .error failure) ∧
      ((box.after actions).act (.register declaration function)).2
        = (box.after actions).withFunction name function

namespace Toolbox

section
variable {box : Toolbox}

theorem act_of_error {action : ToolAction} {failure : Failure}
    (failed : (box.act action).1 = .error failure) (complete : ∀ name, ¬ action.Strands box name) :
    (box.act action).2 = box := by
  cases action with
  | register declaration function =>
      have registering := box.register_registering declaration function
      rw [act_register] at failed ⊢
      generalize box.register declaration function = result at registering failed ⊢
      cases registering with
      | refused => rfl
      | stranded isName free undeclared =>
          exact absurd ⟨rfl, isName, free, _, undeclared⟩ (complete declaration.name)
      | registered => cases failed
  | unregister other =>
      cases isName : ToolName.isName other with
      | true =>
          rw [act_unregister] at failed
          simp [unregister, isName] at failed
      | false => rw [act_unregister, unregister_of_not_isName isName]

theorem act_of_strands {declaration : ToolDeclaration} {function : ToolFunction} {name : Json}
    (strands : (ToolAction.register declaration function).Strands box name) :
    (∃ failure, (box.act (.register declaration function)).1 = .error failure) ∧
      (box.act (.register declaration function)).2 = box.withFunction name function := by
  obtain ⟨rfl, isName, free, failure, undeclared⟩ := strands
  have registering := box.register_registering declaration function
  rw [act_register]
  generalize box.register declaration function = result at registering ⊢
  cases registering with
  | refused failure unfit => simp [isName, free] at unfit
  | stranded => exact ⟨⟨_, rfl⟩, rfl⟩
  | registered free declares => cases declares.symm.trans undeclared

end

/-- After all registrations and removals, whether they failed or not. -/
theorem standard_accord (actions : List ToolAction) : Accord standard actions where
  covered := standard_inStep.covered.after actions
  inStep_iff := inStep_after_iff standard_inStep actions
  refused _ _ := act_of_error
  strands _ _ _ := act_of_strands

/-- A declaration whose description is no text. -/
def misdescribed : ToolDeclaration where
  name := .str "probe"
  description := .num (.int 5)
  input := .obj ToolSchema.anyObject

/-- A failed registration leaves its function behind, and the names no longer agree. -/
theorem standard_leaves_behind :
    (∃ failure, (standard.act (.register misdescribed echo)).1 = .error failure) ∧
      (standard.act (.register misdescribed echo)).2 ≠ standard ∧
      ¬ (standard.after [.register misdescribed echo]).InStep := by
  have free : standard.find? (.str "probe") = none := by
    have registering := empty.register_registering echoDeclaration echo
    rw [standard]
    generalize empty.register echoDeclaration echo = result at registering ⊢
    cases registering with
    | refused | stranded | registered => rfl
  have strands : (ToolAction.register misdescribed echo).Strands standard (.str "probe") :=
    ⟨rfl, rfl, free, _, rfl⟩
  obtain ⟨failed, left⟩ := act_of_strands strands
  refine ⟨failed, ?_, ?_⟩
  · rw [left]
    intro same
    have functions := congrArg (·.functions.length) same
    simp [withFunction] at functions
  · intro inStep
    have stranded :=
      (stranded_act standard_inStep.covered (.register misdescribed echo)).2 (.inr strands)
    exact stranded.2 ((inStep _).1 stranded.1)

end Toolbox

end CallPlan
