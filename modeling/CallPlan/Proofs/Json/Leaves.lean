import CallPlan.Json.Leaves
import CallPlan.Proofs.FirstFailure

/-!
# CallPlan.Proofs.Json.Leaves

Rebuilding a value leaf by leaf, and the order of its leaves.

* The effects of `Json.mapLeavesM` are those of its function on the leaves that `Json.leaves` lists,
  in their order (`mapLeavesM_effects`); so it can only fail at a leaf (`exists_mapLeavesM`).
* Rebuilding in two monads gives related results if the functions do (`Relates.mapLeavesM`); two
  functions that agree on the leaves rebuild alike (`mapLeavesM_of_agree`).
* What stands at a location where the value had a text is what the function made of that text
  (`at?_mapLeavesM`).
* A leaf is the text at its location if the keys of every object are distinct
  (`Distinct.at?_of_mem_leaves`).
* `Json.Before` is the depth-first order of places in a value; leaves are listed in this order
  (`pairwise_leaves`).
-/

namespace CallPlan

namespace Json

/-! ### Effects -/

section
variable {m : Type → Type} [Monad m] [LawfulMonad m]

mutual

/-- Rebuilding a value has the effects of its leaves, in order. -/
theorem mapLeavesM_effects (f : Location → String → m Json) (value : Json) :
    (fun _ => ()) <$> value.mapLeavesM f
      = forM value.leaves fun leaf => (fun _ => ()) <$> f leaf.1 leaf.2 := by
  cases value with
  | null => simp [mapLeavesM, leaves]
  | bool b => simp [mapLeavesM, leaves]
  | num n => simp [mapLeavesM, leaves]
  | str s => simp [mapLeavesM, leaves]
  | arr items => simpa [mapLeavesM, leaves] using mapItemLeavesM_effects f 0 items
  | obj members => simpa [mapLeavesM, leaves] using mapMemberLeavesM_effects f members

theorem mapItemLeavesM_effects (f : Location → String → m Json) (index : Nat)
    (items : List Json) :
    (fun _ => ()) <$> mapItemLeavesM f index items
      = forM (itemLeaves index items) fun leaf => (fun _ => ()) <$> f leaf.1 leaf.2 := by
  cases items with
  | nil => simp [mapItemLeavesM, itemLeaves]
  | cons item rest =>
      have head := mapLeavesM_effects (fun place s => f (.index index :: place) s) item
      have tail := mapItemLeavesM_effects f (index + 1) rest
      simp only [mapItemLeavesM, itemLeaves, List.forM_append, List.forM_map, under, ← tail, ← head]
      simp

theorem mapMemberLeavesM_effects (f : Location → String → m Json)
    (members : List (String × Json)) :
    (fun _ => ()) <$> mapMemberLeavesM f members
      = forM (memberLeaves members) fun leaf => (fun _ => ()) <$> f leaf.1 leaf.2 := by
  match members with
  | [] => simp [mapMemberLeavesM, memberLeaves]
  | (key, value) :: rest =>
      have head := mapLeavesM_effects (fun place s => f (.key key :: place) s) value
      have tail := mapMemberLeavesM_effects f rest
      simp only [mapMemberLeavesM, memberLeaves, List.forM_append, List.forM_map, under, ← tail,
        ← head]
      simp

end

end

/-- A function that gives something for every leaf rebuilds the whole object. -/
theorem exists_mapMemberLeavesM {ε : Type} {f : Location → String → Except ε Json}
    {members : Members}
    (h : ∀ place text, (place, text) ∈ memberLeaves members → ∃ field, f place text = .ok field) :
    ∃ rebuilt, mapMemberLeavesM f members = .ok rebuilt := by
  have effects := mapMemberLeavesM_effects f members
  have passes : (forM (memberLeaves members) fun leaf => (fun _ => ()) <$> f leaf.1 leaf.2)
      = .ok () := by
    refine forM_eq_ok_iff.2 fun leaf hleaf => ?_
    obtain ⟨field, hfield⟩ := h leaf.1 leaf.2 hleaf
    rw [hfield]
    rfl
  rw [passes] at effects
  cases hrebuilt : mapMemberLeavesM f members with
  | error e =>
      rw [hrebuilt] at effects
      cases effects
  | ok rebuilt => exact ⟨rebuilt, rfl⟩

/-! ### Two monads -/

section
variable {m n : Type → Type} [Monad m] [Monad n]

/-- A relation between computations in two monads that holds of values given at once and passes
from steps to sequences of steps. -/
structure Relates (R : ∀ {α : Type}, m α → n α → Prop) : Prop where
  pure : ∀ {α : Type} (a : α), R (pure a) (pure a)
  map : ∀ {α β : Type} {x : m α} {y : n α} (f : α → β), R x y → R (f <$> x) (f <$> y)
  bind : ∀ {α β : Type} {x : m α} {y : n α} {f : α → m β} {g : α → n β},
    R x y → (∀ a, R (f a) (g a)) → R (x >>= f) (y >>= g)

variable {R : ∀ {α : Type}, m α → n α → Prop}

mutual

/-- Rebuilding a value with related functions gives related results. -/
theorem Relates.mapLeavesM (h : Relates @R) {f : Location → String → m Json}
    {g : Location → String → n Json} (leaf : ∀ place text, R (f place text) (g place text))
    (value : Json) : R (value.mapLeavesM f) (value.mapLeavesM g) := by
  cases value with
  | null => exact h.pure _
  | bool b => exact h.pure _
  | num x => exact h.pure _
  | str s => exact leaf [] s
  | arr items => exact h.map _ (Relates.mapItemLeavesM h leaf 0 items)
  | obj members => exact h.map _ (Relates.mapMemberLeavesM h leaf members)

theorem Relates.mapItemLeavesM (h : Relates @R) {f : Location → String → m Json}
    {g : Location → String → n Json} (leaf : ∀ place text, R (f place text) (g place text))
    (index : Nat) (items : List Json) :
    R (Json.mapItemLeavesM f index items) (Json.mapItemLeavesM g index items) := by
  cases items with
  | nil => exact h.pure _
  | cons item rest =>
      refine h.bind (Relates.mapLeavesM h (fun place s => leaf _ s) item) fun item => ?_
      exact h.bind (Relates.mapItemLeavesM h leaf (index + 1) rest) fun rest => h.pure _

theorem Relates.mapMemberLeavesM (h : Relates @R) {f : Location → String → m Json}
    {g : Location → String → n Json} (leaf : ∀ place text, R (f place text) (g place text))
    (members : List (String × Json)) :
    R (Json.mapMemberLeavesM f members) (Json.mapMemberLeavesM g members) := by
  match members with
  | [] => exact h.pure _
  | (key, value) :: rest =>
      refine h.bind (Relates.mapLeavesM h (fun place s => leaf _ s) value) fun value => ?_
      exact h.bind (Relates.mapMemberLeavesM h leaf rest) fun rest => h.pure _

end

end

/-! ### Two functions -/

section
variable {ε : Type}

mutual

/-- Rebuilding a value looks at the function at its leaves only. -/
theorem mapLeavesM_of_agree {f g : Location → String → Except ε Json}
    {value rebuilt : Json}
    (agree : ∀ leaf ∈ value.leaves, ∀ found, f leaf.1 leaf.2 = .ok found →
      g leaf.1 leaf.2 = .ok found)
    (h : value.mapLeavesM f = .ok rebuilt) : value.mapLeavesM g = .ok rebuilt := by
  cases value with
  | null => exact h
  | bool b => exact h
  | num n => exact h
  | str s => exact agree ([], s) (List.mem_singleton.2 rfl) rebuilt h
  | arr items =>
      rw [mapLeavesM, map_eq_ok_iff] at h ⊢
      obtain ⟨others, h, e⟩ := h
      exact ⟨others, mapItemLeavesM_of_agree agree h, e⟩
  | obj members =>
      rw [mapLeavesM, map_eq_ok_iff] at h ⊢
      obtain ⟨others, h, e⟩ := h
      exact ⟨others, mapMemberLeavesM_of_agree agree h, e⟩

theorem mapItemLeavesM_of_agree {f g : Location → String → Except ε Json} {index : Nat}
    {items rebuilt : List Json}
    (agree : ∀ leaf ∈ itemLeaves index items, ∀ found, f leaf.1 leaf.2 = .ok found →
      g leaf.1 leaf.2 = .ok found)
    (h : mapItemLeavesM f index items = .ok rebuilt) :
    mapItemLeavesM g index items = .ok rebuilt := by
  cases items with
  | nil => exact h
  | cons item rest =>
      rw [itemLeaves, List.forall_mem_append, List.forall_mem_map] at agree
      simp only [mapItemLeavesM, bind_eq_ok_iff] at h ⊢
      obtain ⟨first, hfirst, others, hothers, e⟩ := h
      exact ⟨first, mapLeavesM_of_agree agree.1 hfirst, others,
        mapItemLeavesM_of_agree agree.2 hothers, e⟩

theorem mapMemberLeavesM_of_agree {f g : Location → String → Except ε Json}
    {members rebuilt : List (String × Json)}
    (agree : ∀ leaf ∈ memberLeaves members, ∀ found, f leaf.1 leaf.2 = .ok found →
      g leaf.1 leaf.2 = .ok found)
    (h : mapMemberLeavesM f members = .ok rebuilt) : mapMemberLeavesM g members = .ok rebuilt := by
  match members with
  | [] => exact h
  | (key, value) :: rest =>
      rw [memberLeaves, List.forall_mem_append, List.forall_mem_map] at agree
      simp only [mapMemberLeavesM, bind_eq_ok_iff] at h ⊢
      obtain ⟨first, hfirst, others, hothers, e⟩ := h
      exact ⟨first, mapLeavesM_of_agree agree.1 hfirst, others,
        mapMemberLeavesM_of_agree agree.2 hothers, e⟩

end

end

/-! ### Locations -/

@[simp] theorem part?_obj_key (members : Members) (key : String) :
    (obj members).part? (.key key) = Members.get? members key := rfl

@[simp] theorem part?_arr_index (items : List Json) (i : Nat) :
    (arr items).part? (.index i) = items[i]? := by
  simp only [part?, Int.toNat_natCast]
  exact if_neg (by omega)

/-- One step into a value is a key of an object or an index of a list. -/
theorem part?_cases {value inner : Json} {step : Location.Part} (h : value.part? step = some inner) :
    (∃ members key, value = .obj members ∧ step = .key key ∧ Members.get? members key = some inner) ∨
      ∃ (items : List Json) (i : Nat),
        value = .arr items ∧ step = .index i ∧ items[i]? = some inner := by
  cases value with
  | obj members =>
      cases step with
      | key key => exact Or.inl ⟨members, key, rfl, rfl, h⟩
      | index i => simp [part?] at h
  | arr items =>
      cases step with
      | key key => simp [part?] at h
      | index i =>
          by_cases hi : i < 0
          · simp [part?, hi] at h
          · refine Or.inr ⟨items, i.toNat, rfl, ?_, by simpa [part?, hi] using h⟩
            rw [Int.toNat_of_nonneg (by omega)]
  | null => simp [part?] at h
  | bool b => simp [part?] at h
  | num n => simp [part?] at h
  | str s => simp [part?] at h

theorem mem_memberLeaves {members : Members} {key : String} {inner : Json} {place : Location}
    {text : String} (h : Members.get? members key = some inner)
    (leaf : (place, text) ∈ inner.leaves) : (.key key :: place, text) ∈ memberLeaves members := by
  induction members with
  | nil => simp at h
  | cons member rest ih =>
      obtain ⟨k, value⟩ := member
      rw [Members.get?_cons] at h
      rw [memberLeaves, List.mem_append]
      split at h
      · next hk =>
          cases h
          exact Or.inl (List.mem_map.2 ⟨(place, text), leaf, by rw [hk]; rfl⟩)
      · exact Or.inr (ih h)

theorem mem_itemLeaves {items : List Json} {index i : Nat} {inner : Json} {place : Location}
    {text : String} (h : items[i]? = some inner) (leaf : (place, text) ∈ inner.leaves) :
    (.index (index + i : Nat) :: place, text) ∈ itemLeaves index items := by
  induction items generalizing index i with
  | nil => simp at h
  | cons item rest ih =>
      rw [itemLeaves, List.mem_append]
      cases i with
      | zero =>
          obtain rfl : item = inner := by simpa using h
          exact Or.inl (List.mem_map.2 ⟨(place, text), leaf, rfl⟩)
      | succ i =>
          have : (.index (index + 1 + i : Nat) :: place, text) ∈ itemLeaves (index + 1) rest :=
            ih (by simpa using h)
          rw [show index + 1 + i = index + (i + 1) by omega] at this
          exact Or.inr this

/-- A text at a location is one of the leaves. -/
theorem mem_leaves_of_at? {value : Json} {place : Location} {text : String}
    (h : value.at? place = some (.str text)) : (place, text) ∈ value.leaves := by
  induction place generalizing value with
  | nil =>
      obtain rfl : value = .str text := by simpa using h
      simp [leaves]
  | cons step rest ih =>
      rw [at?_cons] at h
      obtain ⟨inner, hpart, hrest⟩ := Option.bind_eq_some_iff.1 h
      rcases part?_cases hpart with ⟨members, key, rfl, rfl, hkey⟩ | ⟨items, i, rfl, rfl, hitem⟩
      · exact mem_memberLeaves hkey (ih hrest)
      · have : (.index (0 + i : Nat) :: rest, text) ∈ itemLeaves 0 items :=
          mem_itemLeaves hitem (ih hrest)
        rwa [Nat.zero_add] at this

section
variable {ε : Type} {f : Location → String → Except ε Json}

/-- Rebuilding an object rebuilds what stands under each key. -/
theorem get?_mapMemberLeavesM {members rebuilt : Members} {key : String} {inner : Json}
    (h : mapMemberLeavesM f members = .ok rebuilt) (hkey : Members.get? members key = some inner) :
    ∃ field, inner.mapLeavesM (fun place s => f (.key key :: place) s) = .ok field ∧
      Members.get? rebuilt key = some field := by
  induction members generalizing rebuilt with
  | nil => simp at hkey
  | cons member rest ih =>
      obtain ⟨k, value⟩ := member
      rw [mapMemberLeavesM] at h
      obtain ⟨field, hfield, h⟩ := bind_eq_ok_iff.1 h
      obtain ⟨rebuiltRest, hrest, h⟩ := bind_eq_ok_iff.1 h
      cases h
      rw [Members.get?_cons] at hkey ⊢
      split at hkey
      · next hk =>
          subst hk
          cases hkey
          exact ⟨field, hfield, if_pos rfl⟩
      · next hk =>
          rw [if_neg hk]
          exact ih hrest hkey

/-- Rebuilding a list rebuilds what stands at each index. -/
theorem getElem?_mapItemLeavesM {items rebuilt : List Json} {index i : Nat} {inner : Json}
    (h : mapItemLeavesM f index items = .ok rebuilt) (hitem : items[i]? = some inner) :
    ∃ field, inner.mapLeavesM (fun place s => f (.index (index + i : Nat) :: place) s) = .ok field ∧
      rebuilt[i]? = some field := by
  induction items generalizing index i rebuilt with
  | nil => simp at hitem
  | cons item rest ih =>
      rw [mapItemLeavesM] at h
      obtain ⟨field, hfield, h⟩ := bind_eq_ok_iff.1 h
      obtain ⟨rebuiltRest, hrest, h⟩ := bind_eq_ok_iff.1 h
      cases h
      cases i with
      | zero =>
          obtain rfl : item = inner := by simpa using hitem
          exact ⟨field, hfield, rfl⟩
      | succ i =>
          obtain ⟨field', hfield', hget⟩ := ih hrest (by simpa using hitem)
          rw [show index + 1 + i = index + (i + 1) by omega] at hfield'
          exact ⟨field', hfield', by simpa using hget⟩

/-- Where a value had a text, the rebuilt one has what the function made of it. -/
theorem at?_mapLeavesM {value rebuilt : Json} {place : Location} {text : String}
    (h : value.mapLeavesM f = .ok rebuilt) (hat : value.at? place = some (.str text)) :
    ∃ field, f place text = .ok field ∧ rebuilt.at? place = some field := by
  induction place generalizing value rebuilt f with
  | nil =>
      obtain rfl : value = .str text := by simpa using hat
      exact ⟨rebuilt, by simpa [mapLeavesM] using h, rfl⟩
  | cons step rest ih =>
      rw [at?_cons] at hat
      obtain ⟨inner, hpart, hrest⟩ := Option.bind_eq_some_iff.1 hat
      rcases part?_cases hpart with ⟨members, key, rfl, rfl, hkey⟩ | ⟨items, i, rfl, rfl, hitem⟩
      · rw [mapLeavesM] at h
        obtain ⟨rebuiltMembers, hmembers, rfl⟩ := map_eq_ok_iff.1 h
        obtain ⟨field, hfield, hget⟩ := get?_mapMemberLeavesM hmembers hkey
        obtain ⟨result, hresult, hfound⟩ := ih hfield hrest
        exact ⟨result, hresult, by simp [at?_cons, hget, hfound]⟩
      · rw [mapLeavesM] at h
        obtain ⟨rebuiltItems, hitems, rfl⟩ := map_eq_ok_iff.1 h
        obtain ⟨field, hfield, hget⟩ := getElem?_mapItemLeavesM hitems hitem
        rw [Nat.zero_add] at hfield
        obtain ⟨result, hresult, hfound⟩ := ih hfield hrest
        exact ⟨result, hresult, by simp [at?_cons, hget, hfound]⟩

end

/-! ### Where leaves come from -/

theorem exists_of_mem_memberLeaves {members : Members} {leaf : Location × String}
    (h : leaf ∈ memberLeaves members) :
    ∃ key value inner, (key, value) ∈ members ∧ inner ∈ value.leaves ∧
      leaf = under (.key key) inner := by
  induction members with
  | nil => simp [memberLeaves] at h
  | cons member rest ih =>
      obtain ⟨key, value⟩ := member
      rw [memberLeaves, List.mem_append] at h
      rcases h with h | h
      · obtain ⟨inner, hinner, rfl⟩ := List.mem_map.1 h
        exact ⟨key, value, inner, List.mem_cons_self .., hinner, rfl⟩
      · obtain ⟨key', value', inner, hmem, hinner, e⟩ := ih h
        exact ⟨key', value', inner, List.mem_cons_of_mem _ hmem, hinner, e⟩

theorem exists_of_mem_itemLeaves {items : List Json} {index : Nat} {leaf : Location × String}
    (h : leaf ∈ itemLeaves index items) :
    ∃ (i : Nat) (item : Json) (inner : Location × String), items[i]? = some item ∧
      inner ∈ item.leaves ∧ leaf = under (.index (index + i : Nat)) inner := by
  induction items generalizing index with
  | nil => simp [itemLeaves] at h
  | cons item rest ih =>
      rw [itemLeaves, List.mem_append] at h
      rcases h with h | h
      · obtain ⟨inner, hinner, rfl⟩ := List.mem_map.1 h
        exact ⟨0, item, inner, rfl, hinner, rfl⟩
      · obtain ⟨i, item', inner, held, hinner, e⟩ := ih h
        refine ⟨i + 1, item', inner, held, hinner, ?_⟩
        rw [e, Nat.add_right_comm, Nat.add_assoc]

end Json

/-- Where keys are distinct each of them leads to its own value. -/
theorem Members.get?_of_mem {members : Members} {key : String} {value : Json}
    (distinct : members.keys.Nodup) (h : (key, value) ∈ members) :
    get? members key = some value := by
  induction members with
  | nil => cases h
  | cons member rest ih =>
      obtain ⟨k, v⟩ := member
      rw [keys, List.map_cons, List.nodup_cons] at distinct
      rw [get?_cons]
      rcases List.mem_cons.1 h with e | later
      · cases e
        exact if_pos rfl
      · have present : key ∈ rest.map Prod.fst := List.mem_map.2 ⟨_, later, rfl⟩
        rw [if_neg fun same : key = k => distinct.1 (same ▸ present)]
        exact ih distinct.2 later

namespace Json

/-- The keys of every object are distinct, at every depth. -/
inductive Distinct : Json → Prop where
  | null : Distinct .null
  | bool (b : Bool) : Distinct (.bool b)
  | num (n : Number) : Distinct (.num n)
  | str (s : String) : Distinct (.str s)
  | arr {items : List Json} (each : ∀ item ∈ items, Distinct item) : Distinct (.arr items)
  | obj {members : Members} (keys : members.keys.Nodup)
      (each : ∀ member ∈ members, Distinct member.2) : Distinct (.obj members)

/-- Where keys are distinct every leaf is the text at its location. -/
theorem Distinct.at?_of_mem_leaves {value : Json} (h : value.Distinct) {place : Location}
    {text : String} (leaf : (place, text) ∈ value.leaves) : value.at? place = some (.str text) := by
  induction h generalizing place with
  | null => simp [leaves] at leaf
  | bool b => simp [leaves] at leaf
  | num n => simp [leaves] at leaf
  | str s =>
      obtain ⟨rfl, rfl⟩ : place = [] ∧ text = s := by simpa [leaves] using leaf
      rfl
  | arr each ih =>
      obtain ⟨i, item, ⟨inside, text⟩, held, inner, ⟨⟩⟩ := exists_of_mem_itemLeaves leaf
      rw [at?_cons, Nat.zero_add, part?_arr_index, held]
      exact ih item (List.mem_of_getElem? held) inner
  | obj distinct each ih =>
      obtain ⟨key, value, ⟨inside, text⟩, member, inner, ⟨⟩⟩ := exists_of_mem_memberLeaves leaf
      rw [at?_cons, part?_obj_key, Members.get?_of_mem distinct member]
      exact ih _ member inner

/-! ### Order -/

/-- One place stands before another in a value, depth first: at the step where they part, its key or
index comes earlier. -/
inductive Before : Json → Location → Location → Prop where
  | keys {members : Members} {key key' : String} {value value' : Json} {p q : Location}
      (order : [(key, value), (key', value')].Sublist members) :
      Before (.obj members) (.key key :: p) (.key key' :: q)
  | indices {items : List Json} {i j : Nat} {p q : Location} (order : i < j) :
      Before (.arr items) (.index i :: p) (.index j :: q)
  | underKey {members : Members} {key : String} {value : Json} {p q : Location}
      (member : (key, value) ∈ members) (inside : Before value p q) :
      Before (.obj members) (.key key :: p) (.key key :: q)
  | underIndex {items : List Json} {i : Nat} {value : Json} {p q : Location}
      (item : items[i]? = some value) (inside : Before value p q) :
      Before (.arr items) (.index i :: p) (.index i :: q)

mutual

/-- The leaves of a value are listed depth first. -/
theorem pairwise_leaves (value : Json) :
    value.leaves.Pairwise fun leaf leaf' => value.Before leaf.1 leaf'.1 := by
  cases value with
  | null => simp [leaves]
  | bool b => simp [leaves]
  | num n => simp [leaves]
  | str s => simp [leaves]
  | arr items => exact pairwise_itemLeaves 0 items items List.drop_zero
  | obj members => exact pairwise_memberLeaves members members (List.suffix_refl _)

theorem pairwise_itemLeaves (index : Nat) (rest items : List Json)
    (h : items.drop index = rest) :
    (itemLeaves index rest).Pairwise fun leaf leaf' => (arr items).Before leaf.1 leaf'.1 := by
  cases rest with
  | nil => simp [itemLeaves]
  | cons item rest =>
      have stands : items[index]? = some item := by
        rw [← List.head?_drop, h]
        rfl
      have dropped : items.drop (index + 1) = rest := by
        rw [← List.tail_drop, h]
        rfl
      rw [itemLeaves, List.pairwise_append, List.pairwise_map]
      refine ⟨(pairwise_leaves item).imp fun before => .underIndex stands before,
        pairwise_itemLeaves (index + 1) rest items dropped, ?_⟩
      intro leaf hleaf leaf' hleaf'
      obtain ⟨inner, -, rfl⟩ := List.mem_map.1 hleaf
      obtain ⟨i, -, inner', -, -, rfl⟩ := exists_of_mem_itemLeaves hleaf'
      exact .indices (Nat.lt_add_right i (Nat.lt_succ_self index))

theorem pairwise_memberLeaves (rest members : List (String × Json)) (h : rest <:+ members) :
    (memberLeaves rest).Pairwise fun leaf leaf' => (obj members).Before leaf.1 leaf'.1 := by
  match rest with
  | [] => simp [memberLeaves]
  | (key, value) :: rest =>
      have stands : (key, value) ∈ members := h.subset (List.mem_cons_self ..)
      rw [memberLeaves, List.pairwise_append, List.pairwise_map]
      refine ⟨(pairwise_leaves value).imp fun before => .underKey stands before,
        pairwise_memberLeaves rest members ((List.suffix_cons _ _).trans h), ?_⟩
      intro leaf hleaf leaf' hleaf'
      obtain ⟨inner, -, rfl⟩ := List.mem_map.1 hleaf
      obtain ⟨key', value', inner', hmem, -, rfl⟩ := exists_of_mem_memberLeaves hleaf'
      exact .keys (((List.singleton_sublist.2 hmem).cons_cons (key, value)).trans h.sublist)

end

end Json

end CallPlan
