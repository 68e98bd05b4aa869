import CallPlan.Proofs.Json.Leaves
import CallPlan.Proofs.Schema.Shape
import CallPlan.Proofs.Validation.Fault

/-!
# CallPlan.Proofs.Schema.Report

What is reported of a path that is not found.

* `Schema.Breaks` says where a path breaks off that is followed from a schema on: at a key that the
  schema reached by the keys before it does not declare, and with which keys it declares instead.
* A search reports just this (`walk_eq_missing_iff`), unless the path leads to a null schema, where
  no key is to blame.
* `Schema.field` joins two searches, and tells them apart by the name of the key at which the one in
  the artifact broke off. Its report is right where these reasons do not make it wrong
  (`field_report`): a null schema, or a first key that comes again where the path breaks off.
-/

namespace CallPlan

theorem Members.mem_keys_iff {members : Members} {key : String} :
    key ∈ members.keys ↔ members.contains key = true := by
  induction members with
  | nil => simp [keys, contains]
  | cons member rest ih =>
      obtain ⟨name, value⟩ := member
      have others : key ∈ List.map Prod.fst rest ↔ (get? rest key).isSome = true := ih
      rw [keys, List.map_cons, List.mem_cons, others, contains, get?_cons]
      by_cases same : key = name <;> simp [same]

namespace Json.Distinct

variable {schema inner : Json} {key : String}

theorem get? (h : schema.Distinct) (held : schema.get? key = some inner) : inner.Distinct := by
  unfold Json.get? at held
  split at held
  · cases h with
    | obj keys each => exact each _ (Schema.mem_of_get? held)
  · cases held

theorem properties (h : schema.Distinct) : (Json.obj (Schema.properties schema)).Distinct := by
  unfold Schema.properties
  split
  · next members held => exact h.get? held
  · exact .obj List.nodup_nil (List.forall_mem_nil _)

theorem searched (h : schema.Distinct) : (Json.obj (Schema.searched schema)).Distinct := by
  unfold Schema.searched
  split
  · exact h.properties
  · exact .obj List.nodup_nil (List.forall_mem_nil _)

end Json.Distinct

namespace Schema

/-! ## Along declared keys -/

/-- The schema that some keys lead to, each of them declared where it is reached. -/
inductive Leads : Json → List String → Json → Prop where
  | here {schema : Json} : Leads schema [] schema
  | into {schema inner last : Json} {key : String} {rest : List String}
      (declared : Members.get? (searched schema) key = some inner)
      (onward : Leads inner rest last) : Leads schema (key :: rest) last

/-- A path breaks off, if it is followed from a schema on, at the first key that is not declared
where it is reached, among the keys that are declared there. -/
inductive Breaks (start : Json) : List String → String → List String → Prop where
  | intro {before after siblings : List String} {last : Json} {segment : String}
      (reached : Leads start before last)
      (undeclared : Members.contains (searched last) segment = false)
      (declared : ∀ name, name ∈ siblings ↔ Members.contains (searched last) name = true) :
      Breaks start (before ++ segment :: after) segment siblings

section
variable {schema last : Json} {before path siblings : List String} {segment : String}

/-- Behind keys that are declared a search goes on as from the schema that they lead to. -/
theorem Leads.walk_append (h : Leads schema before last) (rest : List String) :
    walk schema (before ++ rest) = walk last rest := by
  induction h with
  | here => rfl
  | into declared onward ih =>
      rw [List.cons_append, walk_of_declared declared]
      exact ih

theorem Leads.walk_null (h : Leads schema path .null) : walk schema path = .missing "" [] := by
  have found := h.walk_append []
  rw [List.append_nil] at found
  rw [found]
  rfl

theorem Breaks.behind {inner : Json} {key : String}
    (declared : Members.get? (searched schema) key = some inner)
    (h : Breaks inner path segment siblings) : Breaks schema (key :: path) segment siblings := by
  cases h with
  | intro reached undeclared names => exact .intro (.into declared reached) undeclared names

theorem Breaks.congr {siblings' : List String} (h : Breaks schema path segment siblings)
    (same : ∀ name, name ∈ siblings' ↔ name ∈ siblings) :
    Breaks schema path segment siblings' := by
  cases h with
  | intro reached undeclared declared =>
      exact .intro reached undeclared fun name => (same name).trans (declared name)

/-- A path that starts with a declared key breaks off behind it. -/
theorem Breaks.inside {inner : Json} {key : String}
    (h : Breaks schema (key :: path) segment siblings)
    (held : Members.get? (searched schema) key = some inner) :
    Breaks inner path segment siblings := by
  generalize whole : key :: path = keys at h
  cases h with
  | intro reached undeclared declared =>
      cases reached with
      | here =>
          cases whole
          rw [Members.contains, held] at undeclared
          cases undeclared
      | into held' onward =>
          cases whole
          rw [held] at held'
          cases held'
          exact .intro onward undeclared declared

/-- A path whose keys are all declared does not break off. -/
theorem Leads.not_breaks (h : Leads schema path last) : ¬ Breaks schema path segment siblings := by
  induction h with
  | here =>
      generalize whole : ([] : List String) = keys
      rintro ⟨-, -, -⟩
      simp at whole
  | into declared onward ih => exact fun breaks => ih (breaks.inside declared)

/-- A path that starts with an undeclared key breaks off there. -/
theorem Breaks.stops {key : String} (h : Breaks schema (key :: path) segment siblings)
    (absent : Members.get? (searched schema) key = none) :
    segment = key ∧ ∀ name, name ∈ siblings ↔ Members.contains (searched schema) name = true := by
  generalize whole : key :: path = keys at h
  cases h with
  | intro reached undeclared declared =>
      cases reached with
      | here =>
          cases whole
          exact ⟨rfl, declared⟩
      | into held onward =>
          cases whole
          rw [absent] at held
          cases held

/-- A path breaks off at one place only. -/
theorem Breaks.same {segment' : String} {siblings' : List String}
    (h : Breaks schema path segment siblings) (h' : Breaks schema path segment' siblings') :
    segment = segment' ∧ ∀ name, name ∈ siblings ↔ name ∈ siblings' := by
  induction path generalizing schema with
  | nil => exact absurd h Leads.here.not_breaks
  | cons key rest ih =>
      cases held : Members.get? (searched schema) key with
      | some inner => exact ih (h.inside held) (h'.inside held)
      | none =>
          obtain ⟨rfl, names⟩ := h.stops held
          obtain ⟨rfl, names'⟩ := h'.stops held
          exact ⟨rfl, fun name => (names name).trans (names' name).symm⟩

/-- A search that finds nothing has met the end of the path at a null schema, or reports where the
path breaks off. -/
theorem breaks_or_null (h : walk schema path = .missing segment siblings) :
    Breaks schema path segment siblings ∨ Leads schema path .null ∧ segment = "" := by
  induction path generalizing schema with
  | nil =>
      rw [walk] at h
      split at h
      · next null =>
          cases h
          exact .inr ⟨null ▸ .here, rfl⟩
      · cases h
  | cons key rest ih =>
      rw [walk] at h
      split at h
      · cases h
      · next inner _ declared =>
          rcases ih h with breaks | ⟨leads, unnamed⟩
          · exact .inl (breaks.behind declared)
          · exact .inr ⟨.into declared leads, unnamed⟩
      · next _ absent =>
          cases h
          have undeclared : Members.contains (searched schema) segment = false := by
            rw [Members.contains, absent, Option.isSome_none]
          have breaks : Breaks schema ([] ++ segment :: rest) segment (searched schema).keys :=
            .intro .here undeclared fun _ => Members.mem_keys_iff
          exact .inl breaks

end

/-- What a search lists instead of a key that is not declared are other keys, each of them once. -/
theorem listed_of_walk_missing {schema : Json} {path siblings : List String} {segment : String}
    (h : walk schema path = .missing segment siblings) :
    segment ∉ siblings ∧ (schema.Distinct → siblings.Nodup) := by
  induction path generalizing schema with
  | nil =>
      rw [walk] at h
      split at h
      · cases h
        exact ⟨List.not_mem_nil, fun _ => List.nodup_nil⟩
      · cases h
  | cons key rest ih =>
      rw [walk] at h
      split at h
      · cases h
      · next inner _ declared =>
          obtain ⟨unlisted, nodup⟩ := ih h
          exact ⟨unlisted, fun distinct => nodup (distinct.searched.get? declared)⟩
      · next _ absent =>
          cases h
          constructor
          · rw [Members.mem_keys_iff, Members.contains, absent]
            exact Bool.false_ne_true
          · intro distinct
            cases distinct.searched with
            | obj keys each => exact keys

/-! ## From the top level or from the artifact -/

/-- The schema of the artifact, if the top level does not know a key but declares an artifact, which
declares the key. -/
def entered? (schema : Json) (first : String) : Option Json :=
  if Members.contains (properties schema) first then none
  else
    (Members.get? (properties schema) "artifact").filter fun artifact =>
      Members.contains (searched artifact) first

/-- Where a path is followed from. -/
def start (schema : Json) : List String → Json
  | [] => schema
  | first :: _ => (entered? schema first).getD schema

section
variable {schema : Json} {first segment : String} {rest siblings : List String}

/-- Where the top level knows the first key, only the top level is searched. -/
theorem field_of_known (known : Members.contains (properties schema) first = true) :
    field schema (first :: rest) = walk schema (first :: rest) := by
  unfold field
  cases walk schema (first :: rest) with
  | found inner => rfl
  | longType long => rfl
  | missing segment siblings =>
      dsimp only
      split
      · next key _ artifact path _ =>
          cases path
          rw [known, Bool.not_true, Bool.and_false]
          rfl
      · rfl

/-- Where the top level does not know the first key, an artifact is searched as well. -/
theorem field_of_unknown {single : Bool} (told : isArray schema = .ok single)
    (unknown : Members.get? (properties schema) first = none) :
    field schema (first :: rest) =
      match Members.get? (properties schema) "artifact" with
      | none => .missing first (searched schema).keys
      | some artifact =>
        match walk artifact (first :: rest) with
        | .found inner => .found inner
        | .longType long => .longType long
        | .missing nested keys =>
          if nested = first then .missing first (searched schema).keys
          else .missing nested keys := by
  have absent : Members.contains (properties schema) first = false := by
    rw [Members.contains, unknown, Option.isSome_none]
  unfold field
  rw [walk_of_undeclared told unknown]
  dsimp only
  cases Members.get? (properties schema) "artifact" with
  | none => rfl
  | some artifact =>
      have enters : (decide (first = first) && !Members.contains (properties schema) first)
          = true := by
        rw [absent, decide_eq_true rfl, Bool.not_false, Bool.and_true]
      dsimp only
      refine (if_pos enters).trans ?_
      cases walk artifact (first :: rest) <;> rfl

/-- The types of a schema of which a report is made can be told. -/
theorem told_of_field_missing (h : field schema (first :: rest) = .missing segment siblings) :
    ∃ single, isArray schema = .ok single := by
  cases told : isArray schema with
  | ok single => exact ⟨single, rfl⟩
  | error long =>
      rw [field, walk, told] at h
      cases h

/-- A search that goes into the artifact reports what the search there does, unless this names the
first key again. -/
theorem walk_artifact_of_field_missing {artifact : Json}
    (h : field schema (first :: rest) = .missing segment siblings)
    (unknown : Members.get? (properties schema) first = none)
    (held : Members.get? (properties schema) "artifact" = some artifact) :
    ∃ nested keys, walk artifact (first :: rest) = .missing nested keys ∧
      (nested ≠ first ∧ segment = nested ∧ siblings = keys ∨
        nested = first ∧ segment = first ∧ siblings = (searched schema).keys) := by
  obtain ⟨single, told⟩ := told_of_field_missing h
  rw [field_of_unknown told unknown, held] at h
  cases stops : walk artifact (first :: rest) with
  | found inner => simp only [stops, reduceCtorEq] at h
  | longType long => simp only [stops, reduceCtorEq] at h
  | missing nested keys =>
      simp only [stops] at h
      refine ⟨nested, keys, rfl, ?_⟩
      split at h
      next same =>
        cases h
        exact .inr ⟨same, rfl, rfl⟩
      next other =>
        cases h
        exact .inl ⟨other, rfl, rfl⟩

/-- What a search in both places reports: what the search from the top level does, or, if the
artifact is entered, what the search in the artifact does, unless this names the first key again. -/
theorem field_eq_missing (h : field schema (first :: rest) = .missing segment siblings) :
    (entered? schema first = none ∧ walk schema (first :: rest) = .missing segment siblings) ∨
    ∃ artifact nested keys, entered? schema first = some artifact ∧
      walk artifact (first :: rest) = .missing nested keys ∧
      (nested ≠ first ∧ segment = nested ∧ siblings = keys ∨
        nested = first ∧ segment = first ∧ siblings = (searched schema).keys) := by
  cases known : Members.get? (properties schema) first with
  | some next =>
      have known : Members.contains (properties schema) first = true := by
        rw [Members.contains, known, Option.isSome_some]
      rw [field_of_known known] at h
      exact .inl ⟨if_pos known, h⟩
  | none =>
      have unknown : ¬ Members.contains (properties schema) first = true := by
        rw [Members.contains, known, Option.isSome_none]
        exact Bool.false_ne_true
      obtain ⟨single, told⟩ := told_of_field_missing h
      have top : walk schema (first :: rest) = .missing first (searched schema).keys :=
        walk_of_undeclared told known
      rw [entered?, if_neg unknown]
      cases held : Members.get? (properties schema) "artifact" with
      | none =>
          rw [field_of_unknown told known, held] at h
          exact .inl ⟨rfl, top.trans h⟩
      | some artifact =>
          obtain ⟨nested, keys, stops, reported⟩ := walk_artifact_of_field_missing h known held
          cases declared : Members.contains (searched artifact) first with
          | true => exact .inr ⟨artifact, nested, keys, by simp [declared], stops, reported⟩
          | false =>
              -- the search in the artifact ends at once, so the top level has the word
              have here : Breaks artifact ([] ++ first :: rest) first _ :=
                .intro .here declared fun _ => Members.mem_keys_iff
              have breaks := (breaks_or_null stops).resolve_right fun null =>
                null.1.not_breaks here
              obtain rfl := (breaks.same here).1
              obtain ⟨-, rfl, rfl⟩ := reported.resolve_left fun other => other.1 rfl
              exact .inl ⟨by simp [declared], top⟩

/-- A path of which something else is reported than where it breaks off. -/
inductive Misreported (schema : Json) : List String → Prop where
  /-- It does not break off: all of its keys are declared, and the schema behind them is null. -/
  | null {path : List String} (leads : Leads (start schema path) path .null) :
      Misreported schema path
  /-- It breaks off in the artifact where its first key comes again, among other keys than those of
  the top level. -/
  | again {first : String} {rest siblings : List String} {artifact : Json}
      (entered : entered? schema first = some artifact)
      (breaks : Breaks artifact (first :: rest) first siblings)
      (other : ¬ ∀ name, name ∈ siblings ↔ name ∈ (searched schema).keys) :
      Misreported schema (first :: rest)

theorem start_of_entered {artifact : Json} (entered : entered? schema first = some artifact) :
    start schema (first :: rest) = artifact := by
  rw [start, entered, Option.getD_some]

theorem start_of_not_entered (outside : entered? schema first = none) :
    start schema (first :: rest) = schema := by
  rw [start, outside, Option.getD_none]

/-- Inside the artifact, the first key is declared, so a path that names it where it breaks off
names it once more. -/
theorem report_of_again {artifact : Json} {siblings' : List String}
    (entered : entered? schema first = some artifact)
    (breaks : Breaks artifact (first :: rest) first siblings')
    (missing : field schema (first :: rest) = .missing segment siblings) :
    segment = first ∧ siblings = (searched schema).keys := by
  rcases field_eq_missing missing with
    ⟨outside, -⟩ | ⟨artifact', nested, keys', entered', found, report⟩
  · rw [entered] at outside
    cases outside
  · rw [entered] at entered'
    cases entered'
    have found := (breaks_or_null found).resolve_right fun null => null.1.not_breaks breaks
    obtain rfl := (found.same breaks).1
    rcases report with ⟨other, -, -⟩ | ⟨-, segment_eq, siblings_eq⟩
    · exact absurd rfl other
    · exact ⟨segment_eq, siblings_eq⟩

theorem not_misreported_of_breaks {path : List String}
    (missing : field schema path = .missing segment siblings)
    (breaks : Breaks (start schema path) path segment siblings) : ¬ Misreported schema path := by
  intro misreported
  cases misreported with
  | null leads => exact leads.not_breaks breaks
  | again entered breaks' other =>
      obtain ⟨rfl, rfl⟩ := report_of_again entered breaks' missing
      rw [start_of_entered entered] at breaks
      exact other (breaks'.same breaks).2

theorem breaks_of_not_misreported {path : List String}
    (missing : field schema path = .missing segment siblings)
    (meets : ¬ Misreported schema path) : Breaks (start schema path) path segment siblings := by
  have noNull : ¬ Leads (start schema path) path .null := fun leads => meets (.null leads)
  cases path with
  | nil =>
      by_cases null : schema = .null
      · subst null
        exact absurd .here noNull
      · rw [field, walk, if_neg null] at missing
        cases missing
  | cons first rest =>
      rcases field_eq_missing missing with
        ⟨outside, found⟩ | ⟨artifact, nested, keys, entered, found, report⟩
      · rw [start_of_not_entered outside] at noNull ⊢
        exact (breaks_or_null found).resolve_right fun null => noNull null.1
      · rw [start_of_entered entered] at noNull ⊢
        have breaks := (breaks_or_null found).resolve_right fun null => noNull null.1
        rcases report with ⟨-, rfl, rfl⟩ | ⟨rfl, rfl, rfl⟩
        · exact breaks
        · -- the keys of the top level are told, which may be those where the path breaks off
          have told := Classical.not_not.1 fun other => meets (.again entered breaks other)
          exact breaks.congr fun name => (told name).symm

/-- The end of a path at a null schema is reported with no key. -/
theorem report_of_null {path : List String} (leads : Leads (start schema path) path .null)
    (missing : field schema path = .missing segment siblings) : segment = "" := by
  have stops := leads.walk_null
  cases path with
  | nil =>
      cases leads
      cases (missing : FieldSearch.missing "" [] = _)
      rfl
  | cons first rest =>
      rcases field_eq_missing missing with
        ⟨outside, found⟩ | ⟨artifact, nested, keys, entered, found, report⟩
      · rw [start_of_not_entered outside, found] at stops
        cases stops
        rfl
      · rw [start_of_entered entered, found] at stops
        cases stops
        rcases report with ⟨-, rfl, -⟩ | ⟨unnamed, segment_eq, -⟩
        · rfl
        · exact segment_eq.trans unnamed.symm

end

/-! ## The report of a validation -/

/-- A field that is not found is reported with the key at which the search ended, and with the keys
that are declared in its place, in order. -/
theorem checkReference_of_missing {registry : Registry} {plan : ToolCalls} {index : Nat}
    {input : Json} {place : Location} {reference : Reference} {source : PlannedCall}
    {segment : String} {siblings : List String} (earlier : reference.source < index)
    (called : plan.calls[reference.source]? = some source)
    (missing : field (Validation.outputSchema registry source.tool) reference.path
      = .missing segment siblings) :
    Validation.checkReference registry plan index input place reference
      = .error (.violation ⟨index, place.text, reference.raw,
        .fieldNotFound source.tool segment (Text.sorted siblings)⟩) := by
  rw [Validation.checkReference_of_lt earlier called, missing]

/-- What is reported of a path that is not found is the key at which it breaks off, where it is to
be followed from, and the keys that are declared there, unless the path is one of those that are
misreported: then no key is named, or the keys of the top level. -/
theorem report_meets_iff {schema : Json} {path : List String} {segment : String}
    {siblings : List String} (missing : field schema path = .missing segment siblings) :
    (Breaks (start schema path) path segment siblings ↔ ¬ Misreported schema path) ∧
    (Misreported schema path → segment = "" ∨
      path.head? = some segment ∧ siblings = (searched schema).keys) ∧
    ∀ registry plan index input place (reference : Reference) source, reference.path = path →
      reference.source < index → plan.calls[reference.source]? = some source →
      Validation.outputSchema registry source.tool = schema →
      Validation.checkReference registry plan index input place reference
        = .error (.violation ⟨index, place.text, reference.raw,
          .fieldNotFound source.tool segment (Text.sorted siblings)⟩) := by
  refine ⟨⟨not_misreported_of_breaks missing, breaks_of_not_misreported missing⟩, ?_, ?_⟩
  · rintro (leads | ⟨entered, breaks, -⟩)
    · exact .inl (report_of_null leads missing)
    · obtain ⟨segment_eq, siblings_eq⟩ := report_of_again entered breaks missing
      exact .inr ⟨congrArg some segment_eq.symm, siblings_eq⟩
  · rintro registry plan index input place reference source rfl earlier called rfl
    exact checkReference_of_missing earlier called missing

end Schema

namespace Sample

/-- A schema of an artifact with a title and a size among its properties. -/
def titled : Json :=
  declaring [("artifact", declaring
    [("work", declaring [("title", .obj []), ("size", .obj [])])])]

/-- A schema of an artifact that does not repeat its only property. -/
def single : Json := declaring [("artifact", declaring [("work", declaring [("title", .obj [])])])]

end Sample

namespace Schema

/-- A key that the artifact lacks is reported with the keys that stand beside it. -/
theorem report_meets_iff_titled :
    field Sample.titled ["work", "author"] = .missing "author" ["title", "size"] ∧
      Breaks (start Sample.titled ["work", "author"]) ["work", "author"] "author"
        ["title", "size"] := by
  have missing : field Sample.titled ["work", "author"] = .missing "author" ["title", "size"] := by
    rfl
  have walked : walk (start Sample.titled ["work", "author"]) ["work", "author"]
      = .missing "author" ["title", "size"] := by rfl
  have meets : ¬ Misreported Sample.titled ["work", "author"] := by
    rintro (leads | ⟨entered, breaks, -⟩)
    · have stops := leads.walk_null
      rw [walked] at stops
      simp at stops
    · have walked := (breaks_or_null walked).resolve_right fun null => absurd null.2 (by decide)
      rw [start_of_entered entered] at walked
      exact absurd (walked.same breaks).1 (by decide)
  exact ⟨missing, (report_meets_iff missing).1.2 meets⟩

/-- A path is reported among the keys of the top level though it breaks off inside the artifact, and
another one without a key though all of its keys are declared. -/
theorem exists_misreported :
    (∃ schema path segment siblings siblings', field schema path = .missing segment siblings ∧
      Breaks (start schema path) path segment siblings' ∧
      ¬ Breaks (start schema path) path segment siblings) ∧
    ∃ schema path, field schema path = .missing "" [] ∧
      ∀ segment siblings, ¬ Breaks (start schema path) path segment siblings := by
  have walked : walk (start Sample.single ["work", "work"]) ["work", "work"]
      = .missing "work" ["title"] := by rfl
  have breaks := (breaks_or_null walked).resolve_right fun null => absurd null.2 (by decide)
  refine ⟨⟨Sample.single, ["work", "work"], "work", ["artifact"], ["title"], by rfl, breaks, ?_⟩,
    Sample.declaring [("work", .null)], ["work"], by rfl, ?_⟩
  · intro told
    have same := ((breaks.same told).2 "title").1 (List.mem_singleton_self _)
    simp at same
  · intro segment siblings
    have leads : Leads (Sample.declaring [("work", .null)]) ["work"] .null := .into rfl .here
    exact leads.not_breaks

end Schema

end CallPlan
