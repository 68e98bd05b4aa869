import CallPlan.Record.Checked

/-!
# CallPlan.ToolSchema

What a tool declares about itself: its name, a description for the planner, and the JSON Schemas of
its arguments and of its structured output.
-/

namespace CallPlan

/-- The declaration of a tool. -/
structure ToolSchema where
  name : String
  description : String
  input : Members
  output : Members
  deriving DecidableEq, Inhabited

namespace ToolSchema

/-- The schema of an object about which nothing else is said. -/
def anyObject : Members := [("type", .str "object")]

/-- A declaration as a JSON value. -/
def toJson (schema : ToolSchema) : Json :=
  .obj [("name", .str schema.name), ("description", .str schema.description),
    ("input_schema", .obj schema.input), ("output_schema", .obj schema.output)]

/-- Reads a declaration. -/
def check : Json → Checked ToolSchema :=
  Record.object fun ms =>
    ToolSchema.mk <$> Record.required ms "name" Record.text
      <*> Record.optional ms "description" "" Record.text
      <*> Record.optional ms "input_schema" anyObject Record.members
      <*> Record.optional ms "output_schema" [] Record.members

end ToolSchema

end CallPlan
