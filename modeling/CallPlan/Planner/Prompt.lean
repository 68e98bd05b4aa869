import CallPlan.Registry
import CallPlan.Json.Literal

/-!
# CallPlan.Planner.Prompt

The texts that models are asked with: how to plan, with the registered tools and their schemas, and
how to write the final reply, with the request and an account of what was done.
-/

namespace CallPlan

namespace Prompt

/-- How a plan is to be written. -/
def planning : String :=
  "You are an assistant that can answer directly or by calling tools.\n" ++
  "Respond with exactly one JSON object and no extra text.\n" ++
  "\n" ++
  "If no tool is needed:\n" ++
  "\x7b\"type\": \"direct_response\", \"content\": \"<final reply to user>\"\x7d\n" ++
  "\n" ++
  "Otherwise plan every call up front, in order:\n" ++
  "\x7b\"type\": \"tool_calls\", \"reasoning\": \"<why>\", \"calls\": [\x7b\"tool_name\": " ++
  "\"<name>\", \"arguments\": \x7b...\x7d\x7d]\x7d\n" ++
  "\n" ++
  "A later call can use an earlier call's output by setting an argument to the exact string\n" ++
  "\"$<index>.output.<field.path>\", e.g. \"$0.output.artifact_id\".  " ++
  "Only reference earlier calls and\n" ++
  "only fields listed in that tool's output schema.\n"

/-- How the final reply is to be written. -/
def responding : String :=
  "You are an assistant writing the final reply to the user.  The tools you planned have run " ++
  "(or\ncould not run).  Use the execution summary below to answer the user's request.  If " ++
  "something\n" ++
  "failed, explain plainly what could not be done.\n"

/-- What the planner is told about a tool, if its schemas can be written. -/
def toolText (schema : ToolSchema) : Except LongNumber String := do
  let input ← (Json.obj schema.input).spelled Json.asciiText
  let output ← (Json.obj schema.output).spelled Json.asciiText
  return "- " ++ schema.name ++ ": " ++ schema.description ++ "\n  input_schema: " ++ input ++
    "\n  output_schema: " ++ output

/-- How to plan with the registered tools, in the order of their names, if all of them can be told
about. -/
def withTools (registry : Registry) : Except LongNumber String :=
  if registry.entries.isEmpty then .ok planning
  else do
    let tools ← (registry.names.filterMap registry.lookup).mapM toolText
    return planning ++ "\n\nAvailable tools:\n" ++ "\n".intercalate tools

/-- The request and the account of what was done, if both can be written. -/
def respondInput (request account : Json) : Except LongNumber String := do
  let request ← request.spelled Json.display
  let account ← account.spelled Json.display
  return "USER REQUEST:\n" ++ request ++ "\n\nEXECUTION SUMMARY:\n" ++ account

end Prompt

end CallPlan
