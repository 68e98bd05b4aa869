/-!
# CallPlan.Terminal

Coloured text on a terminal. A colour stands for a kind of message.
-/

namespace CallPlan

/-- A colour of text. -/
inductive Colour where
  /-- Failures and rejected plans. -/
  | red
  /-- Successful calls and banners. -/
  | green
  /-- Final replies. -/
  | yellow
  /-- Prompts and links. -/
  | blue
  deriving DecidableEq, Inhabited

namespace Colour

/-- The sequence that switches to a colour. -/
def start : Colour → String
  | .red => "\x1b[91m"
  | .green => "\x1b[92m"
  | .yellow => "\x1b[33m"
  | .blue => "\x1b[94m"

/-- The sequence that switches back. -/
def stop : String := "\x1b[0m"

/-- A text in a colour. -/
def paint (colour : Colour) (text : String) : String := colour.start ++ text ++ stop

/-- A line in a colour. -/
def line (colour : Colour) (text : String) : String := colour.paint text ++ "\n"

end Colour

end CallPlan
