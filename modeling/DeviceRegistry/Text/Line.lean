/-!
# Single lines

A request value that goes into a log line must not start another one.
-/

namespace DeviceRegistry.Text

/-- A character that ends a line of a log. -/
def endsLine (c : Char) : Bool :=
  c == '\r' || c == '\n'

/-- A text without the characters that end a line. -/
def oneLine (s : String) : String :=
  String.ofList (s.toList.filter fun c => !endsLine c)

end DeviceRegistry.Text
