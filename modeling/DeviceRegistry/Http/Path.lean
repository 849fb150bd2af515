import DeviceRegistry.Text.Digit
import DeviceRegistry.Text.Pieces
import DeviceRegistry.Text.Utf8

/-!
# Paths

The path of a request as it is compared with those of the resources. Segments of one or two dots are
resolved, and then the escaped bytes are decoded.
-/

namespace DeviceRegistry.Http

/-- The characters with one slash in front. -/
def withOneSlash (cs : List Char) : List Char :=
  '/' :: cs.dropWhile (· == '/')

/-- The segments that remain, in reverse, after those already resolved: one dot is dropped, and two
dots drop the segment before, but not the empty one in front. -/
def resolveDots (resolved : List (List Char)) : List (List Char) → List (List Char)
  | [] => resolved
  | segment :: segments =>
    if segment = ['.'] then resolveDots resolved segments
    else if segment = ['.', '.'] then
      resolveDots (if resolved = [[]] then resolved else resolved.drop 1) segments
    else resolveDots (segment :: resolved) segments

/-- A path without segments of dots. -/
def withoutDots (cs : List Char) : List Char :=
  ['/'].intercalate (resolveDots [] (Text.pieces '/' cs)).reverse

/-- The bytes of some characters, an escaped byte being that byte; a sign that starts no escape
stays as it is. -/
def escapedBytes : List Char → List Nat
  | [] => []
  | '%' :: a :: b :: cs =>
    match Text.hexDigit? a, Text.hexDigit? b with
    | some high, some low => (16 * high + low) :: escapedBytes cs
    | _, _ => Text.toUtf8 ['%'] ++ escapedBytes (a :: b :: cs)
  | c :: cs => Text.toUtf8 [c] ++ escapedBytes cs

/-- The characters with every escaped byte decoded. -/
def unescape (cs : List Char) : List Char :=
  Text.ofUtf8 (escapedBytes cs)

example : String.ofList (withoutDots "/a/./../b/..".toList) = "" := by decide +kernel

example : String.ofList (unescape "/%C3%A9%68%2é".toList) = "/éh%2é" := by decide +kernel

end DeviceRegistry.Http
