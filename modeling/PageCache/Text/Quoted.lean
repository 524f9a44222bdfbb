import PageCache.Text.Hex
import PageCache.Text.Shapeless

/-!
# Quoted text

A text between double quotes, as messages and diagnostics show it: the quote, the backslash and
characters that would show nothing by themselves are written as escapes, all else as itself. An
apostrophe stays bare.
-/

namespace PageCache.Quoted

/-- The written form of one character: a short escape where there is one, a code point in braces
for another character without a shape. -/
def escape (c : Char) : String :=
  match c with
  | '"' => "\\\""
  | '\\' => "\\\\"
  | '\n' => "\\n"
  | '\r' => "\\r"
  | '\t' => "\\t"
  | '\x00' => "\\0"
  | c => if isShapeless c then "\\u\x7b" ++ Hex.ofNat c.toNat ++ "\x7d" else c.toString

/-- The text between double quotes, escaped. -/
def quote (s : String) : String := "\"" ++ String.join (s.toList.map escape) ++ "\""

end PageCache.Quoted
