import RegisterLink.Text.Unprintable

/-!
# Quoted text

Texts a caller handed in are shown between double quotes in messages. A quote, a backslash and
the common controls have short escapes; other characters that would not be seen are written by
their number, as `\u{…}` in lower-case hexadecimal.
-/
namespace RegisterLink.Quoted

/-- One character as it stands between the quotes. -/
def escape (c : Char) : List Char :=
  match c with
  | '\x00' => ['\\', '0']
  | '\t' => ['\\', 't']
  | '\r' => ['\\', 'r']
  | '\n' => ['\\', 'n']
  | '"' => ['\\', '"']
  | '\\' => ['\\', '\\']
  | _ =>
    if Unprintable.isUnprintable c then
      ['\\', 'u', '\x7b'] ++ Nat.toDigits 16 c.toNat ++ ['\x7d']
    else [c]

/-- A text between quotes. -/
def quote (text : String) : String :=
  String.ofList ('"' :: text.toList.flatMap escape ++ ['"'])

end RegisterLink.Quoted
