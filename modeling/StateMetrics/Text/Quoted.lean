import StateMetrics.Text.Unicode

/-! # Quoted text in messages

Messages quote names the way a reader can see every character: the text stands between
double quotes, the quote and the backslash are escaped with a backslash, tab, carriage return,
line feed and NUL are written `\t`, `\r`, `\n`, `\0`, and a character that does not print on
its own (see `Unicode.isEscaped`: controls, format characters, separators other than the
space, unassigned code points, and marks that would attach to the character before them) is
written as `\u{hex}` with lower-case digits and no leading zeros. Everything else, other
scripts included, is written as it is. -/

namespace StateMetrics.Text

/-- The lower-case hexadecimal digits of a number, without leading zeros. -/
def hexDigits (n : Nat) : List Char :=
  (Nat.toDigits 16 n)

/-- How one character is written inside a quoted name. -/
def escapeChar (c : Char) : List Char :=
  if c = '"' then ['\\', '"']
  else if c = '\\' then ['\\', '\\']
  else if c = '\t' then ['\\', 't']
  else if c = '\r' then ['\\', 'r']
  else if c = '\n' then ['\\', 'n']
  else if c = '\x00' then ['\\', '0']
  else if Unicode.isEscaped c then
    ['\\', 'u', '\x7b'] ++ hexDigits c.toNat ++ ['\x7d']
  else [c]

/-- A name between double quotes, with its invisible characters made visible. -/
def quoted (s : String) : String :=
  String.ofList ('"' :: s.toList.flatMap escapeChar ++ ['"'])

/-- A character between single quotes, written as in `quoted` except that the single quote
is escaped and the double quote is not. -/
def quotedChar (c : Char) : String :=
  let body := if c = '\'' then ['\\', '\''] else if c = '"' then ['"'] else escapeChar c
  String.ofList ('\'' :: body ++ ['\''])

/-- A list of names in brackets, each quoted, separated by a comma and a blank. -/
def quotedList (names : List String) : String :=
  "[" ++ ", ".intercalate (names.map quoted) ++ "]"

end StateMetrics.Text
