import StateMetrics.Config.Json
import StateMetrics.Json5.Reader

/-! # Configuration files in JSON5

A JSON5 document becomes a configuration tree value by value. Strings and object keys are
made of their pieces; an escape whose code is a surrogate names no character and fails. A
number is an integer when it has no point, no exponent (a hexadecimal number may hold the
digit `e`) and is not `Infinity` or `NaN`: decimal integers must fit in 64 signed bits, and
hexadecimal ones in 32 unsigned bits. Any other number is a float, which must be finite unless
it is written `Infinity`, `-Infinity`, `NaN` or `-NaN`. The document must be an object, whose
members are the file's entries; of members with one name the last wins. -/

namespace StateMetrics.Config

/-- The character a piece stands for. -/
def pieceChar : Json5.Piece → Except String Char
  | .char c => .ok c
  | .code n =>
    if n < 0xD800 || (0xDFFF < n && n < 0x110000) then .ok (Char.ofNat n)
    else .error "error parsing hex prefix"

/-- The text of the pieces of a string or an identifier. -/
def piecesText (ps : List Json5.Piece) : Except String String :=
  (ps.mapM pieceChar).map String.ofList

/-- The value of hexadecimal digits within 32 unsigned bits. -/
def hexValue32 (s : String) : Except String Nat :=
  match s.toList.foldlM (fun acc c => (Json5.hexDigit? c).map (acc * 16 + ·)) 0 with
  | none => .error "invalid digit found in string"
  | some v => if v < Nat.pow 2 32 then .ok v else .error "number too large to fit in target type"

/-- Whether a number's text has the `0x` prefix of a hexadecimal number. -/
def isHexNumeral (s : String) : Bool :=
  2 < s.length && (s.startsWith "0x" || s.startsWith "0X")

/-- Whether a number's text reads as an integer. -/
def isIntegerNumeral (s : String) : Bool :=
  !s.contains '.' && (isHexNumeral s || (!s.contains 'e' && !s.contains 'E')) &&
    !(s == "Infinity" || s == "-Infinity") && !(s == "NaN" || s == "-NaN")

/-- A decimal integer with an optional sign within 64 signed bits. -/
def decimalInteger? (s : String) : Option Int :=
  let (negative, body) := match s.toList with
    | '-' :: r => (true, r)
    | '+' :: r => (false, r)
    | r => (false, r)
  if body.isEmpty || !body.all Char.isDigit then none
  else
    let v : Int := body.foldl (fun acc c => acc * 10 + (c.toNat - '0'.toNat)) 0
    let v := if negative then -v else v
    if v < -((Nat.pow 2 63 : Nat) : Int) || ((Nat.pow 2 63 : Nat) : Int) ≤ v then none else some v

/-- The configuration value of a number's text. -/
def json5Number (origin : Option String) (s : String) : Except String Value :=
  if isIntegerNumeral s then
    if isHexNumeral s then (hexValue32 (s.drop 2).toString).map fun v => .int origin v
    else
      match decimalInteger? s with
      | some v => .ok (.int origin v)
      | none => .error "error parsing integer"
  else if s == "Infinity" then .ok (.float origin (Numeral.toFloat (.infinite false)))
  else if s == "-Infinity" then .ok (.float origin (Numeral.toFloat (.infinite true)))
  else if s == "NaN" || s == "-NaN" then .ok (.float origin (Numeral.toFloat .nan))
  else
    match parseFloat? s with
    | some f =>
      if f.isFinite then .ok (.float origin f) else .error "error parsing number: too large"
    | none => .error "error parsing number"

mutual

/-- The configuration value of a JSON5 value from a file. -/
def ofJson5 (origin : Option String) : Json5.Node → Except String Value
  | .null => .ok (.nil origin)
  | .bool b => .ok (.bool origin b)
  | .string ps => (piecesText ps).map (.text origin)
  | .number s => json5Number origin s
  | .array items => (ofJson5Items origin items).map (.array origin)
  | .object members => (ofJson5Members origin [] members).map (.table origin)

/-- The configuration values of JSON5 items. -/
def ofJson5Items (origin : Option String) : List Json5.Node → Except String (List Value)
  | [] => .ok []
  | v :: rest => do
    let x ← ofJson5 origin v
    let xs ← ofJson5Items origin rest
    pure (x :: xs)

/-- Adds the members of a JSON5 object, in order, to those gathered so far. -/
def ofJson5Members (origin : Option String) (acc : List (String × Value)) :
    List (List Json5.Piece × Json5.Node) → Except String (List (String × Value))
  | [] => .ok acc
  | (k, v) :: rest => do
    let name ← piecesText k
    let x ← ofJson5 origin v
    ofJson5Members origin (Value.putMember name x acc) rest

end

/-- Reads the entries of a JSON5 configuration file. -/
def parseJson5File (uri text : String) : Except String (List (String × Value)) :=
  Json5.parse text >>= ofJson5 (some uri) >>= rootEntries uri

end StateMetrics.Config
