import Kmtproto.Json.Text

/-! RFC 8259 values. A parsed value keeps the raw text of its children, so a
decoder may descend into a child or keep its bytes, and a nesting budget bounds
the recursion as the standard decoder bounds it. -/
namespace Kmtproto.Json

def isSpace (c : UInt8) : Bool := c == 0x20 || c == 0x09 || c == 0x0A || c == 0x0D

def skipSpace (input : Bytes) : Bytes := input.dropWhile isSpace

def isDigit (c : UInt8) : Bool := 0x30 ≤ c && c ≤ 0x39

/-- Position inside a string literal; `hex n` still expects `n+1` hex digits. -/
inductive StringState where
  | plain
  | escape
  | hex (more : Nat)
  deriving DecidableEq, Repr

def StringState.next : StringState → UInt8 → Option StringState
  | .plain, c => if c < 0x20 then none else if c = 0x5C then some .escape else some .plain
  | .escape, c =>
    if c = 0x75 then some (.hex 3)
    else if c ∈ [0x22,0x5C,0x2F,0x62,0x66,0x6E,0x72,0x74] then some .plain
    else none
  | .hex more, c =>
    if (hexValue c).isNone then none
    else match more with
      | 0 => some .plain
      | more+1 => some (.hex more)

def scanChars : StringState → Bytes → Option (Bytes × Bytes)
  | _, [] => none
  | state, c::rest =>
    if state = .plain ∧ c = 0x22 then some ([],rest)
    else do
      let state ← state.next c
      let (chars,after) ← scanChars state rest
      some (c::chars,after)

def scanSign : Bytes → Bytes × Bytes
  | 0x2D::rest => ([0x2D],rest)
  | input => ([],input)

def scanInteger : Bytes → Option (Bytes × Bytes)
  | 0x30::rest => some ([0x30],rest)
  | input =>
    if (input.takeWhile isDigit).isEmpty then none
    else some (input.takeWhile isDigit,input.dropWhile isDigit)

def scanFraction : Bytes → Option (Bytes × Bytes)
  | 0x2E::rest =>
    if (rest.takeWhile isDigit).isEmpty then none
    else some (0x2E::rest.takeWhile isDigit,rest.dropWhile isDigit)
  | input => some ([],input)

def scanExponentSign : Bytes → Bytes × Bytes
  | c::rest => if c = 0x2B ∨ c = 0x2D then ([c],rest) else ([],c::rest)
  | [] => ([],[])

def scanExponent : Bytes → Option (Bytes × Bytes)
  | c::rest =>
    if c = 0x65 ∨ c = 0x45 then
      let (sign,after) := scanExponentSign rest
      if (after.takeWhile isDigit).isEmpty then none
      else some (c::(sign ++ after.takeWhile isDigit),after.dropWhile isDigit)
    else some ([],c::rest)
  | [] => some ([],[])

def scanNumber (input : Bytes) : Option (Bytes × Bytes) := do
  let (sign,afterSign) := scanSign input
  let (integer,afterInteger) ← scanInteger afterSign
  let (fraction,afterFraction) ← scanFraction afterInteger
  let (exponent,rest) ← scanExponent afterFraction
  some (sign ++ integer ++ fraction ++ exponent,rest)

/-- One level of a value: names and strings as the characters between their
quotes, children as raw text without surrounding space. -/
inductive Node where
  | null
  | bool (value : Bool)
  | num (text : Bytes)
  | str (chars : Bytes)
  | arr (items : List Bytes)
  | obj (members : List (Bytes × Bytes))
  deriving DecidableEq, Repr

def word (text : Bytes) (node : Node) (input : Bytes) : Option (Node × Bytes) :=
  if text.isPrefixOf input then some (node,input.drop text.length) else none

def scalar : Bytes → Option (Node × Bytes)
  | [] => none
  | c::rest =>
    if c = 0x22 then (scanChars .plain rest).map (fun (chars,after) => (.str chars,after))
    else if c = 0x74 then word [0x74,0x72,0x75,0x65] (.bool true) (c::rest)
    else if c = 0x66 then word [0x66,0x61,0x6C,0x73,0x65] (.bool false) (c::rest)
    else if c = 0x6E then word [0x6E,0x75,0x6C,0x6C] .null (c::rest)
    else (scanNumber (c::rest)).map (fun (text,after) => (.num text,after))

/-- The text a parser consumes, in place of its result. -/
def rawText {α : Type} (parse : Bytes → Option (α × Bytes)) (input : Bytes) : Option (Bytes × Bytes) :=
  (parse input).map (fun (_,rest) => (input.take (input.length - rest.length),rest))

/-- Comma-separated items up to a closing byte, space allowed around each. -/
def sepBy {α : Type} (item : Bytes → Option (α × Bytes)) (close : UInt8) :
    Nat → Bytes → Option (List α × Bytes)
  | 0, _ => none
  | fuel+1, input => do
    let (first,afterFirst) ← item (skipSpace input)
    match skipSpace afterFirst with
    | [] => none
    | c::rest =>
      if c = 0x2C then do
        let (others,after) ← sepBy item close fuel rest
        some (first::others,after)
      else if c = close then some ([first],rest)
      else none

def items {α : Type} (item : Bytes → Option (α × Bytes)) (close : UInt8) (input : Bytes) :
    Option (List α × Bytes) :=
  match skipSpace input with
  | [] => none
  | c::rest => if c = close then some ([],rest) else sepBy item close input.length input

def member (value : Bytes → Option (Node × Bytes)) : Bytes → Option ((Bytes × Bytes) × Bytes)
  | 0x22::rest => do
    let (name,afterName) ← scanChars .plain rest
    match skipSpace afterName with
    | 0x3A::afterColon => do
      let (raw,after) ← rawText value (skipSpace afterColon)
      some ((name,raw),after)
    | _ => none
  | _ => none

/-- A value at the head of the input, with at most `depth` nested brackets. -/
def parseValue : Nat → Bytes → Option (Node × Bytes)
  | 0, input => scalar input
  | depth+1, input =>
    match input with
    | 0x7B::rest => (items (member (parseValue depth)) 0x7D rest).map (fun (members,after) => (.obj members,after))
    | 0x5B::rest => (items (rawText (parseValue depth)) 0x5D rest).map (fun (children,after) => (.arr children,after))
    | _ => scalar input

/-- The nesting limit of `encoding/json`. -/
def maxNestingDepth : Nat := 10000

/-- The single value a text consists of, space allowed around it. -/
def viewAt (depth : Nat) (text : Bytes) : Option Node := do
  let (node,rest) ← parseValue depth (skipSpace text)
  if (skipSpace rest).isEmpty then some node else none

def view (text : Bytes) : Option Node := viewAt maxNestingDepth text

/-- `json.Valid`. -/
def valid (text : Bytes) : Bool := (view text).isSome

def decimalDigits : Nat → Nat → Bytes → Bytes
  | 0, _, tail => tail
  | fuel+1, n, tail =>
    if n < 10 then UInt8.ofNat (0x30 + n)::tail
    else decimalDigits fuel (n / 10) (UInt8.ofNat (0x30 + n % 10)::tail)

def decimal (n : Nat) : Bytes := decimalDigits (n+1) n []

def decimalInt : Int → Bytes
  | .ofNat n => decimal n
  | .negSucc n => 0x2D::decimal (n+1)

/-- The value of a digit sequence, as `strconv.ParseUint` with base ten. -/
def parseDecimal (text : Bytes) : Option Nat :=
  if text.isEmpty ∨ text.any (fun c => !isDigit c) then none
  else some (text.foldl (fun n c => n*10 + (c.toNat - 0x30)) 0)

def commaJoin : List Bytes → Bytes
  | [] => []
  | [text] => text
  | text::others => text ++ 0x2C::commaJoin others

def encodeArray (children : List Bytes) : Bytes := 0x5B::(commaJoin children ++ [0x5D])

def encodeMember (entry : Bytes × Bytes) : Bytes := 0x22::(entry.1 ++ 0x22::0x3A::entry.2)

def encodeObject (members : List (Bytes × Bytes)) : Bytes :=
  0x7B::(commaJoin (members.map encodeMember) ++ [0x7D])

example : view (lit " \x7b\"a\" : [1, 2.5e-3] , \"b\":null\x7d ") =
    some (.obj [(lit "a",lit "[1, 2.5e-3]"),(lit "b",lit "null")]) := by decide +kernel

end Kmtproto.Json
