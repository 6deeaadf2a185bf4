import Mathlib.Data.List.AList

/-!
# Decoded values and text

A configuration value as figment decodes it, and the text functions the deserializers use. `Num`
holds the numbers of 64 bits, a float by its bits. `serde_json` reads its own `Value` from each of
these, so one type serves for both.
-/
namespace ServerlessComponents.AgentConfig

inductive Num where
  | u64 (n : UInt64)
  | i64 (n : Int64)
  | f64 (bits : UInt64)
  deriving DecidableEq, Repr

inductive Value where
  | null
  | bool (b : Bool)
  | num (n : Num)
  | string (s : String)
  | array (vs : List Value)
  | dict (es : List (String × Value))
  deriving Repr

abbrev HashMap (α : Type) := AList fun _ : String => α

/-- The data of a provider, by key. -/
abbrev Dict := HashMap Value

def Value.ofDict (d : Dict) : Value := .dict (d.entries.map fun e => (e.1, e.2))

/-- An integer, if the number is one. -/
def Num.toInt? : Num → Option Int
  | .u64 n => some n.toNat
  | .i64 n => some n.toInt
  | .f64 _ => none

def Value.asStr : Value → Option String
  | .string s => some s
  | _ => none

/-- A field of a struct: an entry of a map under its name, or an element of a sequence at its
place in the declaration. -/
def Value.member (i : Nat) (name : String) : Value → Option Value
  | .dict es => es.lookup name
  | .array vs => vs[i]?
  | _ => none

/-! ## Errors -/

inductive ErrorKind where
  | invalidType (actual : Value) (expected : String)
  | missingField (name : String)
  | unknownVariant (name : String)
  | invalidLength (length : Nat) (expected : String)
  deriving Repr

/-- An error with the keys that lead to the value. -/
structure Error where
  path : List String
  kind : ErrorKind
  deriving Repr

def invalidType (actual : Value) (expected : String) : Error := ⟨[], .invalidType actual expected⟩

/-- The error of a value, seen from the map that holds it. -/
def Error.under (key : String) (e : Error) : Error := { e with path := key :: e.path }

/-! ## Text -/

/-- The `White_Space` property of Unicode. -/
def isWhitespace (c : Char) : Bool :=
  (9 ≤ c.toNat && c.toNat ≤ 13) || (0x2000 ≤ c.toNat && c.toNat ≤ 0x200A) ||
    [0x20, 0x85, 0xA0, 0x1680, 0x2028, 0x2029, 0x202F, 0x205F, 0x3000].contains c.toNat

/-- Drop the characters at the end that satisfy `p`. -/
def trimEndMatches (p : Char → Bool) (s : String) : String :=
  String.ofList (s.toList.reverse.dropWhile p).reverse

def trim (s : String) : String :=
  trimEndMatches isWhitespace (String.ofList (s.toList.dropWhile isWhitespace))

def split (p : Char → Bool) (s : String) : List String :=
  (s.toList.splitOnP p).map String.ofList

/-- The parts before and after the first `c`, as `splitn(2, c)` gives them. -/
def splitOnce (c : Char) (s : String) : String × Option String :=
  match s.toList.span (· ≠ c) with
  | (before, []) => (String.ofList before, none)
  | (before, _ :: after) => (String.ofList before, some (String.ofList after))

def splitWhitespace (s : String) : List String := (split isWhitespace s).filter (! ·.isEmpty)

def toLowercase (s : String) : String := String.ofList (s.toList.map Char.toLower)

example : trim " a b\t" = "a b" := by decide
example : splitOnce ':' "url:http://x" = ("url", some "http://x") := by decide

end ServerlessComponents.AgentConfig
