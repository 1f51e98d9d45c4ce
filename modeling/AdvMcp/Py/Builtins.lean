import AdvMcp.Py.Exc

/-!
# Python's built-in functions

The functions of the standard library that the read tools call and whose tables, number formats and
grammars are no part of this model.  A result about the tools holds for all of them.
-/

namespace AdvMcp.Py

/-- What `json.loads` or `ast.literal_eval` makes of a text. -/
inductive Parsed where
  | value (v : Value)
  /-- A `JSONDecodeError`; a `ValueError` or a `SyntaxError` of `ast.literal_eval`. -/
  | malformed
  /-- Any other exception: too deep a nesting, a list as a dictionary's key, an integer of too many digits. -/
  | raised (e : PyExc)

structure Builtins where
  lower : Lower
  /-- `repr(v)`, of a list or a dictionary -/
  repr : Value → String
  /-- `v == w`, on values of fields; none of them is NaN. -/
  eq : Value → Value → Bool
  eq_refl : ∀ v, eq v v = true
  eq_str : ∀ s v, eq (.str s) v = true ↔ v = .str s
  /-- `format(v, spec)` -/
  format : Value → String → String
  /-- `json.dumps(v)` -/
  dumps : Value → String
  /-- `json.loads(s)` -/
  loads : String → Parsed
  /-- `ast.literal_eval(s)` -/
  literalEval : String → Parsed
  /-- `int(x)` of a float -/
  intOfFloat : String → Except PyExc ℤ
  /-- `int(s)` of a string -/
  intOfStr : String → Except PyExc ℤ
  /-- `html.unescape(s)` -/
  unescape : String → String
  /-- `strptime(s, "%Y-%m-%d %H:%M:%S")` in the format `"%Y-%m-%dT%H:%M:%S+00:00"`; `none` is a
  `ValueError`. -/
  isoOfText : String → Option String
  /-- The same of a `datetime`, and `isoformat()` of a `date`, from their `str`. -/
  isoOfDate : String → String

section Builtins

variable (py : Builtins)

/-- `str(v)` -/
def Builtins.str (v : Value) : String := v.pyStr py.repr

/-- `int(v)` -/
def Builtins.int : Value → Except PyExc ℤ
  | .bool b => .ok (if b then 1 else 0)
  | .int n => .ok n
  | .float t => py.intOfFloat t
  | .str s => py.intOfStr s
  | v => .error (.of .typeError ("int() argument must be a string, a bytes-like object or a real " ++
      "number, not '" ++ v.typeName ++ "'"))

end Builtins

/-- `isinstance(v, int)`; a boolean is one. -/
def Value.isInt : Value → Bool
  | .int _ => true
  | .bool _ => true
  | _ => false

/-- `isinstance(v, bool)` -/
def Value.isBool : Value → Bool
  | .bool _ => true
  | _ => false

/-- `v is None or v is False` -/
def Value.isUnset : Value → Bool
  | .none => true
  | .bool b => !b
  | _ => false

/-- The items of a list or a tuple; there are none in anything else. -/
def Value.items : Value → List Value
  | .list xs => xs
  | _ => []

/-- `d.get(key, v)` -/
def Dict.getOr (d : Dict) (key : String) (v : Value) : Value := (d.lookup key).getD v

/-- `s[:n]` -/
def prefixText (n : ℕ) (s : String) : String := String.ofList (s.toList.take n)

/-- `xs[:n]`; a negative `n` counts from the end. -/
def sliceTo {α : Type} (n : ℤ) (xs : List α) : List α :=
  xs.take (if 0 ≤ n then n else xs.length + n).toNat

/-- The exceptions that `except UserError` catches: Odoo derives the others from it. -/
def PyExc.isUserError (e : PyExc) : Bool :=
  e.cls ∈ [.userError, .accessError, .validationError, .missingError]

end AdvMcp.Py
