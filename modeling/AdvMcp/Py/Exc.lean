import AdvMcp.Py.Value

/-!
# Python exceptions

The classes of exceptions that the module's `except` clauses tell apart.
-/

namespace AdvMcp.Py

/-- `exception` is any other subclass of `Exception`, and `baseException` what is not one. -/
inductive ExcClass where
  | valueError
  | typeError
  | userError
  | accessError
  | validationError
  | missingError
  | operationalError
  | exception
  | baseException
  deriving DecidableEq

/-- An exception: its class, `str(exc)`, and `args[0]` if that is a string. -/
structure PyExc where
  cls : ExcClass
  text : String
  arg : Option String

/-- An exception raised with one message. -/
def PyExc.of (cls : ExcClass) (message : String) : PyExc := ⟨cls, message, some message⟩

/-- `'list' object has no attribute 'get'` -/
def noGet (v : Value) : PyExc :=
  .of .exception ("'" ++ v.typeName ++ "' object has no attribute 'get'")

end AdvMcp.Py
