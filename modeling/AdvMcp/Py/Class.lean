import AdvMcp.Py.Text

/-!
# Python classes

A class by the attributes of its own, and the lookup of a name along the method resolution order.
-/

namespace AdvMcp.Py

/-- A class attribute: whether it can be called, and whether it carries the mark `_api_private`. -/
structure PyAttr where
  callable : Bool
  apiPrivate : Bool

structure PyClass where
  attrs : List (String × PyAttr)

/-- A class and its bases, in the order of the lookup. -/
abbrev Mro := List PyClass

/-- `getattr(cls, name, None)`: the attribute of the first class that has it. -/
def Mro.getattr (mro : Mro) (name : String) : Option PyAttr :=
  mro.findSome? fun cls => cls.attrs.lookup name

/-- `hasattr(cls, name)` -/
def Mro.hasattr (mro : Mro) (name : String) : Bool := (mro.getattr name).isSome

/-- Some class has the attribute with the mark `_api_private`. -/
def Mro.marked (mro : Mro) (name : String) : Bool :=
  mro.any fun cls => (cls.attrs.lookup name).any (·.apiPrivate)

/-- Whether Odoo's `get_public_method` returns the method instead of raising. -/
def Mro.isPublicMethod (mro : Mro) (name : String) : Bool :=
  !startsWith "_" name && (mro.getattr name).any (·.callable) && !mro.marked name

end AdvMcp.Py
