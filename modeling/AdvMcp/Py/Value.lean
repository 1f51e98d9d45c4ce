import AdvMcp.Py.Text

/-!
# Python values

The values that JSON and XML-RPC bodies hold, and what Python's `bool`, `str` and `dict.get` make of
them.

* A dictionary is the list of its items, in order, with distinct keys.
* A float is its `repr`.
* `object` is an instance of some other class (a date, a binary), with its `str`.
-/

namespace AdvMcp.Py

inductive Value where
  | none
  | bool (b : Bool)
  | int (n : ℤ)
  | float (text : String)
  | str (s : String)
  | list (xs : List Value)
  | dict (kvs : List (String × Value))
  | object (text : String)

abbrev Dict := List (String × Value)

/-- `bool(v)` -/
def Value.truthy : Value → Bool
  | .none => false
  | .bool b => b
  | .int n => n ≠ 0
  | .float t => t ∉ ["0.0", "-0.0"]
  | .str s => s ≠ ""
  | .list xs => !xs.isEmpty
  | .dict kvs => !kvs.isEmpty
  | .object _ => true

/-- `str(v)`; of a list or a dictionary it is `repr(v)`. -/
def Value.pyStr (repr : Value → String) : Value → String
  | .none => "None"
  | .bool true => "True"
  | .bool false => "False"
  | .int n => toString n
  | .float t => t
  | .str s => s
  | .list xs => repr (.list xs)
  | .dict kvs => repr (.dict kvs)
  | .object t => t

/-- `type(v).__name__` -/
def Value.typeName : Value → String
  | .none => "NoneType"
  | .bool _ => "bool"
  | .int _ => "int"
  | .float _ => "float"
  | .str _ => "str"
  | .list _ => "list"
  | .dict _ => "dict"
  | .object _ => "object"

/-- `v` if it is a string. -/
def Value.str? : Value → Option String
  | .str s => some s
  | _ => Option.none

/-- `v is True` -/
def Value.isTrue : Value → Bool
  | .bool b => b
  | _ => false

/-- `d.get(key)` -/
def Dict.get (d : Dict) (key : String) : Value := (d.lookup key).getD .none

/-- `key in d` -/
def Dict.has (d : Dict) (key : String) : Bool := d.any fun p => p.1 == key

/-- `d[key] = v` -/
def Dict.set (d : Dict) (key : String) (v : Value) : Dict :=
  if d.has key then d.map fun p => if p.1 == key then (p.1, v) else p else d ++ [(key, v)]

/-- `d.setdefault(key, v)` -/
def Dict.setdefault (d : Dict) (key : String) (v : Value) : Dict :=
  if d.has key then d else d ++ [(key, v)]

lemma Dict.has_eq (d : Dict) (key : String) : d.has key = (d.lookup key).isSome := by
  unfold Dict.has
  rw [Bool.eq_iff_iff, List.lookup_isSome_iff, List.any_eq_true]
  refine exists_congr fun p => and_congr_right fun _ => ?_
  rw [beq_iff_eq, beq_iff_eq, eq_comm]

/-- What was set is found. -/
lemma Dict.get_set (d : Dict) (key : String) (v : Value) : (d.set key v).get key = v := by
  unfold Dict.set Dict.get Dict.has
  split_ifs with h
  · induction d with
    | nil => simp at h
    | cons p d ih =>
      obtain ⟨j, w⟩ := p
      by_cases hj : j = key
      · simp [hj]
      · have hj' : (key == j) = false := beq_false_of_ne (Ne.symm hj)
        have h' : d.any (fun p => p.1 == key) = true := by simpa [hj] using h
        rw [List.map_cons, if_neg (by simpa using hj), List.lookup_cons, hj']
        exact ih h'
  · have hnone : d.lookup key = none := by
      rw [List.lookup_eq_none_iff]
      intro p hp
      have hne : ¬ p.1 = key := fun he => h (List.any_eq_true.2 ⟨p, hp, by simpa using he⟩)
      rw [bne_iff_ne]
      exact Ne.symm hne
    rw [List.lookup_append, hnone]
    simp

/-- Another key keeps its value. -/
lemma Dict.get_set_of_ne (d : Dict) {k key : String} (h : k ≠ key) (v : Value) :
    (d.set key v).get k = d.get k := by
  have hk : (k == key) = false := beq_false_of_ne h
  unfold Dict.set Dict.get
  split_ifs with hh
  · clear hh
    induction d with
    | nil => rfl
    | cons p d ih =>
      obtain ⟨j, w⟩ := p
      have hset : (if j == key then (j, v) else (j, w)) = (j, if j == key then v else w) := by
        split_ifs <;> rfl
      rw [List.map_cons, hset, List.lookup_cons, List.lookup_cons]
      cases hj : k == j with
      | false => exact ih
      | true =>
        have hjk : (j == key) = false := by
          rw [← beq_iff_eq.1 hj]
          exact hk
        rw [hjk]
        rfl
  · have hnone : List.lookup k [(key, v)] = none := by rw [List.lookup_cons, hk, List.lookup_nil]
    rw [List.lookup_append, hnone]
    cases d.lookup k <;> rfl

end AdvMcp.Py
