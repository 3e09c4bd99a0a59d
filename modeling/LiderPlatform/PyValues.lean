import LiderPlatform.PyJson
/-!
# PyValues — what Python asks of a value that a document holds

A value read from a document need not be of the type the code takes it for: each operation raises what Python raises.
-/
namespace Py

/-- `v[key]`. -/
def getItem (v : Json) (key : String) : Except PyExc Json :=
  match v with
  | .obj d => match d.lookup key with
    | some w => .ok w
    | none => .error .keyError
  | _ => .error .typeError

/-- `v.get(key, default)`. -/
def getOr (v : Json) (key : String) (default : Json) : Except PyExc Json :=
  match v with
  | .obj d => .ok ((d.lookup key).getD default)
  | _ => .error .attributeError

/-- `for x in v`. -/
def iterate (v : Json) : Except PyExc (List Json) :=
  match v with
  | .arr xs => .ok xs
  | .obj d => .ok ((Dict.keys d).map .str)
  | .str s => .ok (s.toList.map (fun c => .str (String.ofList [c])))
  | _ => .error .typeError

/-- `len(v)`. -/
def lenOf (v : Json) : Except PyExc Int :=
  match v with
  | .arr xs => .ok xs.length
  | .obj d => .ok d.length
  | .str s => .ok s.length
  | _ => .error .typeError

end Py
