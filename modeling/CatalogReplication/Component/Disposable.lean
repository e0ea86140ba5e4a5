import CatalogReplication.Assoc
import CatalogReplication.Failure
import CatalogReplication.Value.Basic

/-!
# Objects that can be disposed of

An object has attributes of its own, which hide those of its class and its methods. Once it is
disposed of, it can't be used any more in any way. That it is is an attribute, too: whoever sets it
disposes of the object.
-/

namespace CatalogReplication.Component

/-- An object with the attributes that were set on it. -/
structure Disposable where
  className : String
  classAttributes : Assoc String Value
  methodName : String
  attributes : Assoc String Value := []

namespace Disposable

/-- The attribute that says that an object is disposed of. -/
def mark : String := "_Disposable__disposed"

/-- The name of the method that disposes of an object. -/
def disposal : String := "dispose"

/-- Whether an object is disposed of. -/
def isDisposed (d : Disposable) : Bool := Assoc.hasKey mark d.attributes

/-- Does something with an object that isn't disposed of. -/
def whileAlive {α : Type} (f : Disposable → Except Failure α × Disposable) (d : Disposable) :
    Except Failure α × Disposable :=
  if d.isDisposed then (.error (.disposed d.className), d) else f d

/-- Sets an attribute whether or not the object is disposed of. -/
def put (name : String) (v : Value) (d : Disposable) : Disposable :=
  { d with attributes := Assoc.put name v d.attributes }

/-- An attribute of an object. -/
def get (name : String) : Disposable → Except Failure Value × Disposable :=
  whileAlive fun d =>
    match (d.attributes.lookup name).or (d.classAttributes.lookup name) with
    | some v => (.ok v, d)
    | none => (.error .member, d)

/-- Sets an attribute. -/
def set (name : String) (v : Value) : Disposable → Except Failure Unit × Disposable :=
  whileAlive fun d => (.ok (), d.put name v)

/-- Calls a method; an attribute in its place can't be called. -/
def invoke {α : Type} (name : String) (f : Disposable → Except Failure α × Disposable) :
    Disposable → Except Failure α × Disposable :=
  whileAlive fun d =>
    if Assoc.hasKey name d.attributes then (.error .arguments, d) else f d

/-- Calls the method of the class. -/
def call (answer : Value) (d : Disposable) : Except Failure Value × Disposable :=
  invoke d.methodName (fun d => (.ok answer, d)) d

/-- Disposes of an object. -/
def dispose : Disposable → Except Failure Unit × Disposable :=
  invoke disposal fun d => (.ok (), d.put mark (.bool true))

/-! ### After disposal -/

theorem isDisposed_put_mark (v : Value) (d : Disposable) : (d.put mark v).isDisposed = true := by
  simp [isDisposed, put, Assoc.hasKey, Assoc.lookup_put_self]

theorem isDisposed_dispose {d : Disposable} (h : Assoc.hasKey disposal d.attributes = false) :
    (dispose d).2.isDisposed = true := by
  unfold dispose invoke whileAlive
  by_cases hd : d.isDisposed = true
  · simp [hd]
  · simp [hd, h, isDisposed_put_mark]

theorem whileAlive_of_isDisposed {α : Type} (f : Disposable → Except Failure α × Disposable)
    {d : Disposable} (h : d.isDisposed = true) :
    d.whileAlive f = (.error (.disposed d.className), d) := by
  simp [whileAlive, h]

end Disposable

end CatalogReplication.Component
