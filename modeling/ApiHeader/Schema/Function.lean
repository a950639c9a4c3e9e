/-
# Functions and objects

Free functions, function pointers and the methods of structures and objects all
have one shape. Methods are kept in the order of their names, one for each name,
and the type says so.
-/

import ApiHeader.Schema.TypeRef

namespace ApiHeader.Schema

/-- A parameter of a function. -/
structure Argument where
  name : String
  type : TypeRef
  /-- A pointer or array qualifier. -/
  annotation : Option String := none
  /-- The parameter that holds the number of elements. -/
  length : Option String := none
  default : Option String := none
  optional : Bool := false
  /-- Keeps the nullable mark away even where the parameter is optional. -/
  suppressNullable : Bool := false
  deriving DecidableEq, Repr

/-- Whether the nullable mark applies. -/
def Argument.isNullable (argument : Argument) : Bool :=
  argument.optional && !argument.suppressNullable

/-- A function, a method or the type of a function pointer. -/
structure Function where
  name : String
  returns : TypeRef := .void
  /-- Whether the function answers through a callback. -/
  isAsync : Bool := false
  callback : Option TypeRef := none
  arguments : List Argument := []
  deriving DecidableEq, Repr

namespace Function

/-- The type that is returned: an asynchronous function returns nothing. -/
def returnType (function : Function) : TypeRef :=
  if function.isAsync then .void else function.returns

/-- The type of the callback, by default named after the function. -/
def callbackType (function : Function) : TypeRef :=
  function.callback.getD (.reference (function.name ++ "Callback"))

end Function

/-- Whether functions stand in the order of their names, each name once. -/
def NameOrdered (functions : List Function) : Prop :=
  functions.Pairwise fun f g => f.name < g.name

/-- The methods of a structure or an object. -/
structure Methods where
  toList : List Function
  ordered : NameOrdered toList
  deriving DecidableEq

namespace Methods

/-- No methods. -/
def empty : Methods := ⟨[], List.Pairwise.nil⟩

instance : Inhabited Methods := ⟨empty⟩

/-- Put a function at its place; it takes the place of one with its name. -/
def place (function : Function) : List Function → List Function
  | [] => [function]
  | g :: rest =>
    if function.name < g.name then function :: g :: rest
    else if function.name = g.name then function :: rest
    else g :: place function rest

theorem mem_place {function g : Function} {functions : List Function}
    (h : g ∈ place function functions) : g = function ∨ g ∈ functions := by
  induction functions with
  | nil => simpa [place] using h
  | cons f rest ih =>
    rw [place] at h
    split at h
    · simpa using h
    · split at h
      · rcases List.mem_cons.1 h with rfl | inside
        · exact .inl rfl
        · exact .inr (List.mem_cons_of_mem _ inside)
      · rcases List.mem_cons.1 h with rfl | inside
        · exact .inr List.mem_cons_self
        · rcases ih inside with same | older
          · exact .inl same
          · exact .inr (List.mem_cons_of_mem _ older)

private theorem name_lt_of_not {a b : String} (notLess : ¬ a < b) (differs : a ≠ b) : b < a := by
  rcases Std.lt_trichotomy a b with less | same | greater
  · exact absurd less notLess
  · exact absurd same differs
  · exact greater

theorem nameOrdered_place (function : Function) {functions : List Function}
    (ordered : NameOrdered functions) : NameOrdered (place function functions) := by
  induction functions with
  | nil => exact List.pairwise_singleton _ _
  | cons g rest ih =>
    obtain ⟨first, others⟩ := List.pairwise_cons.1 ordered
    rw [place]
    split
    · next less =>
      refine List.pairwise_cons.2 ⟨fun f inside => ?_, ordered⟩
      rcases List.mem_cons.1 inside with rfl | older
      · exact less
      · exact String.lt_trans less (first f older)
    · next notLess =>
      split
      · next same => exact List.pairwise_cons.2 ⟨fun f inside => same ▸ first f inside, others⟩
      · next differs =>
        refine List.pairwise_cons.2 ⟨fun f inside => ?_, ih others⟩
        rcases mem_place inside with rfl | older
        · exact name_lt_of_not notLess differs
        · exact first f older

/-- The methods together with one more, which replaces one of the same name. -/
def insert (methods : Methods) (function : Function) : Methods :=
  ⟨place function methods.toList, nameOrdered_place function methods.ordered⟩

/-- The methods together with more, one after the other. -/
def insertAll (methods : Methods) (functions : List Function) : Methods :=
  functions.foldl insert methods

end Methods

/-- An entity that callers hold by a handle. -/
structure Object where
  name : String
  methods : Methods := .empty
  /-- Whether the handle's references are counted. -/
  refcounted : Bool := false
  deriving DecidableEq

/-- The declared methods, with the two that counting references needs. -/
def Object.allMethods (object : Object) : Methods :=
  if object.refcounted then
    (object.methods.insert { name := "Reference" }).insert { name := "Release" }
  else object.methods

end ApiHeader.Schema
