/-
# Signatures in different modes

Function pointers, types of pointers to exported functions and exported functions are written
by one builder. The mode reaches nothing but the qualifiers in front of declared parameters:
what is returned, how many parameters there are and what each of them says otherwise are the
same in all modes. A parameter has a blank between its type and its name, so no list of
parameters is mistaken for the word that says there are none.
-/

import ApiHeader.Header.Signature
import Mathlib.Control.Monad.Basic

namespace ApiHeader.Header

open ApiHeader.Schema ApiHeader.Text

/-! ## Parameters -/

/-- The parameters of a signature as they are written. -/
def Signature.parameterTexts (signature : Signature) : List String :=
  signature.parameters.map Declarator.render

/-- Each qualifier is followed by a blank, for the type behind them is never missing. -/
theorem Declarator.render_qualified (declarator : Declarator) (qualifiers : List String) :
    ({ declarator with qualifiers } : Declarator).render =
      String.join (qualifiers.map (· ++ " ")) ++
        ({ declarator with qualifiers := [] } : Declarator).render := by
  induction qualifiers with
  | nil => simp
  | cons word rest ih =>
      rw [Declarator.render] at ih ⊢
      rw [List.cons_append, List.cons_append, List.cons_append,
        String.intercalate_cons_of_ne_nil (by simp)]
      simp only [Declarator.annotationParts] at ih ⊢
      rw [ih]
      simp [String.append_assoc]

section Parameters

variable (resolved : Resolved) (naming : Naming)

/-- A declared parameter without qualifiers. -/
def plainParameter (argument : Argument) : Declarator where
  type := cType resolved naming argument.type
  annotation := argument.annotation
  name := argument.name

/-- The qualifiers in front of a declared parameter, each with a blank behind it. -/
def leadingQualifiers (mode : SignatureMode) (argument : Argument) : String :=
  (if mode.nullable ∧ argument.optional ∧ ¬ argument.suppressNullable then naming.nullable ++ " "
    else "") ++
    (if mode.tagStructs ∧ resolved.isStruct argument.type then "struct " else "")

theorem join_argumentQualifiers (mode : SignatureMode) (argument : Argument) :
    String.join ((argumentQualifiers resolved naming mode argument).map (· ++ " ")) =
      leadingQualifiers resolved naming mode argument := by
  rw [argumentQualifiers, leadingQualifiers, List.map_append, String.join_append]
  congr 1
  · simp only [Argument.isNullable, Bool.and_eq_true, Bool.not_eq_true', Bool.not_eq_true]
    split <;> simp
  · simp only [Bool.and_eq_true]
    split <;> simp

theorem render_argumentParameter (mode : SignatureMode) (argument : Argument) :
    (argumentParameter resolved naming mode argument).render =
      leadingQualifiers resolved naming mode argument ++
        (plainParameter resolved naming argument).render := by
  rw [← join_argumentQualifiers]
  exact (plainParameter resolved naming argument).render_qualified _

/-- Of a signature only the qualifiers of declared parameters depend on the mode. -/
theorem parameterTexts_signatureOf (mode : SignatureMode) (owner : String) (function : Function) :
    (signatureOf resolved naming mode owner function).parameterTexts =
      (ownerParameters resolved naming owner).map Declarator.render ++
        function.arguments.map (fun argument =>
          leadingQualifiers resolved naming mode argument ++
            (plainParameter resolved naming argument).render) ++
        (callbackParameters resolved naming function).map Declarator.render := by
  simp [Signature.parameterTexts, signatureOf, render_argumentParameter, Function.comp_def]

/-- The number of parameters in front of the declared ones. -/
def leadingCount (owner : String) : Nat :=
  if owner = "" then 0 else 1

theorem length_ownerParameters (owner : String) :
    (ownerParameters resolved naming owner).length = leadingCount owner := by
  rw [ownerParameters, leadingCount]
  by_cases free : owner = "" <;> simp [free]

theorem length_callbackParameters (function : Function) :
    (callbackParameters resolved naming function).length = if function.isAsync then 2 else 0 := by
  rw [callbackParameters]
  split <;> rfl

theorem render_callbackParameters {function : Function} (answers : function.isAsync) :
    (callbackParameters resolved naming function).map Declarator.render =
      [cType resolved naming function.callbackType ++ " callback", "void * userdata"] := by
  rw [callbackParameters, if_pos answers]
  have userdata :
      ({ type := "void", annotation := some "*", name := "userdata" } : Declarator).render =
        "void * userdata" := by
    decide
  rw [List.map_cons, List.map_singleton, userdata]
  simp [Declarator.render, Declarator.annotationParts, String.append_assoc]

end Parameters

/-! ## The absence of parameters -/

/-- Every character of a part is one of the joined text. -/
theorem mem_toList_intercalate {separator part : String} {parts : List String} {c : Char}
    (inside : part ∈ parts) (own : c ∈ part.toList) :
    c ∈ (String.intercalate separator parts).toList := by
  induction parts with
  | nil => cases inside
  | cons first rest ih =>
      cases rest with
      | nil =>
          rw [List.mem_singleton.1 inside] at own
          rwa [String.intercalate_singleton]
      | cons next rest =>
          rw [String.intercalate_cons_cons, String.toList_append, String.toList_append]
          rcases List.mem_cons.1 inside with rfl | later
          · simp [own]
          · exact List.mem_append_right _ (ih later)

/-- A declared parameter has a blank before its name. -/
theorem blank_mem_render (declarator : Declarator) : ' ' ∈ declarator.render.toList := by
  have front : declarator.qualifiers ++ [declarator.type] ++ declarator.annotationParts ≠ [] := by
    simp
  rw [Declarator.render, String.intercalate_append_of_ne_nil front (List.cons_ne_nil _ _)]
  simp

theorem parameterList_eq_void_iff (signature : Signature) :
    signature.parameterList = "void" ↔ signature.parameters = [] := by
  rw [Signature.parameterList]
  cases shape : signature.parameters with
  | nil => simp
  | cons first rest =>
      simp only [List.isEmpty_cons, Bool.false_eq_true, if_false, reduceCtorEq, iff_false]
      intro same
      have blank : ' ' ∈ "void".toList := by
        rw [← same]
        exact mem_toList_intercalate List.mem_cons_self (blank_mem_render first)
      exact absurd blank (by decide)

theorem parameters_signatureOf_eq_nil_iff (resolved : Resolved) (naming : Naming)
    (mode : SignatureMode) (owner : String) (function : Function) :
    (signatureOf resolved naming mode owner function).parameters = [] ↔
      owner = "" ∧ function.arguments = [] ∧ function.isAsync = false := by
  rw [← List.length_eq_zero_iff, signatureOf, List.length_append, List.length_append,
    length_ownerParameters, length_callbackParameters, List.length_map]
  cases function.isAsync <;> by_cases free : owner = "" <;> simp [free, leadingCount]

/-! ## Two modes side by side -/

section Places

variable (resolved : Resolved) (naming : Naming) (owner : String) (function : Function)

theorem length_parameterTexts (mode : SignatureMode) :
    (signatureOf resolved naming mode owner function).parameterTexts.length =
      leadingCount owner + function.arguments.length + if function.isAsync then 2 else 0 := by
  rw [parameterTexts_signatureOf, List.length_append, List.length_append, List.length_map,
    List.length_map, List.length_map, length_ownerParameters, length_callbackParameters]

/-- Arguments come in their order behind the owner. -/
theorem getElem?_parameterTexts_argument (mode : SignatureMode) {place : Nat}
    {argument : Argument} (declared : function.arguments[place]? = some argument) :
    (signatureOf resolved naming mode owner function).parameterTexts[leadingCount owner + place]? =
      some (leadingQualifiers resolved naming mode argument ++
        (plainParameter resolved naming argument).render) := by
  have inside : place < function.arguments.length := (List.getElem?_eq_some_iff.1 declared).1
  rw [parameterTexts_signatureOf, List.append_assoc,
    List.getElem?_append_right (by simp [length_ownerParameters]),
    List.length_map, length_ownerParameters, Nat.add_sub_cancel_left,
    List.getElem?_append_left (by simpa using inside), List.getElem?_map, declared,
    Option.map_some]

/-- The owner and the callback are written the same in all modes. -/
theorem getElem?_parameterTexts_outside (first second : SignatureMode) {place : Nat}
    (outside : place < leadingCount owner ∨
      leadingCount owner + function.arguments.length ≤ place) :
    (signatureOf resolved naming first owner function).parameterTexts[place]? =
      (signatureOf resolved naming second owner function).parameterTexts[place]? := by
  rw [parameterTexts_signatureOf, parameterTexts_signatureOf]
  rcases outside with before | behind
  · rw [List.append_assoc, List.append_assoc,
      List.getElem?_append_left (by simpa [length_ownerParameters] using before),
      List.getElem?_append_left (by simpa [length_ownerParameters] using before)]
  · rw [List.getElem?_append_right (by simpa [length_ownerParameters] using behind),
      List.getElem?_append_right (by simpa [length_ownerParameters] using behind)]
    simp

end Places

/-- Two signatures of one function differ in nothing but the qualifiers of its arguments, which
the mode, the argument and its type decide. An asynchronous function returns nothing and ends
with its callback and the data of the caller. The word for no parameters is written exactly
when there are none. -/
theorem signatures_correspond (resolved : Resolved) (naming : Naming) (owner : String)
    (function : Function) (first second : SignatureMode) :
    let signature := fun mode => signatureOf resolved naming mode owner function
    let texts := fun mode => (signature mode).parameterTexts
    (signature first).returnType = (signature second).returnType ∧
    (texts first).length = (texts second).length ∧
    (∀ mode, (texts mode).length =
      leadingCount owner + function.arguments.length + if function.isAsync then 2 else 0) ∧
    (∀ place argument, function.arguments[place]? = some argument →
      ∀ mode, (texts mode)[leadingCount owner + place]? =
        some (leadingQualifiers resolved naming mode argument ++
          (plainParameter resolved naming argument).render)) ∧
    (∀ place, place < leadingCount owner ∨
      leadingCount owner + function.arguments.length ≤ place →
        (texts first)[place]? = (texts second)[place]?) ∧
    (function.isAsync → ∀ mode, (signature mode).returnType = "void" ∧
      ∃ front, texts mode =
        front ++ [cType resolved naming function.callbackType ++ " callback", "void * userdata"]) ∧
    (∀ mode, (signature mode).parameterList = "void" ↔
      owner = "" ∧ function.arguments = [] ∧ function.isAsync = false) := by
  intro signature texts
  have length := length_parameterTexts resolved naming owner function
  refine ⟨rfl, (length first).trans (length second).symm, length, ?_, ?_, ?_, ?_⟩
  · intro place argument declared mode
    exact getElem?_parameterTexts_argument resolved naming owner function mode declared
  · intro place outside
    exact getElem?_parameterTexts_outside resolved naming owner function first second outside
  · intro answers mode
    constructor
    · simp [signature, signatureOf, Function.returnType, answers, cType, TypeRef.void]
    · rw [← render_callbackParameters resolved naming answers]
      exact ⟨_, parameterTexts_signatureOf resolved naming mode owner function⟩
  · intro mode
    rw [parameterList_eq_void_iff, parameters_signatureOf_eq_nil_iff]

def modeSchema : Schema :=
  Schema.rebuildIndex { namePrefix := "P", types := [.struct { name := "Limits" }] }

def modeDepths : Depths := ⟨[("Limits", 0)]⟩

def modeResolved : Resolved :=
  ⟨modeSchema, modeSchema.entityKinds, modeDepths, modeSchema.structOrder modeDepths⟩

/-- A method whose second argument is an optional structure. -/
def modeFunction : Function where
  name := "Request"
  isAsync := true
  arguments := [
    { name := "count", type := .primitive "uint32_t" },
    { name := "limits", type := .reference "Limits", annotation := some "const *",
      optional := true }]

theorem modeFunction_signatures_correspond :
    let texts := fun mode =>
      (signatureOf modeResolved (.ofPrefix "P") mode "Device" modeFunction).parameterTexts
    Resolved.ofSchema modeSchema = .ok modeResolved ∧
    modeFunction.arguments[1]?.isSome ∧ modeFunction.isAsync ∧ leadingCount "Device" = 1 ∧
    (texts .functionPointer).length = 5 ∧
    (texts .functionPointer)[2]? = some "struct PLimits const * limits" ∧
    (texts .prototype)[2]? = some "P_NULLABLE PLimits const * limits" ∧
    (texts .functionPointer)[0]? = (texts .prototype)[0]? ∧
    (texts .functionPointer)[4]? = (texts .prototype)[4]? ∧
    ∃ front, texts .prototype = front ++ ["PRequestCallback callback", "void * userdata"] := by
  obtain ⟨-, -, length, argument, outside, ending, -⟩ :=
    signatures_correspond modeResolved (.ofPrefix "P") "Device" modeFunction .functionPointer
      .prototype
  have depths : modeSchema.structDepths = .ok modeDepths := by decide +kernel
  refine ⟨Resolved.ofSchema_of_structDepths depths, by decide, by decide, by decide,
    (length _).trans (by decide),
    (argument 1 _ rfl _).trans (by decide +kernel), (argument 1 _ rfl _).trans (by decide +kernel),
    outside 0 (by decide), outside 4 (by decide), ?_⟩
  obtain ⟨front, texts⟩ := (ending (by decide) .prototype).2
  exact ⟨front, texts.trans (congrArg (front ++ ·) (by decide +kernel))⟩

end ApiHeader.Header
