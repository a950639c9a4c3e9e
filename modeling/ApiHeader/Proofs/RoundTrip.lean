/-
# Loading what was written

Every schema can be written as a document: all sections in a fixed order, the
children of each in the order of their lists, methods in the order of their names.
Loading that document gives the schema back with its index rebuilt. The laws are
assembled from one law for each kind of element; what an element's children are is
said by its writer and by its reader, and both are only opened side by side here.

Attribute values come back whatever characters they hold. Text does not: line ends
are unified and the blanks around it are dropped, so the license and the prefix
have to be free of both to come back as they were.
-/

import ApiHeader.Proofs.TypeIndex
import ApiHeader.Proofs.Writing

namespace ApiHeader.Description

open ApiHeader.Markup ApiHeader.Schema ApiHeader.Text

variable {α β σ : Type}

/-! ## The elements of a schema -/

/-- The value of an attribute that is only written when it is true. -/
def flagText? (flag : Bool) : Option String :=
  if flag then some "true" else none

/-- The value of an attribute that is only written when it names a direction. -/
def directionText? : Direction → Option String
  | .none => none
  | .input => some "in"
  | .output => some "out"

/-- A constant as an element. -/
def constantElement (constant : Constant) : Element :=
  .parent
    { name := "define"
      slots := [("name", some constant.name), ("type", some constant.type.name),
        ("value", some constant.value)] } []

/-- An entry of an enumeration or a bitmask as an element. -/
def entryElement (entry : Entry) : Element :=
  .parent
    { name := "entry", slots := [("name", some entry.name), ("value", some entry.value)] } []

/-- A parameter as an element. -/
def argumentElement (argument : Argument) : Element :=
  .parent
    { name := "arg"
      slots := [("name", some argument.name), ("type", some argument.type.name),
        ("annotation", argument.annotation), ("length", argument.length),
        ("default", argument.default), ("optional", flagText? argument.optional),
        ("suppress_nullable", flagText? argument.suppressNullable)] } []

/-- A function as an element. -/
def functionElement (function : Function) : Element :=
  .parent
    { name := "function"
      slots := [("name", some function.name), ("returns", some function.returns.name),
        ("async", flagText? function.isAsync),
        ("callback", function.callback.map TypeRef.name)] }
    (function.arguments.map argumentElement)

/-- Methods as an element. -/
def methodsElement (methods : Methods) : Element :=
  .parent { name := "methods" } (methods.toList.map functionElement)

/-- A member of a structure as an element. -/
def memberElement (part : Member) : Element :=
  .parent
    { name := "member"
      slots := [("name", some part.name), ("type", some part.type.name),
        ("annotation", part.annotation), ("length", part.length),
        ("default", part.default), ("optional", flagText? part.optional)] } []

/-- A structure that may be extended as an element. -/
def rootElement (name : String) : Element :=
  .parent { name := "root", slots := [("name", some name)] } []

/-- How a structure is chained as elements: none if there is nothing to say. -/
def chainedElements (struct : Struct) : List Element :=
  if struct.chained = .none ∧ struct.chainRoots = [] then []
  else
    [.parent { name := "chained", slots := [("dir", directionText? struct.chained)] }
      (struct.chainRoots.map rootElement)]

/-- A definition of a type as an element. -/
def typeElement : TypeDef → Element
  | .value type =>
    .parent
      { name := "value", slots := [("name", some type.name), ("type", some type.underlying.name)] }
      []
  | .enumeration type =>
    .parent { name := "enum", slots := [("name", some type.name)] } (type.entries.map entryElement)
  | .bitmask type =>
    .parent { name := "bitmask", slots := [("name", some type.name)] }
      (type.entries.map entryElement)
  | .struct struct =>
    .parent
      { name := "struct"
        slots := [("name", some struct.name), ("extensible", directionText? struct.extensible)] }
      (chainedElements struct ++ (struct.members.map memberElement ++
        [methodsElement struct.methods]))

/-- An object as an element. -/
def objectElement (object : Object) : Element :=
  .parent
    { name := "object"
      slots := [("name", some object.name), ("refcounted", flagText? object.refcounted)] }
    [methodsElement object.methods]

/-- Metadata that give the naming prefix as an element. -/
def metadataElement (namePrefix : String) : Element :=
  .parent { name := "metadata" }
    [.parent { name := "prefix" } [.textual { name := "c" } namePrefix]]

/-- The sections of a document. -/
def sectionElements (schema : Schema) : List Element :=
  [.textual { name := "license" } schema.license,
    metadataElement schema.namePrefix,
    .parent { name := "defines" } (schema.constants.map constantElement),
    .parent { name := "types" } (schema.types.map typeElement),
    .parent { name := "free_functions" } (schema.freeFunctions.map functionElement),
    .parent { name := "function_pointers" } (schema.functionPointers.map functionElement),
    .parent { name := "objects" } (schema.objects.map objectElement)]

end ApiHeader.Description

namespace ApiHeader.Schema

open ApiHeader.Markup ApiHeader.Description

/-- The document that describes a schema. -/
def document (schema : Schema) : String :=
  String.ofList (Element.parent { name := "api" } (sectionElements schema)).write

/-- The types that a function mentions. -/
def Function.mentions (function : Function) : List TypeRef :=
  function.returns :: function.callback.toList ++ function.arguments.map Argument.type

/-- The types that a definition of a type mentions. -/
def TypeDef.mentions : TypeDef → List TypeRef
  | .value type => [type.underlying]
  | .enumeration _ | .bitmask _ => []
  | .struct type =>
    type.members.map Member.type ++ type.methods.toList.flatMap Function.mentions

/-- The types that a schema mentions. -/
def mentions (schema : Schema) : List TypeRef :=
  schema.constants.map Constant.type ++ schema.types.flatMap TypeDef.mentions ++
    schema.freeFunctions.flatMap Function.mentions ++
    schema.functionPointers.flatMap Function.mentions ++
    schema.objects.flatMap fun object => object.methods.toList.flatMap Function.mentions

/-- A mention that is read back from its name. -/
def TypeRef.IsPlain (type : TypeRef) : Prop :=
  resolve type.name = type

theorem TypeRef.IsPlain.resolve_name {type : TypeRef} (plain : type.IsPlain) :
    resolve type.name = type :=
  plain

instance : DecidablePred TypeRef.IsPlain :=
  fun type => inferInstanceAs (Decidable (TypeRef.resolve type.name = type))

end ApiHeader.Schema

namespace ApiHeader.Description

open ApiHeader.Markup ApiHeader.Schema ApiHeader.Text

variable {α β σ : Type}

/-! ## Fields of a written tag -/

/-- A slot with its value, if it has one. -/
def slotField (slot : String × Option String) : Option (String × String) :=
  slot.2.map fun value => (slot.1, value)

/-- The fields that a written tag has. -/
def headFields (head : Head) : Fields :=
  ⟨head.slots.filterMap slotField⟩

/-- Every filled slot is a field, if the element allows the values. -/
theorem fieldsOf_tag (element : String) {allowed : String → String → Bool} (head : Head)
    (allows : ∀ slot ∈ head.slots, ∀ value, slot.2 = some value → allowed slot.1 value) :
    fieldsOf element allowed head.tag = .ok (headFields head) := by
  have taken (slots : List (String × Option String))
      (allows : ∀ slot ∈ slots, ∀ value, slot.2 = some value → allowed slot.1 value) :
      takeFields element allowed ((slots.filterMap filledSlot).map .ok) =
        .ok (slots.filterMap slotField) := by
    induction slots with
    | nil => rfl
    | cons slot slots ih =>
        have others := ih fun other inside => allows other (List.mem_cons_of_mem _ inside)
        have here := allows slot List.mem_cons_self
        obtain ⟨key, value⟩ := slot
        cases value with
        | none => exact others
        | some value =>
            change takeFields element allowed
              (.ok ⟨key, String.ofList (escape value.toList)⟩ ::
                (slots.filterMap filledSlot).map .ok) =
              .ok ((key, value) :: slots.filterMap slotField)
            have allowedHere : allowed key value := here value rfl
            rw [takeFields, unescape_escape, others]
            simp only [Except.mapError, bind, Except.bind, allowedHere, if_true]
            rfl
  rw [fieldsOf, Head.tag, Head.attributes, taken head.slots allows]
  rfl

/-- A field is looked up among the slots. -/
theorem get?_headFields (head : Head) (key : String) :
    (headFields head).get? key = (head.slots.lookup key).join := by
  have found (slots : List (String × Option String)) (distinct : (slots.map Prod.fst).Nodup) :
      (slots.filterMap slotField).lookup key = (slots.lookup key).join := by
    induction slots with
    | nil => rfl
    | cons slot slots ih =>
        obtain ⟨name, value⟩ := slot
        obtain ⟨fresh, others⟩ := List.nodup_cons.1 distinct
        by_cases same : key = name
        · subst same
          cases value with
          | some value => simp [slotField]
          | none =>
              change (slots.filterMap slotField).lookup key = _
              rw [ih others, lookup_eq_none_of_not_mem fresh]
              simp
        · have differs : (key == name) = false := by simpa using same
          have later : ((name, value) :: slots).lookup key = slots.lookup key := by
            rw [List.lookup_cons, differs]
          rw [later, ← ih others]
          cases value with
          | none => rfl
          | some value => simp [slotField, List.lookup_cons, differs]
  exact found head.slots head.distinct

/-! ## Reading written elements -/

/-- A reader makes a value of what a written element holds, and leaves what follows
the element. -/
def Reads (reader : Bool → ContentReader α) (element : Element) (value : α) : Prop :=
  ∀ rest, (reader element.isEmpty).run (element.contentEvents ++ rest) = .ok (value, rest)

/-- Reading children goes through written elements and takes one state to another. -/
def Advances (visit : Visitor σ) (elements : List Element) (state after : σ) : Prop :=
  ∀ rest, (children visit state false).run (Element.eventsAll elements ++ rest) =
    (children visit after false).run rest

theorem Reads.map {reader : Bool → ContentReader α} {element : Element} {value : α}
    (reads : Reads reader element value) (f : α → β) :
    Reads (fun selfClosing => (reader selfClosing).map f) element (f value) := by
  intro rest
  rw [run_map, reads rest]
  rfl

theorem reads_leaf {outcome : Except LoadError α} {value : α} (decided : outcome = .ok value)
    (head : Head) : Reads (leaf outcome) (.parent head []) value := by
  intro rest
  rw [run_leaf, decided]
  rfl

/-- A reader that looks at the tag first. -/
theorem reads_of_tag {outcome : Except LoadError β} {decided : β}
    {reader : β → Bool → ContentReader α} (same : outcome = .ok decided) {element : Element}
    {value : α} (reads : Reads (reader decided) element value) :
    Reads (fun selfClosing events => outcome >>= fun found => reader found selfClosing events)
      element value := by
  intro rest
  rw [run_bind outcome fun found => reader found element.isEmpty, same]
  exact reads rest

theorem Advances.nil (visit : Visitor σ) (state : σ) : Advances visit [] state state :=
  fun _ => rfl

theorem Advances.append {visit : Visitor σ} {first second : List Element} {state after : σ}
    (middle : σ) (left : Advances visit first state middle)
    (right : Advances visit second middle after) :
    Advances visit (first ++ second) state after := by
  intro rest
  rw [Element.eventsAll_append, List.append_assoc, left, right]

theorem Advances.cons {visit : Visitor σ} {element : Element} {elements : List Element}
    {state after : σ} (middle : σ) (first : Advances visit [element] state middle)
    (others : Advances visit elements middle after) :
    Advances visit (element :: elements) state after :=
  Advances.append middle first others

/-- One known child is read. -/
theorem Advances.child {visit : Visitor σ} {state after : σ} {element : Element}
    {reader : Bool → ContentReader σ} (known : visit state element.head.tag = some reader)
    (reads : Reads reader element after) : Advances visit [element] state after := by
  intro rest
  have read := reads rest
  simp only [Element.eventsAll, Element.opening, List.append_nil]
  cases empty : element.isEmpty with
  | true =>
      rw [empty] at read
      simp only [if_true, List.cons_append]
      rw [run_children_empty, run_readChild_some known, read]
      rfl
  | false =>
      rw [empty] at read
      simp only [Bool.false_eq_true, if_false, List.cons_append]
      rw [run_children_start, run_readChild_some known, read]
      rfl

/-- Children that are all of one kind are read one after the other. -/
theorem Advances.each {visit : Visitor σ} {items : List α} {write : α → Element}
    (build : List α → σ) (before : List α) (step : ∀ before, ∀ item ∈ items,
      Advances visit [write item] (build before) (build (before ++ [item]))) :
    Advances visit (items.map write) (build before) (build (before ++ items)) := by
  induction items generalizing before with
  | nil =>
      rw [List.append_nil]
      exact Advances.nil visit _
  | cons item items ih =>
      have first := step before item List.mem_cons_self
      have others := ih (before ++ [item]) fun before other inside =>
        step before other (List.mem_cons_of_mem _ inside)
      rw [List.append_assoc] at others
      exact Advances.cons _ first others

/-- The end tag after written children ends the reading. -/
theorem Advances.run_close {visit : Visitor σ} {elements : List Element} {state after : σ}
    (advances : Advances visit elements state after) (name : String) (rest : List Event) :
    (children visit state false).run (Element.eventsAll elements ++ .close name :: rest) =
      .ok (after, rest) := by
  rw [advances, run_children_close]

/-- An element is read through its children. -/
theorem Advances.reads {visit : Visitor σ} {elements : List Element} {state after : σ}
    (advances : Advances visit elements state after) (head : Head) :
    Reads (children visit state) (.parent head elements) after := by
  intro rest
  have read := advances.run_close head.name
  cases elements with
  | nil =>
      -- nothing was passed, so the state in which the end tag is met is the first one
      have same := read []
      simp only [Element.eventsAll, List.nil_append, run_children_close, Except.ok.injEq,
        Prod.mk.injEq, and_true] at same
      rw [same]
      rfl
  | cons element elements =>
      have content : (Element.parent head (element :: elements)).contentEvents ++ rest =
          Element.eventsAll (element :: elements) ++ .close head.name :: rest := by
        simp [Element.contentEvents]
      rw [content]
      exact read rest

/-! ## Text -/

/-- A text as it is read from the content of an element. -/
@[irreducible]
def displayed (content : String) : String :=
  trim (String.ofList (unifyLineEnds content.toList))

theorem unifyLineEnds_of_not_mem {cs : List Char} (absent : '\r' ∉ cs) : unifyLineEnds cs = cs := by
  fun_induction unifyLineEnds cs with
  | case1 => simp at absent
  | case2 => simp at absent
  | case3 c rest _ _ ih => rw [ih fun later => absent (List.mem_cons_of_mem _ later)]
  | case4 => rfl

/-- A text without carriage returns and outer blanks is read as it is. -/
theorem displayed_eq {content : String} (absent : '\r' ∉ content.toList)
    (trimmed : trim content = content) : displayed content = content := by
  rw [displayed, unifyLineEnds_of_not_mem absent, String.ofList_toList, trimmed]

/-- A line end does not reach over a character that is part of none. -/
theorem unifyLineEnds_append_cons (before : List Char) {c : Char} (notReturn : c ≠ '\r')
    (notFeed : c ≠ '\n') (after : List Char) :
    unifyLineEnds (before ++ c :: after) = unifyLineEnds before ++ c :: unifyLineEnds after := by
  fun_induction unifyLineEnds before with
  | case1 rest ih => simp [unifyLineEnds, ih]
  | case2 rest notPair ih =>
      have alone : unifyLineEnds ('\r' :: (rest ++ c :: after)) =
          '\n' :: unifyLineEnds (rest ++ c :: after) := by
        cases rest with
        | nil => rw [List.nil_append, unifyLineEnds]; simpa using notFeed
        | cons d rest =>
            have differs : d ≠ '\n' := fun same => notPair rest (by rw [same])
            rw [List.cons_append, unifyLineEnds]
            simpa using differs
      rw [List.cons_append, alone, ih, List.cons_append]
  | case3 d rest _ other ih =>
      rw [List.cons_append, unifyLineEnds, ih, List.cons_append]
      · exact fun _ same _ => other same
      · exact other
  | case4 => simp [unifyLineEnds, notReturn]

theorem textFrom_runEvents (run : List Char) (depth : Nat) (rest : List Event) :
    textFrom depth (runEvents run ++ rest) =
      (textFrom depth rest).map fun found => (unifyLineEnds run ++ found.1, found.2) := by
  cases run with
  | nil => cases h : textFrom depth rest <;> simp [runEvents, unifyLineEnds, h, Except.map]
  | cons c cs =>
      simp only [runEvents, List.isEmpty_cons, Bool.false_eq_true, if_false, List.singleton_append,
        textFrom, String.toList_ofList]
      cases textFrom depth rest <;> rfl

theorem textFrom_reference {c : Char} {name : List Char} (known : entityName? c = some name)
    (depth : Nat) (rest : List Event) :
    textFrom depth (.reference (String.ofList name) :: rest) =
      (textFrom depth rest).map fun found => (c :: found.1, found.2) := by
  have resolved : resolveInText (String.ofList name) = .ok c := by
    unfold entityName? at known
    split at known <;> cases known <;> rfl
  rw [textFrom, resolved]
  cases textFrom depth rest <;> rfl

/-- Escaped text is collected with its line ends unified, as if nothing had been
escaped. -/
theorem textFrom_textEvents (cs run : List Char) (depth : Nat) (rest : List Event) :
    textFrom depth (textEvents run cs ++ rest) =
      (textFrom depth rest).map fun found => (unifyLineEnds (run ++ cs) ++ found.1, found.2) := by
  induction cs generalizing run with
  | nil => rw [textEvents, List.append_nil, textFrom_runEvents]
  | cons c cs ih =>
      rw [textEvents]
      cases known : entityName? c with
      | none =>
          have longer := ih (run ++ [c])
          rw [List.append_assoc] at longer
          exact longer
      | some name =>
          obtain ⟨_, _, notReturn, notFeed⟩ := entityName?_eq_some known
          simp only [List.append_assoc, List.cons_append]
          rw [textFrom_runEvents, textFrom_reference known, ih,
            unifyLineEnds_append_cons run notReturn notFeed]
          cases textFrom depth rest <;> simp [Except.map]

theorem reads_trimmedText (head : Head) (content : String) :
    Reads trimmedText (.textual head content) (displayed content) := by
  intro rest
  have collected : textFrom 0 (textEvents [] content.toList ++ .close head.name :: rest) =
      .ok (unifyLineEnds content.toList, rest) := by
    rw [textFrom_textEvents]
    simp [textFrom, Except.map]
  have written : (Element.textual head content).contentEvents ++ rest =
      textEvents [] content.toList ++ .close head.name :: rest := by
    simp [Element.contentEvents]
  change (ContentReader.map trim (textContent false)).run _ = _
  rw [written, run_map, run_textContent_false, collected, displayed]
  rfl

/-! ## One law for each kind of element -/

theorem flag_headFields {head : Head} {key : String} {flag : Bool}
    (filled : head.slots.lookup key = some (flagText? flag)) :
    (headFields head).flag key = flag := by
  rw [Fields.flag, get?_headFields, filled]
  cases flag <;> rfl

theorem isFlag_of_flagText? {flag : Bool} {value : String}
    (written : flagText? flag = some value) : isFlag value := by
  cases flag with
  | false => cases written
  | true => cases written; rfl

theorem ofExtensible?_of_directionText? {direction : Direction} {value : String}
    (written : directionText? direction = some value) :
    Direction.ofExtensible? value = some direction := by
  cases direction <;> cases written <;> decide

theorem ofChained?_of_directionText? {direction : Direction} {value : String}
    (written : directionText? direction = some value) :
    Direction.ofChained? value = some direction := by
  cases direction <;> cases written <;> decide

theorem constantOf_constantElement {constant : Constant} (plain : constant.type.IsPlain) :
    constantOf (constantElement constant).head.tag = .ok constant := by
  rw [constantOf, fieldsOf_tag _ _ (fun _ _ _ _ => rfl)]
  simp [bind, Except.bind, pure, Except.pure, Fields.required, get?_headFields, constantElement,
    Element.head, List.lookup_cons, plain.resolve_name]

theorem entryOf_entryElement (entry : Entry) :
    entryOf (entryElement entry).head.tag = .ok entry := by
  rw [entryOf, fieldsOf_tag _ _ (fun _ _ _ _ => rfl)]
  simp [bind, Except.bind, pure, Except.pure, Fields.required, get?_headFields, entryElement,
    Element.head, List.lookup_cons]

theorem valueTypeOf_typeElement {type : ValueType} (plain : type.underlying.IsPlain) :
    valueTypeOf (typeElement (.value type)).head.tag = .ok type := by
  rw [valueTypeOf, fieldsOf_tag _ _ (fun _ _ _ _ => rfl)]
  simp [bind, Except.bind, pure, Except.pure, Fields.required, get?_headFields, typeElement,
    Element.head, List.lookup_cons, plain.resolve_name]

theorem memberOf_memberElement {part : Member} (plain : part.type.IsPlain) :
    memberOf (memberElement part).head.tag = .ok part := by
  have flags : ∀ slot ∈ (memberElement part).head.slots, ∀ value, slot.2 = some value →
      flagsAmong ["optional"] slot.1 value := by
    simpa [memberElement, Element.head, flagsAmong] using fun _ => isFlag_of_flagText?
  have optional : (headFields (memberElement part).head).flag "optional" = part.optional :=
    flag_headFields rfl
  rw [memberOf, fieldsOf_tag _ _ flags]
  simp only [bind, Except.bind, pure, Except.pure, Fields.required, get?_headFields, optional]
  simp [memberElement, Element.head, List.lookup_cons, plain.resolve_name]

theorem argumentOf_argumentElement {argument : Argument} (plain : argument.type.IsPlain) :
    argumentOf (argumentElement argument).head.tag = .ok argument := by
  have flags : ∀ slot ∈ (argumentElement argument).head.slots, ∀ value, slot.2 = some value →
      flagsAmong ["optional", "suppress_nullable"] slot.1 value := by
    simpa [argumentElement, Element.head, flagsAmong] using
      ⟨fun _ => isFlag_of_flagText?, fun _ => isFlag_of_flagText?⟩
  have optional : (headFields (argumentElement argument).head).flag "optional" =
      argument.optional := flag_headFields rfl
  have suppressed : (headFields (argumentElement argument).head).flag "suppress_nullable" =
      argument.suppressNullable := flag_headFields rfl
  rw [argumentOf, fieldsOf_tag _ _ flags]
  simp only [bind, Except.bind, pure, Except.pure, Fields.required, get?_headFields, optional,
    suppressed]
  simp [argumentElement, Element.head, List.lookup_cons, plain.resolve_name]

theorem functionOf_functionElement {function : Function} (returns : function.returns.IsPlain)
    (callback : ∀ type ∈ function.callback, type.IsPlain) :
    functionOf (functionElement function).head.tag = .ok { function with arguments := [] } := by
  have flags : ∀ slot ∈ (functionElement function).head.slots, ∀ value, slot.2 = some value →
      flagsAmong ["async"] slot.1 value := by
    simpa [functionElement, Element.head, flagsAmong] using fun _ => isFlag_of_flagText?
  have isAsync : (headFields (functionElement function).head).flag "async" = function.isAsync :=
    flag_headFields rfl
  have resolved : function.callback.map (TypeRef.resolve ∘ TypeRef.name) = function.callback := by
    cases shape : function.callback with
    | none => rfl
    | some type => simp [(callback type shape).resolve_name]
  rw [functionOf, fieldsOf_tag _ _ flags]
  simp only [bind, Except.bind, pure, Except.pure, Fields.required, get?_headFields, isAsync]
  simp [functionElement, Element.head, List.lookup_cons, returns.resolve_name, resolved]

theorem objectOf_objectElement (object : Object) :
    objectOf (objectElement object).head.tag = .ok { object with methods := .empty } := by
  have flags : ∀ slot ∈ (objectElement object).head.slots, ∀ value, slot.2 = some value →
      flagsAmong ["refcounted"] slot.1 value := by
    simpa [objectElement, Element.head, flagsAmong] using fun _ => isFlag_of_flagText?
  have refcounted : (headFields (objectElement object).head).flag "refcounted" =
      object.refcounted := flag_headFields rfl
  rw [objectOf, fieldsOf_tag _ _ flags]
  simp only [bind, Except.bind, pure, Except.pure, Fields.required, get?_headFields, refcounted]
  simp [objectElement, Element.head]

theorem structOf_typeElement (struct : Struct) :
    structOf (typeElement (.struct struct)).head.tag =
      .ok { name := struct.name, extensible := struct.extensible } := by
  have directions : ∀ slot ∈ (typeElement (.struct struct)).head.slots, ∀ value,
      slot.2 = some value →
        (slot.1 != "extensible" || (Direction.ofExtensible? value).isSome) := by
    simpa [typeElement, Element.head] using
      fun value (written : directionText? struct.extensible = some value) =>
        Option.isSome_of_eq_some (ofExtensible?_of_directionText? written)
  have extensible : ((directionText? struct.extensible).bind Direction.ofExtensible?).getD .none =
      struct.extensible := by
    cases struct.extensible <;> decide
  simp only [structOf]
  rw [fieldsOf_tag _ _ directions]
  simp only [bind, Except.bind, pure, Except.pure, Fields.required, get?_headFields]
  simp [typeElement, Element.head, List.lookup_cons, extensible]

/-- The tag of an element that says how a structure is chained. -/
theorem chainedOf_tag (direction : Direction) {head : Head}
    (slots : head.slots = [("dir", directionText? direction)]) :
    ∃ found, chainedOf head.tag = .ok found ∧ found.getD .none = direction := by
  have directions : ∀ slot ∈ head.slots, ∀ value, slot.2 = some value →
      (slot.1 != "dir" || (Direction.ofChained? value).isSome) := by
    simpa [slots] using
      fun value (written : directionText? direction = some value) =>
        Option.isSome_of_eq_some (ofChained?_of_directionText? written)
  refine ⟨(directionText? direction).bind Direction.ofChained?, ?_, ?_⟩
  · simp only [chainedOf]
    rw [fieldsOf_tag _ _ directions]
    simp [bind, Except.bind, pure, Except.pure, get?_headFields, slots]
  · cases direction <;> decide

theorem nameOf_tag (element : String) {head : Head} {name : String}
    {others : List (String × Option String)} (slots : head.slots = ("name", some name) :: others) :
    nameOf element head.tag = .ok name := by
  have first : head.tag.attributes =
      .ok ⟨"name", String.ofList (escape name.toList)⟩ ::
        (others.filterMap filledSlot).map .ok := by
    simp only [Head.tag, Head.attributes, slots]
    rfl
  rw [nameOf, first, takeName, if_pos rfl, unescape_escape]
  rfl

/-! ## Lists of elements -/

theorem reads_readEntries (head : Head) (entries : List Entry) :
    Reads readEntries (.parent head (entries.map entryElement)) entries := by
  apply Advances.reads
  refine Advances.each id [] ?_
  intro before entry _
  apply Advances.child
  · exact if_pos rfl
  · apply reads_leaf
    rw [entryOf_entryElement]
    rfl

theorem reads_readFunction {function : Function}
    (plain : ∀ type ∈ function.mentions, type.IsPlain) :
    Reads (readFunction (functionElement function).head.tag) (functionElement function)
      function := by
  have returns : function.returns.IsPlain := plain _ (by simp [Function.mentions])
  have callback : ∀ type ∈ function.callback, type.IsPlain := fun type inside =>
    plain _ (by simp [Function.mentions, Option.mem_def.1 inside])
  have arguments : ∀ argument ∈ function.arguments, argument.type.IsPlain := by
    intro argument inside
    refine plain _ ?_
    simp only [Function.mentions, List.mem_append, List.mem_map]
    exact .inr ⟨argument, inside, rfl⟩
  apply reads_of_tag (functionOf_functionElement returns callback)
  apply Advances.reads
  refine Advances.each (fun arguments => { function with arguments }) [] ?_
  intro before argument inside
  apply Advances.child
  · exact if_pos rfl
  · apply reads_leaf
    rw [argumentOf_argumentElement (arguments argument inside)]
    rfl

theorem reads_readFunctions (head : Head) {functions : List Function}
    (plain : ∀ type ∈ functions.flatMap Function.mentions, type.IsPlain) :
    Reads readFunctions (.parent head (functions.map functionElement)) functions := by
  apply Advances.reads
  refine Advances.each id [] ?_
  intro before function inside
  have read := reads_readFunction fun type mentioned =>
    plain type (List.mem_flatMap.2 ⟨function, inside, mentioned⟩)
  apply Advances.child
  · exact if_pos rfl
  · exact read.map fun function => before ++ [function]

theorem reads_readRoots (head : Head) (roots : List String) :
    Reads (readRoots []) (.parent head (roots.map rootElement)) roots := by
  apply Advances.reads
  refine Advances.each id [] ?_
  intro before name _
  apply Advances.child
  · exact if_pos rfl
  · apply reads_leaf
    have named : nameOf "root" (rootElement name).head.tag = .ok name := nameOf_tag _ rfl
    rw [named]
    rfl

theorem reads_readConstants (head : Head) {constants : List Constant}
    (plain : ∀ type ∈ constants.map Constant.type, type.IsPlain) :
    Reads (readConstants []) (.parent head (constants.map constantElement)) constants := by
  apply Advances.reads
  refine Advances.each id [] ?_
  intro before constant inside
  apply Advances.child
  · exact if_pos rfl
  · apply reads_leaf
    rw [constantOf_constantElement (plain _ (List.mem_map.2 ⟨constant, inside, rfl⟩))]
    rfl

/-! ### Methods -/

/-- A function whose name comes after all others is put at the end. -/
theorem place_of_forall_lt {function : Function} {functions : List Function}
    (later : ∀ g ∈ functions, g.name < function.name) :
    Methods.place function functions = functions ++ [function] := by
  induction functions with
  | nil => rfl
  | cons g functions ih =>
      have less := later g List.mem_cons_self
      have notLess : ¬ function.name < g.name := String.lt_asymm less
      have differs : function.name ≠ g.name := fun same => String.lt_irrefl _ (same ▸ less)
      rw [Methods.place, if_neg notLess, if_neg differs,
        ih fun other inside => later other (List.mem_cons_of_mem _ inside)]
      rfl

theorem toList_insertAll (functions : List Function) (methods : Methods)
    (ordered : NameOrdered (methods.toList ++ functions)) :
    (methods.insertAll functions).toList = methods.toList ++ functions := by
  induction functions generalizing methods with
  | nil => simp [Methods.insertAll]
  | cons function functions ih =>
      have later : ∀ g ∈ methods.toList, g.name < function.name := fun g inside =>
        (List.pairwise_append.1 ordered).2.2 g inside function List.mem_cons_self
      have placed : (methods.insert function).toList = methods.toList ++ [function] :=
        place_of_forall_lt later
      have others := ih (methods.insert function) (by rw [placed]; simpa using ordered)
      rw [placed] at others
      simpa [Methods.insertAll] using others

/-- Methods in the order of their names come back in that order. -/
theorem insertAll_toList (methods : Methods) :
    Methods.empty.insertAll methods.toList = methods := by
  have same : (Methods.empty.insertAll methods.toList).toList = methods.toList :=
    toList_insertAll methods.toList .empty methods.ordered
  cases collected : Methods.empty.insertAll methods.toList
  cases methods
  simp_all

/-- The methods of a structure or an object are read into an empty collection. -/
theorem reads_methodsElement {methods : Methods}
    (plain : ∀ type ∈ methods.toList.flatMap Function.mentions, type.IsPlain) (f : Methods → α) :
    Reads (fun selfClosing => (readFunctions selfClosing).map fun functions =>
      f (Methods.empty.insertAll functions)) (methodsElement methods) (f methods) := by
  have read := (reads_readFunctions { name := "methods" } plain).map fun functions =>
    f (Methods.empty.insertAll functions)
  rw [insertAll_toList] at read
  exact read

/-! ### Objects, structures and types -/

theorem reads_readObject {object : Object}
    (plain : ∀ type ∈ object.methods.toList.flatMap Function.mentions, type.IsPlain) :
    Reads (readObject (objectElement object).head.tag) (objectElement object) object := by
  apply reads_of_tag (objectOf_objectElement object)
  apply Advances.reads
  apply Advances.child
  · exact if_pos rfl
  · exact reads_methodsElement plain fun methods => { object with methods }

theorem reads_readObjects (head : Head) {objects : List Object}
    (plain : ∀ type ∈ objects.flatMap fun object =>
      object.methods.toList.flatMap Function.mentions, type.IsPlain) :
    Reads (readObjects []) (.parent head (objects.map objectElement)) objects := by
  apply Advances.reads
  refine Advances.each id [] ?_
  intro before object inside
  have read := reads_readObject fun type mentioned =>
    plain type (List.mem_flatMap.2 ⟨object, inside, mentioned⟩)
  apply Advances.child
  · exact if_pos rfl
  · exact read.map fun object => before ++ [object]

/-- How a structure is chained is read into one that is not chained yet. -/
theorem reads_readChained (base : Struct) (unchained : base.chained = .none)
    (unrooted : base.chainRoots = []) {direction : Direction} {head : Head}
    (slots : head.slots = [("dir", directionText? direction)]) (roots : List String) :
    Reads (readChained base head.tag) (.parent head (roots.map rootElement))
      { base with chained := direction, chainRoots := roots } := by
  obtain ⟨found, read, same⟩ := chainedOf_tag direction slots
  apply reads_of_tag read
  rw [unchained, unrooted, same]
  exact (reads_readRoots head roots).map fun chainRoots =>
    { base with chained := direction, chainRoots }

theorem reads_readStruct {struct : Struct}
    (plain : ∀ type ∈ (TypeDef.struct struct).mentions, type.IsPlain) :
    Reads (readStruct (typeElement (.struct struct)).head.tag) (typeElement (.struct struct))
      struct := by
  have members : ∀ part ∈ struct.members, part.type.IsPlain := fun part inside =>
    plain _ (List.mem_append_left _ (List.mem_map.2 ⟨part, inside, rfl⟩))
  have methods : ∀ type ∈ struct.methods.toList.flatMap Function.mentions, type.IsPlain :=
    fun type mentioned => plain type (List.mem_append_right _ mentioned)
  apply reads_of_tag (structOf_typeElement struct)
  apply Advances.reads
  -- first the chain, which leaves no trace if there is nothing to say
  refine Advances.append { struct with members := [], methods := .empty } ?_ ?_
  · rw [chainedElements]
    split
    · next unchained =>
        rw [unchained.1, unchained.2]
        exact Advances.nil _ _
    · apply Advances.child
      · rfl
      · exact reads_readChained { name := struct.name, extensible := struct.extensible } rfl rfl rfl
          struct.chainRoots
  · refine Advances.append { struct with methods := .empty } ?_ ?_
    · refine Advances.each (fun members => { struct with members, methods := .empty }) [] ?_
      intro before part inside
      apply Advances.child
      · rfl
      · apply reads_leaf
        rw [memberOf_memberElement (members part inside)]
        rfl
    · apply Advances.child
      · rfl
      · exact reads_methodsElement methods fun methods => { struct with methods }

theorem reads_readEnumeration {head : Head} (element : String) (type : Enumeration)
    (slots : head.slots = [("name", some type.name)]) :
    Reads (readEnumeration element head.tag) (.parent head (type.entries.map entryElement))
      type := by
  apply reads_of_tag (nameOf_tag element slots)
  exact (reads_readEntries head type.entries).map fun entries => { type with entries }

/-- A schema with only the given types, each looked up at its last definition. -/
def withTypes (schema : Schema) (types : List TypeDef) : Schema :=
  { schema with types, index := indexFrom 0 .empty types }

theorem addType_withTypes (schema : Schema) (types : List TypeDef) (type : TypeDef) :
    (withTypes schema types).addType type = withTypes schema (types ++ [type]) := by
  simp [withTypes, addType, indexFrom_append]

theorem reads_readTypes (schema : Schema) (head : Head) {types : List TypeDef}
    (plain : ∀ type ∈ types.flatMap TypeDef.mentions, type.IsPlain) :
    Reads (readTypes (withTypes schema [])) (.parent head (types.map typeElement))
      (withTypes schema types) := by
  apply Advances.reads
  refine Advances.each (withTypes schema) [] ?_
  intro before type inside
  have mentioned : ∀ ref ∈ type.mentions, ref.IsPlain := fun ref mentioned =>
    plain ref (List.mem_flatMap.2 ⟨type, inside, mentioned⟩)
  rw [← addType_withTypes]
  cases type with
  | value type =>
      apply Advances.child
      · rfl
      · apply reads_leaf
        rw [valueTypeOf_typeElement (mentioned _ (by simp [TypeDef.mentions]))]
        rfl
  | enumeration type =>
      apply Advances.child
      · rfl
      · exact (reads_readEnumeration "enum" type rfl).map fun type =>
          (withTypes schema before).addType (.enumeration type)
  | bitmask type =>
      apply Advances.child
      · rfl
      · exact (reads_readEnumeration "bitmask" type rfl).map fun type =>
          (withTypes schema before).addType (.bitmask type)
  | struct type =>
      apply Advances.child
      · rfl
      · exact (reads_readStruct mentioned).map fun type =>
          (withTypes schema before).addType (.struct type)

/-! ## Documents -/

theorem reads_readMetadata (namePrefix : String) :
    Reads (readMetadata none) (metadataElement namePrefix) (some (displayed namePrefix)) := by
  apply Advances.reads
  apply Advances.child
  · exact if_pos rfl
  · apply Advances.reads
    apply Advances.child
    · exact if_pos rfl
    · exact (reads_trimmedText _ namePrefix).map some

/-- What the sections of a schema's document are read as. -/
def draftOf (schema : Schema) : Draft where
  schema :=
    { schema.rebuildIndex with license := displayed schema.license, namePrefix := "" }
  namePrefix := some (displayed schema.namePrefix)

theorem run_readRoot_sections {schema : Schema} (plain : ∀ type ∈ schema.mentions, type.IsPlain)
    (name : String) (rest : List Event) :
    readRoot.run (Element.eventsAll (sectionElements schema) ++ .close name :: rest) =
      .ok (draftOf schema, rest) := by
  simp only [mentions, List.mem_append] at plain
  let license : Schema := { license := displayed schema.license }
  let constants : Schema := { license with constants := schema.constants }
  let types : Schema := withTypes constants schema.types
  let freeFunctions : Schema := { types with freeFunctions := schema.freeFunctions }
  let functionPointers : Schema :=
    { freeFunctions with functionPointers := schema.functionPointers }
  let namePrefix := some (displayed schema.namePrefix)
  apply Advances.run_close
  refine Advances.cons ⟨license, none⟩ (.child rfl ?_) ?_
  · exact (reads_trimmedText _ schema.license).map fun license => Draft.mk { license } none
  refine Advances.cons ⟨license, namePrefix⟩ (.child rfl ?_) ?_
  · exact (reads_readMetadata schema.namePrefix).map fun namePrefix => Draft.mk license namePrefix
  refine Advances.cons ⟨constants, namePrefix⟩ (.child rfl ?_) ?_
  · have read := reads_readConstants { name := "defines" } fun type inside =>
      plain type (.inl (.inl (.inl (.inl inside))))
    exact read.map fun constants => Draft.mk { license with constants } namePrefix
  refine Advances.cons ⟨types, namePrefix⟩ (.child rfl ?_) ?_
  · have read := reads_readTypes constants { name := "types" } fun type inside =>
      plain type (.inl (.inl (.inl (.inr inside))))
    exact read.map fun types => Draft.mk types namePrefix
  refine Advances.cons ⟨freeFunctions, namePrefix⟩ (.child rfl ?_) ?_
  · have read := reads_readFunctions { name := "free_functions" } fun type inside =>
      plain type (.inl (.inl (.inr inside)))
    exact read.map fun freeFunctions => Draft.mk { types with freeFunctions } namePrefix
  refine Advances.cons ⟨functionPointers, namePrefix⟩ (.child rfl ?_) ?_
  · have read := reads_readFunctions { name := "function_pointers" } fun type inside =>
      plain type (.inl (.inr inside))
    exact read.map fun functionPointers =>
      Draft.mk { freeFunctions with functionPointers } namePrefix
  refine Advances.child rfl ?_
  have read := reads_readObjects { name := "objects" } fun type inside => plain type (.inr inside)
  exact read.map fun objects => Draft.mk { functionPointers with objects } namePrefix

/-- The document of a schema is one element. -/
theorem events_document (schema : Schema) :
    ∃ head : Head, events schema.document =
      .start head.tag :: (Element.eventsAll (sectionElements schema) ++ [.close head.name]) := by
  let head : Head := { name := "api" }
  refine ⟨head, ?_⟩
  have first : schema.document.toList = (Element.parent head (sectionElements schema)).write := by
    rw [document, String.toList_ofList]
  have read := Element.eventsFrom_write (.parent head (sectionElements schema)) [] []
  rw [List.append_nil, eventsFrom_nil, List.append_nil] at read
  have bracket : ∃ more, (Element.parent head (sectionElements schema)).write = '<' :: more :=
    ⟨_, rfl⟩
  obtain ⟨more, shape⟩ := bracket
  rw [events, first, shape]
  change (if ('<' == byteOrderMark) then _ else _) = _
  rw [if_neg (by decide), ← shape, read]
  rfl

/-- Loading the document of a schema reads its texts and gives everything else back. -/
theorem load_document_eq {schema : Schema} (plain : ∀ type ∈ schema.mentions, type.IsPlain) :
    Schema.load schema.document = (draftOf schema).finish := by
  obtain ⟨head, shape⟩ := events_document schema
  rw [Schema.load, shape, loadEvents_start, run_readRoot_sections plain]
  rfl

end ApiHeader.Description

namespace ApiHeader

open ApiHeader.Schema ApiHeader.Description ApiHeader.Text

/-- Loading the document of a schema gives the schema back, and its types are looked up
at their last definitions. -/
theorem load_document {schema : Schema}
    (named : schema.namePrefix ≠ "") (prefixTrimmed : trim schema.namePrefix = schema.namePrefix)
    (prefixLines : '\r' ∉ schema.namePrefix.toList)
    (licenseTrimmed : trim schema.license = schema.license)
    (licenseLines : '\r' ∉ schema.license.toList)
    (plain : ∀ type ∈ schema.mentions, TypeRef.resolve type.name = type) :
    Schema.load schema.document = .ok schema.rebuildIndex ∧ schema.rebuildIndex.UpToDate := by
  have nonempty : schema.namePrefix.isEmpty = false := by
    simpa [String.isEmpty_iff] using named
  refine ⟨?_, upToDate_of_indexed rfl⟩
  rw [load_document_eq plain, Draft.finish, draftOf, displayed_eq prefixLines prefixTrimmed,
    displayed_eq licenseLines licenseTrimmed]
  simp [nonempty, rebuildIndex]

/-- A schema with every kind of entity, and with characters that have to be escaped. -/
def deviceSchema : Schema where
  license := "Free & <open>\nfor \x22all\x22"
  namePrefix := "GPU"
  constants := [{ name := "WHOLE", type := .primitive "uint64_t", value := "UINT64_MAX" }]
  types := [
    .value { name := "Flags", underlying := .primitive "uint32_t" },
    .enumeration { name := "Kind", entries := [⟨"Cpu", "0"⟩, ⟨"Gpu", "a<b"⟩] },
    .bitmask { name := "Usage", entries := [⟨"Read", "0x1"⟩] },
    .struct {
      name := "Options"
      extensible := .input
      chained := .output
      chainRoots := ["Other"]
      members := [{
        name := "label", type := .primitive "char", annotation := some "const *",
        length := some "labelLength", default := some "\x22\x22", optional := true }]
      methods := Methods.empty.insertAll [{ name := "Free" }, { name := "Reset" }] }]
  freeFunctions := [{
    name := "Create", returns := .reference "Device", isAsync := true,
    callback := some (.reference "Done"),
    arguments := [{
      name := "options", type := .reference "Options", annotation := some "const *",
      optional := true, suppressNullable := true }] }]
  functionPointers := [{
    name := "Done", arguments := [{ name := "kind", type := .reference "Kind" }] }]
  objects := [{
    name := "Device", refcounted := true, methods := Methods.empty.insert { name := "Tick" } }]

theorem deviceSchema_load_document :
    deviceSchema.namePrefix ≠ "" ∧ trim deviceSchema.license = deviceSchema.license ∧
      (∀ type ∈ deviceSchema.mentions, TypeRef.resolve type.name = type) ∧
      Schema.load deviceSchema.document = .ok deviceSchema.rebuildIndex ∧
      deviceSchema.rebuildIndex.UpToDate :=
  ⟨by decide, by decide, by decide, load_document (by decide) (by decide) (by decide) (by decide)
    (by decide) (by decide)⟩

/-- A schema whose prefix has a carriage return inside. -/
def returnSchema : Schema where
  namePrefix := "A\rB"

/-- A carriage return inside the prefix does not come back, although it is no blank at
either end: it is read as a line feed. -/
theorem returnSchema_not_load_document :
    returnSchema.namePrefix ≠ "" ∧ trim returnSchema.namePrefix = returnSchema.namePrefix ∧
      trim returnSchema.license = returnSchema.license ∧ '\r' ∉ returnSchema.license.toList ∧
      (∀ type ∈ returnSchema.mentions, TypeRef.resolve type.name = type) ∧
      Schema.load returnSchema.document =
        .ok { returnSchema.rebuildIndex with namePrefix := "A\nB" } ∧
      Schema.load returnSchema.document ≠ .ok returnSchema.rebuildIndex := by
  have plain : ∀ type ∈ returnSchema.mentions, TypeRef.resolve type.name = type := by decide
  have license : displayed returnSchema.license = "" := displayed_eq (by decide) (by decide)
  have found : displayed returnSchema.namePrefix = "A\nB" := by
    rw [displayed]
    decide
  have loaded : Schema.load returnSchema.document =
      .ok { returnSchema.rebuildIndex with namePrefix := "A\nB" } := by
    rw [load_document_eq plain, Draft.finish, draftOf, found, license]
    rfl
  refine ⟨by decide, by decide, by decide, by decide, plain, loaded, ?_⟩
  rw [loaded]
  intro same
  have prefixes := congrArg Schema.namePrefix (Except.ok.inj same)
  revert prefixes
  decide

end ApiHeader
