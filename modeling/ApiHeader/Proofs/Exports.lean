/-
# Exported functions

Every function of a description is written twice, as the type of a pointer to it and as
an exported function. Both blocks are written from the same groups, and a group without
functions is left out, heading included. So each block can be read back: a declaration
belongs to the owner whose heading it stands under, and a blank line ends a group.

Read in this way both blocks list the same functions. Free functions come by name, then
the methods of objects by the names of the objects, then those of structures in the order
of their bodies, and the methods of one owner in the order of their own names. Nothing is
lost and nothing is listed twice as long as no two types share a name; otherwise a
structure may be hidden behind another type, and its methods with it.
-/

import ApiHeader.Proofs.StructBodies

namespace ApiHeader

open Schema Header

variable {schema : Schema} {resolved : Resolved} {naming : Naming}

/-! ## Methods -/

namespace Schema

end Schema

namespace Header

/-- The declarations among some pieces, each with the comment that it stands under. A blank
line ends what stands under a comment. -/
def headed : Option String → List Item → List (Option String × Declaration)
  | _, [] => []
  | heading, .declaration declaration :: rest => (heading, declaration) :: headed heading rest
  | _, .line (.comment text) :: rest => headed (some text) rest
  | _, .line .blank :: rest => headed none rest
  | heading, .line _ :: rest => headed heading rest

/-- The comment that the functions of an owner stand under. -/
def headingOf (heading owner : String) : Option String :=
  if owner.isEmpty then none else some (heading ++ " of " ++ owner)

theorem headed_paragraph {declarations : List Declaration} (filled : declarations ≠ [])
    (heading : Option String) (rest : List Item) :
    headed heading (paragraph declarations ++ rest) =
      declarations.map (Prod.mk heading) ++ headed none rest := by
  have each (declarations : List Declaration) :
      headed heading (declarations.map .declaration ++ .blank :: rest) =
        declarations.map (Prod.mk heading) ++ headed none rest := by
    induction declarations with
    | nil => rfl
    | cons declaration declarations ih => exact congrArg _ ih
  rw [paragraph, if_neg (by simpa using filled), List.append_assoc]
  exact each declarations

/-- The functions of some groups, each with its owner. -/
def grouped (groups : List OwnerGroup) : List (String × Function) :=
  groups.flatMap fun group => group.functions.map (Prod.mk group.owner)

section Block

variable (heading : String) (declare : String → Function → Declaration)

/-- The pieces of one group in a block. -/
def groupItems (group : OwnerGroup) : List Item :=
  (if group.owner.isEmpty then [] else [.line (.comment (heading ++ " of " ++ group.owner))]) ++
    paragraph (group.functions.map (declare group.owner))

/-- What a block says of a function and its owner. -/
def blockEntry (entry : String × Function) : Option String × Declaration :=
  (headingOf heading entry.1, declare entry.1 entry.2)

theorem headed_groupItems {group : OwnerGroup} (filled : group.functions ≠ [])
    (rest : List Item) :
    headed none (groupItems heading declare group ++ rest) =
      (group.functions.map (Prod.mk group.owner)).map (blockEntry heading declare) ++
        headed none rest := by
  have declared : group.functions.map (declare group.owner) ≠ [] := by simpa using filled
  have entries : (group.functions.map (Prod.mk group.owner)).map (blockEntry heading declare) =
      (group.functions.map (declare group.owner)).map
        (Prod.mk (headingOf heading group.owner)) := by
    rw [List.map_map, List.map_map]
    rfl
  rw [entries, groupItems, List.append_assoc, headingOf]
  by_cases free : group.owner.isEmpty
  · rw [if_pos free, if_pos free]
    exact headed_paragraph declared none rest
  · rw [if_neg free, if_neg free]
    exact headed_paragraph declared _ rest

/-- A block lists the functions of its groups under the headings of their owners. -/
theorem headed_ownerBlock (guard : String) {groups : List OwnerGroup}
    (filled : ∀ group ∈ groups, group.functions ≠ []) :
    headed none (ownerBlock guard heading declare groups) =
      (grouped groups).map (blockEntry heading declare) := by
  have each {groups : List OwnerGroup} (filled : ∀ group ∈ groups, group.functions ≠ [])
      (rest : List Item) :
      headed none (groups.flatMap (groupItems heading declare) ++ rest) =
        (grouped groups).map (blockEntry heading declare) ++ headed none rest := by
    induction groups with
    | nil => rfl
    | cons group groups ih =>
        obtain ⟨own, others⟩ := List.forall_mem_cons.1 filled
        rw [grouped, List.flatMap_cons, List.flatMap_cons, List.map_append, List.append_assoc,
          List.append_assoc, headed_groupItems heading declare own, ih others]
        rfl
  have block : headed none (ownerBlock guard heading declare groups) =
      headed none (groups.flatMap (groupItems heading declare) ++
        [.directive (.endif ("  // !defined(" ++ guard ++ ")")), .blank]) := rfl
  rw [block, each filled]
  exact List.append_nil _

end Block

/-! ## Listed functions -/

/-- The functions of some free functions, objects and structures, each with its owner. -/
def functionsOf (free : List Function) (objects : List Object) (structs : List Struct) :
    List (String × Function) :=
  free.map (Prod.mk "") ++
    objects.flatMap (fun object => object.allMethods.toList.map (Prod.mk object.name)) ++
    structs.flatMap fun struct => struct.methods.toList.map (Prod.mk struct.name)

theorem functionsOf_perm {free free' : List Function} {objects objects' : List Object}
    {structs structs' : List Struct} (functions : free.Perm free') (handles : objects.Perm objects')
    (bodies : structs.Perm structs') :
    (functionsOf free objects structs).Perm (functionsOf free' objects' structs') :=
  ((functions.map _).append (handles.flatMap_right _)).append (bodies.flatMap_right _)

/-- Elements that add nothing do not count. -/
theorem flatMap_filter {α β : Type} {keep : α → Bool} {items : α → List β} {elements : List α}
    (dropped : ∀ element ∈ elements, keep element = false → items element = []) :
    (elements.filter keep).flatMap items = elements.flatMap items := by
  induction elements with
  | nil => rfl
  | cons element elements ih =>
      obtain ⟨own, others⟩ := List.forall_mem_cons.1 dropped
      rw [List.filter_cons, List.flatMap_cons, ← ih others]
      cases kept : keep element with
      | false => rw [own kept]; rfl
      | true => rfl

theorem grouped_ownerGroups (resolved : Resolved) :
    grouped (ownerGroups resolved) =
      functionsOf (resolved.schema.freeFunctions.mergeSort fun a b => a.name ≤ b.name)
        (resolved.schema.objects.mergeSort fun a b => a.name ≤ b.name)
        resolved.structsInOrder := by
  rw [ownerGroups, grouped, flatMap_filter fun group _ empty => ?_]
  · simp [functionsOf, List.flatMap_map]
  · simpa using empty

theorem ownerGroups_filled (resolved : Resolved) :
    ∀ group ∈ ownerGroups resolved, group.functions ≠ [] := by
  intro group inside
  simpa using (List.mem_filter.1 inside).2

/-- What the declaration of a function says about its parameters and its value. -/
def Declaration.signature? : Declaration → Option Signature
  | .functionPointer _ signature _ => some signature
  | .prototype _ _ signature _ => some signature
  | _ => none

/-- Both blocks list the given functions under their owners, and with the same
signatures. -/
structure BlocksList (resolved : Resolved) (naming : Naming) (listed : List (String × Function)) :
    Prop where
  procs : headed none (procSection resolved naming) =
    listed.map (blockEntry "Procs" (procDeclaration resolved naming))
  prototypes : headed none (prototypeSection resolved naming) =
    listed.map (blockEntry "Methods" (prototypeDeclaration resolved naming))
  signatures : (headed none (procSection resolved naming)).map (fun entry => entry.2.signature?) =
    (headed none (prototypeSection resolved naming)).map fun entry => entry.2.signature?

theorem blocksList_ownerGroups (resolved : Resolved) (naming : Naming) :
    BlocksList resolved naming (grouped (ownerGroups resolved)) := by
  have procs : headed none (procSection resolved naming) = _ :=
    headed_ownerBlock "Procs" (procDeclaration resolved naming) naming.skipProcs
      (ownerGroups_filled resolved)
  have prototypes : headed none (prototypeSection resolved naming) = _ :=
    headed_ownerBlock "Methods" (prototypeDeclaration resolved naming) naming.skipDeclarations
      (ownerGroups_filled resolved)
  refine ⟨procs, prototypes, ?_⟩
  rw [procs, prototypes, List.map_map, List.map_map]
  rfl

end Header

end ApiHeader
