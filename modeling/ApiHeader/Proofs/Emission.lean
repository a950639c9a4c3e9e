/-
# Where declarations stand in a header

A header is the text of its pieces one after the other. A declaration stands
wherever it is one of these pieces, and the text written for the pieces before it
says at which character. Two declarations are ordered in the text when no piece
that is the one stands after a piece that is the other, which is a statement about
the list of pieces alone.
-/

import ApiHeader.Header.Layout

namespace ApiHeader.Header

open ApiHeader.Schema

variable {options : Options} {resolved : Resolved} {naming : Naming}

/-- The pieces of a header in the order in which they are written. -/
def pieces (options : Options) (resolved : Resolved) : List Item :=
  (sections options resolved).flatMap Prod.snd

/-- The text of a declaration. -/
def Declaration.text (declaration : Declaration) : String :=
  renderItems [.declaration declaration]

/-- A declaration is a piece of a header, and so many characters are written before
it. -/
def DeclaredAt (options : Options) (resolved : Resolved) (declaration : Declaration)
    (start : Nat) : Prop :=
  ∃ before after, pieces options resolved = before ++ .declaration declaration :: after ∧
    (renderItems before).length = start

/-- Wherever two declarations stand in a header, the text of the first one is
complete before that of the second one starts. -/
def DeclaredBefore (options : Options) (resolved : Resolved) (first second : Declaration) :
    Prop :=
  ∀ start next, DeclaredAt options resolved first start →
    DeclaredAt options resolved second next →
    ∃ before between after,
      generate options resolved = before ++ first.text ++ between ++ second.text ++ after ∧
      before.length = start ∧ (before ++ first.text ++ between).length = next

theorem generate_eq (options : Options) (resolved : Resolved) :
    generate options resolved = renderItems (pieces options resolved) := rfl

theorem renderItems_append (first second : List Item) :
    renderItems (first ++ second) = renderItems first ++ renderItems second := by
  simp [renderItems, renderLines, String.ofList_append]

theorem renderItems_cons (declaration : Declaration) (rest : List Item) :
    renderItems (.declaration declaration :: rest) = declaration.text ++ renderItems rest :=
  renderItems_append [.declaration declaration] rest

/-- A piece stands somewhere in the text. -/
theorem declaredAt_of_mem {declaration : Declaration}
    (h : .declaration declaration ∈ pieces options resolved) :
    ∃ start, DeclaredAt options resolved declaration start := by
  obtain ⟨before, after, shape⟩ := List.append_of_mem h
  exact ⟨_, before, after, shape, rfl⟩

/-- The order of pieces is the order of their texts. -/
theorem declaredBefore_of_pairwise {first second : Declaration} (differs : first ≠ second)
    (h : (pieces options resolved).Pairwise fun a b =>
      ¬ (a = .declaration second ∧ b = .declaration first)) :
    DeclaredBefore options resolved first second := by
  rintro start next ⟨before, after, here, rfl⟩ ⟨before', after', there, rfl⟩
  rcases List.append_eq_append_iff.1 (here.symm.trans there) with
    ⟨between, rfl, shape⟩ | ⟨between, rfl, shape⟩
  · cases between with
    | nil =>
        obtain ⟨same, _⟩ := List.cons.inj shape
        exact absurd (Item.declaration.inj same) differs
    | cons item between =>
        obtain ⟨rfl, rfl⟩ := List.cons.inj shape
        refine ⟨renderItems before, renderItems between, renderItems after', ?_, rfl, ?_⟩
        · rw [generate_eq, there, renderItems_append, renderItems_append, renderItems_cons,
            renderItems_cons]
          simp only [String.append_assoc]
        · rw [renderItems_append, renderItems_cons, String.append_assoc]
  · -- here the second declaration would stand before the first
    exfalso
    cases between with
    | nil =>
        obtain ⟨same, _⟩ := List.cons.inj shape
        exact differs (Item.declaration.inj same).symm
    | cons item between =>
        obtain ⟨rfl, rfl⟩ := List.cons.inj shape
        rw [there, List.pairwise_append, List.pairwise_cons] at h
        exact h.2.1.1 (.declaration first) (by simp) ⟨rfl, rfl⟩

/-! ## The section of a declaration -/

/-- The sections in which a declaration may stand, by its shape. -/
def Declaration.sectionKinds : Declaration → List SectionKind
  | .constant .. => [.constants]
  | .synonym .. => [.valueTypes]
  | .markedSynonym .. => [.bitmasks]
  | .handle .. => [.handles]
  | .forward _ => [.forwardDeclarations]
  | .enumeration .. => [.enumerations, .bitmasks]
  | .functionPointer .. => [.functionPointers, .procs]
  | .struct .. => [.structures]
  | .prototype .. => [.prototypes]

@[simp]
theorem declaration_mem_paragraph {declaration : Declaration} {declarations : List Declaration} :
    .declaration declaration ∈ paragraph declarations ↔ declaration ∈ declarations := by
  cases declarations <;> simp [paragraph, Item.blank]

@[simp]
theorem declaration_mem_ownerBlock {declaration : Declaration} {guard heading : String}
    {declare : String → Function → Declaration} {groups : List OwnerGroup} :
    .declaration declaration ∈ ownerBlock guard heading declare groups ↔
      ∃ group ∈ groups, ∃ function ∈ group.functions,
        declare group.owner function = declaration := by
  simp [ownerBlock, Item.directive, Item.blank]

@[simp]
theorem declaration_mem_forwardSection {declaration : Declaration} :
    .declaration declaration ∈ forwardSection resolved naming ↔
      declaration ∈ forwardDeclarations resolved naming := by
  unfold forwardSection
  dsimp only
  split
  · next none_there => simp [List.isEmpty_iff.1 none_there]
  · simp

theorem declaration_not_mem_chainComment {declaration : Declaration} (naming : Naming)
    (struct : Struct) : .declaration declaration ∉ chainComment naming struct := by
  unfold chainComment
  split <;> simp

@[simp]
theorem declaration_mem_structSection {declaration : Declaration} :
    .declaration declaration ∈ structSection resolved naming ↔
      declaration ∈ chainHeaders naming ∨
        ∃ struct ∈ resolved.structsInOrder,
          structDeclaration resolved naming struct = declaration := by
  simp [structSection, declaration_not_mem_chainComment, eq_comm]

/-- The shape of a declaration tells its section. -/
theorem mem_sectionKinds {declaration : Declaration} {kind : SectionKind} {guard : String}
    (h : .declaration declaration ∈ kind.items resolved naming guard) :
    kind ∈ declaration.sectionKinds := by
  cases kind <;> simp only [SectionKind.items, procSection, prototypeSection,
    declaration_mem_paragraph, declaration_mem_forwardSection, declaration_mem_structSection,
    declaration_mem_ownerBlock] at h
  case constants =>
      obtain ⟨constant, _, rfl⟩ := List.mem_map.1 h
      exact List.mem_singleton_self _
  case valueTypes =>
      obtain ⟨type, _, rfl⟩ := List.mem_map.1 h
      exact List.mem_singleton_self _
  case handles =>
      obtain ⟨object, _, rfl⟩ := List.mem_map.1 h
      exact List.mem_singleton_self _
  case forwardDeclarations =>
      obtain ⟨name, _, rfl⟩ := List.mem_map.1 h
      exact List.mem_singleton_self _
  case enumerations =>
      obtain ⟨enumeration, _, inside⟩ := List.mem_flatMap.1 h
      rw [declaration_mem_paragraph, List.mem_singleton] at inside
      subst inside
      exact List.mem_cons_self
  case bitmasks =>
      obtain ⟨bitmask, _, inside⟩ := List.mem_flatMap.1 h
      rw [declaration_mem_paragraph, List.mem_cons, List.mem_singleton] at inside
      rcases inside with rfl | rfl
      · exact List.mem_cons_of_mem _ List.mem_cons_self
      · exact List.mem_singleton_self _
  case functionPointers =>
      obtain ⟨function, _, rfl⟩ := List.mem_map.1 h
      exact List.mem_cons_self
  case structures =>
      rcases h with header | ⟨struct, _, rfl⟩
      · rw [chainHeaders, List.mem_cons, List.mem_singleton] at header
        rcases header with rfl | rfl
        · exact List.mem_singleton_self _
        · exact List.mem_singleton_self _
      · exact List.mem_singleton_self _
  case procs =>
      obtain ⟨group, _, function, _, rfl⟩ := h
      exact List.mem_cons_of_mem _ List.mem_cons_self
  case prototypes =>
      obtain ⟨group, _, function, _, rfl⟩ := h
      exact List.mem_singleton_self _
  -- the other sections hold lines only
  all_goals
    simp [banner, guardOpen, guardClose, exportSelection, featureGuards, includes, linkageOpen,
      linkageClose, Item.blank, Item.directive] at h

end ApiHeader.Header
