/-
# Nesting of the conditions of a header

Read line by line, the conditions of a header are nested properly. The include guard
is open from the first directive to the last line, every other condition opens and
closes within it, and what comes before it is comments and blank lines.

Two things are shown of every section. By the lines that it was written in, it closes
what it opens. And each of these lines is read as what it was written for, as long as
the texts of the description stay within their lines; the license may be any text.
-/

import ApiHeader.Proofs.Conditions

namespace ApiHeader

open Schema Header Text

namespace Header

/-! ## Balanced sections -/

/-- What the lines of some pieces mean for conditions. -/
def effects (items : List Item) : List Effect :=
  items.flatMap fun item => item.lines.map Line.effect

theorem effects_append (first second : List Item) :
    effects (first ++ second) = effects first ++ effects second :=
  List.flatMap_append

theorem Declaration.effect_of_mem_lines {declaration : Declaration} {line : Line}
    (inside : line ∈ declaration.lines) : line.effect = .keeps := by
  cases declaration <;>
    simp only [Declaration.lines, List.mem_append, List.mem_map, List.mem_cons, List.not_mem_nil,
      or_false] at inside <;>
    grind [Line.effect, Directive.effect]

theorem balanced_flatMap {α : Type} {elements : List α} {write : α → List Item}
    (h : ∀ element ∈ elements, Balanced (effects (write element))) :
    Balanced (effects (elements.flatMap write)) := by
  induction elements with
  | nil => exact .nil
  | cons element rest ih =>
      rw [List.flatMap_cons, effects_append]
      refine (h element List.mem_cons_self).append (ih fun other inside => ?_)
      exact h other (List.mem_cons_of_mem _ inside)

/-- Pieces without directives for conditions are balanced. -/
theorem balanced_of_lines {items : List Item}
    (h : ∀ item ∈ items, ∀ line ∈ item.lines, line.effect = .keeps) : Balanced (effects items) := by
  refine balanced_of_keeps (List.forall_mem_flatMap.2 fun item inside => ?_)
  exact List.forall_mem_map.2 (h item inside)

theorem mem_paragraph {declarations : List Declaration} {item : Item}
    (inside : item ∈ paragraph declarations) :
    (∃ declaration ∈ declarations, item = .declaration declaration) ∨ item = .line .blank := by
  rw [paragraph] at inside
  split at inside
  · cases inside
  · rcases List.mem_append.1 inside with written | blank
    · obtain ⟨declaration, there, rfl⟩ := List.mem_map.1 written
      exact .inl ⟨declaration, there, rfl⟩
    · exact .inr (List.mem_singleton.1 blank)

theorem mem_banner {license : String} {item : Item} (inside : item ∈ banner license) :
    (∃ text ∈ lines (trim license), item = .line (.comment (trimEnd text))) ∨
      item = .line .blank := by
  rw [banner] at inside
  split at inside
  · cases inside
  · rcases List.mem_append.1 inside with written | blank
    · obtain ⟨text, there, rfl⟩ := List.mem_map.1 written
      exact .inl ⟨text, there, rfl⟩
    · exact .inr (List.mem_singleton.1 blank)

theorem balanced_paragraph (declarations : List Declaration) :
    Balanced (effects (paragraph declarations)) := by
  refine balanced_of_lines fun item inside line there => ?_
  rcases mem_paragraph inside with ⟨declaration, _, rfl⟩ | rfl
  · exact Declaration.effect_of_mem_lines there
  · obtain rfl := List.mem_singleton.1 there
    rfl

theorem balanced_banner (license : String) : Balanced (effects (banner license)) := by
  refine balanced_of_lines fun item inside line there => ?_
  rcases mem_banner inside with ⟨text, _, rfl⟩ | rfl
  · obtain rfl := List.mem_singleton.1 there
    rfl
  · obtain rfl := List.mem_singleton.1 there
    rfl

variable {resolved : Resolved} {naming : Naming}

theorem balanced_exportSelection : Balanced (effects (exportSelection naming)) := by
  have level : Balanced [.keeps] := .keeps .nil
  have choice : Balanced [.opens, .keeps, .divides, .keeps, .closes] := .divided level level .nil
  have hosts : Balanced [.opens, .opens, .keeps, .divides, .keeps, .closes, .divides, .opens,
      .keeps, .divides, .keeps, .closes, .closes] := .divided choice choice .nil
  exact .divided hosts level level

theorem balanced_forwardSection : Balanced (effects (forwardSection resolved naming)) := by
  rw [forwardSection]
  split
  · exact .nil
  · exact .keeps (balanced_paragraph _)

theorem balanced_structSection : Balanced (effects (structSection resolved naming)) := by
  rw [structSection, effects_append]
  refine (balanced_flatMap fun declaration _ => balanced_paragraph _).append ?_
  refine balanced_flatMap fun struct _ => ?_
  rw [effects_append]
  refine Balanced.append ?_ (balanced_paragraph _)
  rw [chainComment]
  split
  · exact .nil
  · exact .keeps .nil

theorem balanced_ownerBlock {mark heading : String} {declare : String → Function → Declaration}
    {groups : List OwnerGroup} : Balanced (effects (ownerBlock mark heading declare groups)) := by
  have body : Balanced (effects (groups.flatMap fun group =>
      (if group.owner.isEmpty then []
      else [.line (.comment (heading ++ " of " ++ group.owner))]) ++
        paragraph (group.functions.map (declare group.owner)))) := by
    refine balanced_flatMap fun group _ => ?_
    rw [effects_append]
    refine Balanced.append ?_ (balanced_paragraph _)
    split
    · exact .nil
    · exact .keeps .nil
  rw [ownerBlock, effects_append, effects_append]
  exact .block (.keeps body) (.keeps .nil)

/-- Every section but the two halves of the include guard is balanced. -/
theorem balanced_items {kind : SectionKind} {guard : String} (inner : kind ≠ .guardOpen)
    (inner' : kind ≠ .guardClose) : Balanced (effects (kind.items resolved naming guard)) := by
  cases kind with
  | guardOpen => exact absurd rfl inner
  | guardClose => exact absurd rfl inner'
  | banner => exact balanced_banner resolved.schema.license
  | exportSelection => exact balanced_exportSelection
  | featureGuards => exact balanced_flatMap fun mark _ => .block (.keeps .nil) (.keeps .nil)
  | includes => exact .keeps (.keeps (.keeps .nil))
  | linkageOpen | linkageClose => exact .block (.keeps .nil) (.keeps .nil)
  | constants | valueTypes | handles | functionPointers => exact balanced_paragraph _
  | forwardDeclarations => exact balanced_forwardSection
  | enumerations | bitmasks => exact balanced_flatMap fun _ _ => balanced_paragraph _
  | structures => exact balanced_structSection
  | procs | prototypes => exact balanced_ownerBlock

/-! ## Legible headers -/

/-- No text that a line is made of leaves the line or turns it into another one. -/
@[simp]
def Line.Contained : Line → Prop
  | blank => True
  | comment text => '\n' ∉ text.toList ∧ text.toList.getLast? ≠ some '\r'
  | directive _ content => AllInert content.texts ∧ content.Parted
  | code _ text => Inert text

theorem Line.legible_of_contained {line : Line} (h : line.Contained) : line.Legible := by
  cases line with
  | blank => exact legible_blank
  | comment text => exact legible_comment h.1 h.2
  | directive indent content => exact legible_directive h.1 h.2
  | code indent text => exact legible_code h

theorem Line.contained_comment {text : String} (h : Inert text) : (comment text).Contained := by
  obtain ⟨_, noFeed, noReturn⟩ := notMem_of_inert h
  exact ⟨noFeed, fun last => noReturn (List.mem_of_getLast? last)⟩

theorem Declaration.contained_lines {declaration : Declaration} (h : AllInert declaration.texts) :
    ∀ line ∈ declaration.lines, line.Contained := by
  cases declaration with
  | constant | synonym | markedSynonym | handle | forward =>
      simp only [texts, AllInert, List.forall_mem_cons] at h
      simp +decide [lines, AllInert, h]
  | enumeration name enumerators last mark =>
      simp only [texts, AllInert, List.forall_mem_append, List.forall_mem_cons,
        List.forall_mem_flatMap] at h
      obtain ⟨parts, entries⟩ := h
      have entered (entry : String × String) (inside : entry ∈ enumerators) :
          Inert (entry.1 ++ " = " ++ entry.2 ++ ",") := by
        simp +decide [entries entry inside]
      rw [lines, List.forall_mem_append, List.forall_mem_append, List.forall_mem_map]
      refine ⟨⟨?_, entered⟩, ?_⟩ <;> simp +decide [parts]
  | struct name fields mark =>
      simp only [texts, AllInert, List.forall_mem_append, List.forall_mem_cons,
        List.forall_mem_flatMap] at h
      obtain ⟨parts, members⟩ := h
      have rendered (field : Declarator) (inside : field ∈ fields) : Inert (field.render ++ ";") :=
        inert_append.2 ⟨Declarator.inert_render (members field inside), by decide⟩
      rw [lines, List.forall_mem_append, List.forall_mem_append, List.forall_mem_map]
      refine ⟨⟨?_, rendered⟩, ?_⟩ <;> simp +decide [parts]
  | functionPointer | prototype =>
      simp only [texts, AllInert, List.forall_mem_append, List.forall_mem_cons] at h
      obtain ⟨parts, signed⟩ := h
      have parameters := Signature.inert_parameterList signed
      have returned := signed _ List.mem_cons_self
      simp +decide [lines, parts, parameters, returned]

theorem contained_banner (license : String) {line : Line} (inside : .line line ∈ banner license) :
    line.Contained := by
  rcases mem_banner inside with ⟨text, there, same⟩ | blank
  · cases same
    refine ⟨fun feed => ?_, getLast?_trimEnd_ne text⟩
    -- trimming only takes characters away, so the feed was in a line of the license
    rw [toList_trimEnd] at feed
    exact notMem_of_mem_lines there (mem_of_mem_trimEndChars feed)
  · cases blank
    trivial

theorem contained_paragraph {declarations : List Declaration} {line : Line}
    (inside : .line line ∈ paragraph declarations) : line.Contained := by
  rcases mem_paragraph inside with ⟨declaration, _, same⟩ | blank
  · cases same
  · cases blank
    trivial

theorem contained_forwardSection {line : Line}
    (inside : .line line ∈ forwardSection resolved naming) : line.Contained := by
  rw [forwardSection] at inside
  split at inside
  · cases inside
  · rcases List.mem_cons.1 inside with same | written
    · cases same
      exact Line.contained_comment (by decide)
    · exact contained_paragraph written

theorem contained_guardOpen {guard : String} (h : Inert guard) {line : Line}
    (inside : .line line ∈ guardOpen guard) : line.Contained := by
  revert line
  simp +decide [guardOpen, Item.directive, Item.blank, AllInert, h]

theorem contained_guardClose {guard : String} (h : Inert guard) {line : Line}
    (inside : .line line ∈ guardClose guard) : line.Contained := by
  revert line
  simp +decide [guardClose, Item.directive, AllInert, h]

theorem contained_exportSelection (h : naming.Inert) {line : Line}
    (inside : .line line ∈ exportSelection naming) : line.Contained := by
  have exported : Inert naming.exportMacro := h.macroName (by decide)
  have shared : Inert naming.sharedLibraryMacro := h.macroName (by decide)
  have implementation : Inert naming.implementationMacro := h.macroName (by decide)
  revert line
  simp +decide [exportSelection, Item.blank, AllInert, exported, shared, implementation]

theorem contained_featureGuards (h : naming.Inert) {line : Line}
    (inside : .line line ∈ featureGuards naming) : line.Contained := by
  obtain ⟨mark, there, written⟩ := List.mem_flatMap.1 inside
  have suffixes : AllInert ["OBJECT_ATTRIBUTE", "ENUM_ATTRIBUTE", "STRUCTURE_ATTRIBUTE",
      "FUNCTION_ATTRIBUTE", "NULLABLE"] := by decide
  have marked : AllInert naming.featureGuards :=
    List.forall_mem_map.2 fun suffix listed => h.macroName (suffixes suffix listed)
  have marking := marked mark there
  clear inside
  revert line
  simp +decide [Item.directive, Item.blank, AllInert, marking]

theorem contained_ownerBlock {mark heading : String} {declare : String → Function → Declaration}
    {groups : List OwnerGroup} (marked : Inert mark) (headed : Inert heading)
    (owned : ∀ group ∈ groups, Inert group.owner) {line : Line}
    (inside : .line line ∈ ownerBlock mark heading declare groups) : line.Contained := by
  simp only [ownerBlock, List.mem_append, List.mem_flatMap] at inside
  rcases inside with (opening | ⟨group, there, title | body⟩) | closing
  · revert line
    simp +decide [Item.directive, Item.blank, AllInert, marked]
  · split at title
    · cases title
    · cases List.mem_singleton.1 title
      refine Line.contained_comment ?_
      simp +decide [headed, owned group there]
  · exact contained_paragraph body
  · revert line
    simp +decide [Item.directive, Item.blank, AllInert, marked]

theorem InertSource.contained_chainComment (source : InertSource resolved) {struct : Struct}
    (there : struct ∈ resolved.structsInOrder) {line : Line}
    (inside : .line line ∈ chainComment (namingOf resolved) struct) : line.Contained := by
  rw [chainComment] at inside
  split at inside
  · cases inside
  · cases List.mem_singleton.1 inside
    have roots :
        Inert (String.intercalate ", " (struct.chainRoots.map (namingOf resolved).typeName)) := by
      refine inert_intercalate (by decide) (List.forall_mem_map.2 fun root used => ?_)
      refine source.inert_namingOf.typeName (source.allInert_struct there root ?_)
      simp [Struct.texts, used]
    exact Line.contained_comment (inert_append.2 ⟨by decide, roots⟩)

/-- The lines of a header that declare nothing are contained. -/
theorem InertSource.contained_line (source : InertSource resolved) {kind : SectionKind}
    {guard : String} (guarded : Inert guard) {line : Line}
    (inside : .line line ∈ kind.items resolved (namingOf resolved) guard) : line.Contained := by
  have spelled := source.inert_namingOf
  have owned (group : OwnerGroup) (there : group ∈ ownerGroups resolved) : Inert group.owner :=
    (source.allInert_group there).1
  cases kind with
  | banner => exact contained_banner resolved.schema.license inside
  | guardOpen => exact contained_guardOpen guarded inside
  | exportSelection => exact contained_exportSelection spelled inside
  | featureGuards => exact contained_featureGuards spelled inside
  | includes | linkageOpen | linkageClose =>
      revert line
      simp +decide [SectionKind.items, includes, linkageOpen, linkageClose, Item.directive,
        Item.blank, AllInert]
  | constants | valueTypes | handles | functionPointers => exact contained_paragraph inside
  | forwardDeclarations => exact contained_forwardSection inside
  | enumerations | bitmasks =>
      obtain ⟨definition, _, written⟩ := List.mem_flatMap.1 inside
      exact contained_paragraph written
  | structures =>
      rcases List.mem_append.1 inside with leading | own
      · obtain ⟨header, _, written⟩ := List.mem_flatMap.1 leading
        exact contained_paragraph written
      · obtain ⟨struct, there, written⟩ := List.mem_flatMap.1 own
        rcases List.mem_append.1 written with comment | body
        · exact source.contained_chainComment there comment
        · exact contained_paragraph body
  | procs | prototypes =>
      exact contained_ownerBlock (spelled.macroName (by decide)) (by decide) owned inside
  | guardClose => exact contained_guardClose guarded inside

/-- Every line of a header is read as what it was written for. -/
theorem InertSource.legible_items (source : InertSource resolved) {kind : SectionKind}
    {guard : String} (guarded : Inert guard) :
    ∀ item ∈ kind.items resolved (namingOf resolved) guard, ∀ line ∈ item.lines, line.Legible := by
  intro item inside line there
  cases item with
  | line content =>
      obtain rfl := List.mem_singleton.1 there
      exact Line.legible_of_contained (source.contained_line guarded inside)
  | declaration content =>
      have texts := source.allInert_declaration inside
      exact Line.legible_of_contained (Declaration.contained_lines texts line there)

/-! ## Nested conditions -/

/-- The text of each line of some pieces. -/
def lineTexts (items : List Item) : List String :=
  (items.flatMap Item.lines).map Line.text

theorem map_effectOf_lineTexts {items : List Item}
    (h : ∀ item ∈ items, ∀ line ∈ item.lines, line.Legible) :
    (lineTexts items).map effectOf = effects items := by
  rw [lineTexts, List.map_map, effects, ← List.map_flatMap]
  refine List.map_congr_left fun line inside => ?_
  obtain ⟨item, there, written⟩ := List.mem_flatMap.1 inside
  exact (h item there line written).read

/-- Everything but the banner stands between the two halves of the include guard. -/
theorem exists_layout (options : Options) :
    ∃ inner, options.layout = [.banner, .guardOpen] ++ inner ++ [.guardClose] ∧
      ∀ kind ∈ inner, kind ≠ .guardOpen ∧ kind ≠ .guardClose := by
  refine ⟨(options.layout.drop 2).dropLast, ?_, ?_⟩ <;> rw [Options.layout]
  · split <;> rfl
  · split <;> decide

theorem text_guardOpen (guard : String) :
    (Line.directive 0 (.whenUndefined guard)).text = "#ifndef " ++ guard :=
  String.toList_inj.1 (by simp [Line.text, Directive.text, spaces])

theorem text_guardDefine (guard : String) :
    (Line.directive 0 (.define guard "")).text = "#define " ++ guard :=
  String.toList_inj.1 (by simp [Line.text, Directive.text, spaces])

theorem text_guardClose (guard : String) :
    (Line.directive 0 (.endif (" // " ++ guard))).text = "#endif // " ++ guard :=
  String.toList_inj.1 (by simp [Line.text, Directive.text, spaces])

/-- The lines of a banner are comments, but for the blank one after them. -/
theorem plain_of_mem_lineTexts_banner {license line : String}
    (inside : line ∈ lineTexts (banner license)) :
    (line = "" ∨ "//".toList <+: line.toList) ∧ directiveWord? line = none := by
  obtain ⟨written, there, rfl⟩ := List.mem_map.1 inside
  obtain ⟨item, listed, holds⟩ := List.mem_flatMap.1 there
  rcases mem_banner listed with ⟨text, _, rfl⟩ | rfl
  · obtain rfl := List.mem_singleton.1 holds
    have shape := Line.toList_comment (trimEnd text)
    exact ⟨.inr ⟨_, shape.symm⟩, Line.directiveWord?_comment (trimEnd text)⟩
  · obtain rfl := List.mem_singleton.1 holds
    exact ⟨.inl rfl, rfl⟩

theorem pieces_eq_flatMap (options : Options) (resolved : Resolved) :
    pieces options resolved = options.layout.flatMap fun kind =>
      kind.items resolved (namingOf resolved) (guardOf options resolved) := by
  rw [pieces, sections, List.flatMap_map]

/-- The text of a header is read as the lines that it was written in. -/
theorem InertSource.lines_generate {options : Options} (source : InertSource resolved)
    (guarded : Inert (guardOf options resolved)) :
    lines (generate options resolved) = lineTexts (pieces options resolved) := by
  refine lines_renderLines fun line inside => ?_
  obtain ⟨item, there, written⟩ := List.mem_flatMap.1 inside
  rw [← pieces, pieces_eq_flatMap] at there
  obtain ⟨kind, _, listed⟩ := List.mem_flatMap.1 there
  exact source.legible_items guarded item listed line written

/-- The lines of a header are those of the banner, then the include guard, and all
others between its two halves. -/
theorem exists_lineTexts_pieces (options : Options) (resolved : Resolved) :
    ∃ inner : List SectionKind,
      (∀ kind ∈ inner, kind ≠ .guardOpen ∧ kind ≠ .guardClose) ∧
      lineTexts (pieces options resolved) =
        lineTexts (banner resolved.schema.license) ++ ("#ifndef " ++ guardOf options resolved) ::
          ((("#define " ++ guardOf options resolved) :: "" :: lineTexts (inner.flatMap fun kind =>
            kind.items resolved (namingOf resolved) (guardOf options resolved))) ++
            ["#endif // " ++ guardOf options resolved]) := by
  obtain ⟨inner, laid, between⟩ := exists_layout options
  refine ⟨inner, between, ?_⟩
  rw [pieces_eq_flatMap, laid, ← text_guardOpen, ← text_guardDefine, ← text_guardClose]
  simp [lineTexts, SectionKind.items, guardOpen, guardClose, Item.directive, Item.blank, Item.lines,
    Line.text]

theorem InertSource.inert_guardOf {options : Options} (source : InertSource resolved)
    (guarded : ∀ guard ∈ options.includeGuard, Inert guard) :
    Inert (guardOf options resolved) := by
  rw [guardOf]
  cases named : options.includeGuard with
  | none => exact source.inert_namingOf.macroName (by decide)
  | some guard => exact guarded guard named

/-- Within inert texts the conditions of a header are nested properly: the include
guard opens with the first directive and closes with the last line, and nothing else
is open outside of it. -/
theorem conditions_nested {schema : Schema} {resolved : Resolved} {options : Options}
    (ordered : Resolved.ofSchema schema = .ok resolved) (inert : AllInert schema.texts)
    (guarded : ∀ guard ∈ options.includeGuard, Inert guard) :
    ∃ lead body,
      lines (generate options resolved) =
        lead ++ ("#ifndef " ++ guardOf options resolved) ::
          ((("#define " ++ guardOf options resolved) :: body) ++
            ["#endif // " ++ guardOf options resolved]) ∧
      (∀ line ∈ lead, (line = "" ∨ "//".toList <+: line.toList) ∧ directiveWord? line = none) ∧
      ∀ part, part <+: lines (generate options resolved) →
        ∃ branches, conditionsAfter part = some branches ∧
          (branches = [] ↔ part <+: lead ∨ part = lines (generate options resolved)) := by
  have source := inertSource_of_ofSchema inert ordered
  have inertGuard := source.inert_guardOf guarded
  obtain ⟨inner, between, shape⟩ := exists_lineTexts_pieces options resolved
  rw [source.lines_generate inertGuard, shape]
  generalize guardOf options resolved = guard at inertGuard ⊢
  -- between the halves of the guard the text is read as it was written, section by section
  have level : Balanced ((lineTexts (inner.flatMap fun kind =>
      kind.items resolved (namingOf resolved) guard)).map effectOf) := by
    rw [map_effectOf_lineTexts fun item there => ?_]
    · refine balanced_flatMap fun kind there => ?_
      exact balanced_items (between kind there).1 (between kind there).2
    · obtain ⟨kind, _, listed⟩ := List.mem_flatMap.1 there
      exact source.legible_items inertGuard item listed
  refine ⟨_, _, rfl, fun line => plain_of_mem_lineTexts_banner, fun part start => ?_⟩
  refine conditionsAfter_guarded ?_ ?_ ?_ ?_ start
  · intro line inside
    exact effectOf_of_directiveWord? (plain_of_mem_lineTexts_banner inside).2
  · rw [← text_guardOpen]
    exact effectOf_directive trivial
  · have defining : effectOf ("#define " ++ guard) = .keeps := by
      rw [← text_guardDefine]
      exact effectOf_directive trivial
    have blank : effectOf "" = .keeps := by decide
    rw [List.map_cons, List.map_cons, defining, blank]
    exact .keeps (.keeps level)
  · rw [← text_guardClose]
    exact effectOf_directive (by simp +decide)

/-- A schema whose license would end a condition that it never opened. -/
def licensedSchema : Schema :=
  { sceneSchema with
    license := "Free to use\n#endif\r#else\n\n  #if 0 "
    freeFunctions :=
      [{ name := "Render", arguments := [{ name := "to", type := .reference "Window" }] }]
    objects := [{ name := "Window" }] }

def licensedResolved : Resolved :=
  ⟨licensedSchema, licensedSchema.entityKinds, sceneDepths, licensedSchema.structOrder sceneDepths⟩

theorem licensedSchema_conditions_nested :
    Resolved.ofSchema licensedSchema = .ok licensedResolved ∧ AllInert licensedSchema.texts ∧
    Inert "SCENE_H" ∧
    ∃ lead body,
      lines (generate { includeGuard := some "SCENE_H" } licensedResolved) =
        lead ++ "#ifndef SCENE_H" :: (("#define SCENE_H" :: body) ++ ["#endif // SCENE_H"]) ∧
      (∀ line ∈ lead, (line = "" ∨ "//".toList <+: line.toList) ∧ directiveWord? line = none) ∧
      ∀ part, part <+: lines (generate { includeGuard := some "SCENE_H" } licensedResolved) →
        ∃ branches, conditionsAfter part = some branches ∧
          (branches = [] ↔ part <+: lead ∨
            part = lines (generate { includeGuard := some "SCENE_H" } licensedResolved)) := by
  have depths : licensedSchema.structDepths = .ok sceneDepths := by decide +kernel
  have ordered : Resolved.ofSchema licensedSchema = .ok licensedResolved :=
    Resolved.ofSchema_of_structDepths depths
  have inert : AllInert licensedSchema.texts := by decide +kernel
  have guarded : Inert "SCENE_H" := by decide
  refine ⟨ordered, inert, guarded, ?_⟩
  exact conditions_nested ordered inert (by simpa using guarded)

end Header

end ApiHeader
