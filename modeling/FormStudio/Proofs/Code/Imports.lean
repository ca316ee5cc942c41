import Mathlib.Data.List.Sort
import Mathlib.Data.String.Basic
import FormStudio.Proofs.Form.Names
import FormStudio.Proofs.Outcome
import FormStudio.Proofs.Table

/-!
# Imports of a generated form

The imports of the controls are grouped by module, and both the groups and the names in each of them
are sorted. So the groups depend on what is imported alone, in whatever order and however often it
comes (`ImportGroup.AreSorted.eq_of_holds_iff`). In front of them stand the modules of the framework
and of the libraries, from which no control imports anything else, and no two modules have a name in
common. So every module has one statement, and every name is imported once
(`Component.AreCoveredBy.importOnce`). What a control imports depends on its variant alone
(`Handler.importsSame_of_snippet?`), and so the statements depend on the variants of a form, each
taken once (`Form.importsOnce_of_component`).
-/
namespace FormStudio

/-! ## Sorted texts -/

namespace Sorted

variable {texts others : List String} {text : String}

/-- Whether texts are in order, each of them once. -/
def IsSorted (texts : List String) : Prop := texts.Pairwise (· < ·)

theorem isSorted_insert (h : IsSorted texts) : IsSorted (insert text texts) := by
  induction texts with
  | nil => exact List.pairwise_singleton _ _
  | cons other rest ih =>
    obtain ⟨hother, hrest⟩ := List.pairwise_cons.1 h
    unfold insert
    split
    · next hlt =>
      refine List.pairwise_cons.2 ⟨List.forall_mem_cons.2 ⟨hlt, fun x hx => ?_⟩, h⟩
      exact lt_trans hlt (hother x hx)
    · next hge =>
      split
      · exact h
      · next hne =>
        refine List.pairwise_cons.2 ⟨fun x hx => ?_, ih hrest⟩
        rcases mem_insert.1 hx with rfl | hx
        · exact lt_of_le_of_ne (not_lt.1 hge) (Ne.symm hne)
        · exact hother x hx

theorem isSorted_ofList (texts : List String) : IsSorted (ofList texts) := by
  induction texts with
  | nil => exact List.Pairwise.nil
  | cons text rest ih => exact isSorted_insert ih

theorem IsSorted.nodup (h : IsSorted texts) : texts.Nodup := List.Pairwise.imp ne_of_lt h

/-- Sorted texts are told apart by what they hold. -/
theorem IsSorted.eq_of_mem_iff (h : IsSorted texts) (hothers : IsSorted others)
    (hsame : ∀ x, x ∈ texts ↔ x ∈ others) : texts = others :=
  List.SortedLT.eq_of_mem_iff h.sortedLT hothers.sortedLT hsame

end Sorted

/-! ## Groups -/

namespace ImportGroup

variable {groups others : List ImportGroup} {item : Import}

/-- Whether groups are in order, each module once, and each has names, in order. -/
structure AreSorted (groups : List ImportGroup) : Prop where
  sources : groups.Pairwise fun first second => first.source < second.source
  names : ∀ group ∈ groups, Sorted.IsSorted group.names ∧ group.names ≠ []

theorem source_of_mem_insert {group : ImportGroup} (h : group ∈ insert item groups) :
    group.source = item.source ∨ ∃ other ∈ groups, group.source = other.source := by
  induction groups with
  | nil => exact .inl (congrArg source (List.mem_singleton.1 h))
  | cons other rest ih =>
    unfold insert at h
    split at h
    · rcases List.mem_cons.1 h with rfl | h
      · exact .inl rfl
      · exact .inr ⟨group, h, rfl⟩
    · split at h
      · rcases List.mem_cons.1 h with rfl | h
        · exact .inr ⟨other, List.mem_cons_self, rfl⟩
        · exact .inr ⟨group, List.mem_cons_of_mem other h, rfl⟩
      · rcases List.mem_cons.1 h with rfl | h
        · exact .inr ⟨group, List.mem_cons_self, rfl⟩
        · rcases ih h with heq | ⟨found, hfound, heq⟩
          · exact .inl heq
          · exact .inr ⟨found, List.mem_cons_of_mem other hfound, heq⟩

theorem areSorted_insert (h : AreSorted groups) : AreSorted (insert item groups) := by
  have hsingle : Sorted.IsSorted [item.name] ∧ [item.name] ≠ [] :=
    ⟨List.pairwise_singleton _ _, nofun⟩
  induction groups with
  | nil => exact ⟨List.pairwise_singleton _ _, List.forall_mem_singleton.2 hsingle⟩
  | cons group rest ih =>
    obtain ⟨hgroup, hrest⟩ := List.pairwise_cons.1 h.sources
    obtain ⟨hnames, hrestNames⟩ := List.forall_mem_cons.1 h.names
    unfold insert
    split
    · next hlt =>
      refine ⟨List.pairwise_cons.2 ⟨List.forall_mem_cons.2 ⟨hlt, fun other hother => ?_⟩,
        h.sources⟩, List.forall_mem_cons.2 ⟨hsingle, h.names⟩⟩
      exact lt_trans hlt (hgroup other hother)
    · next hge =>
      split
      · refine ⟨List.pairwise_cons.2 ⟨hgroup, hrest⟩, List.forall_mem_cons.2 ⟨?_, hrestNames⟩⟩
        exact ⟨Sorted.isSorted_insert hnames.1,
          List.ne_nil_of_mem (Sorted.mem_insert.2 (.inl rfl))⟩
      · next hne =>
        obtain ⟨hsources, hall⟩ := ih ⟨hrest, hrestNames⟩
        refine ⟨List.pairwise_cons.2 ⟨fun other hother => ?_, hsources⟩,
          List.forall_mem_cons.2 ⟨hnames, hall⟩⟩
        rcases source_of_mem_insert hother with heq | ⟨found, hfound, heq⟩
        · exact heq ▸ lt_of_le_of_ne (not_lt.1 hge) (Ne.symm hne)
        · exact heq ▸ hgroup found hfound

theorem areSorted_ofImports (imports : List Import) : AreSorted (ofImports imports) := by
  induction imports with
  | nil => exact ⟨List.Pairwise.nil, List.forall_mem_nil _⟩
  | cons item rest ih => exact areSorted_insert ih

theorem AreSorted.nodup_sources (h : AreSorted groups) : (groups.map source).Nodup :=
  List.pairwise_map.2 (h.sources.imp ne_of_lt)

/-- A group has the names that are imported from its module. -/
theorem holds_iff_of_mem (hsources : (groups.map source).Nodup) {group : ImportGroup}
    (hgroup : group ∈ groups) {name : String} :
    Holds groups ⟨group.source, name⟩ ↔ name ∈ group.names := by
  refine ⟨?_, fun hname => ⟨group, hgroup, rfl, hname⟩⟩
  rintro ⟨found, hfound, hsource, hname⟩
  obtain rfl := List.inj_on_of_nodup_map hsources hfound hgroup hsource
  exact hname

/-- A group of sorted groups is found again among others that hold the same. -/
theorem AreSorted.mem_of_holds_iff (h : AreSorted groups) (hothers : AreSorted others)
    (hsame : ∀ item, Holds groups item ↔ Holds others item) {group : ImportGroup}
    (hgroup : group ∈ groups) : group ∈ others := by
  obtain ⟨hsorted, hne⟩ := h.names group hgroup
  obtain ⟨name, hname⟩ := List.exists_mem_of_ne_nil _ hne
  obtain ⟨other, hother, hsource, -⟩ := (hsame ⟨group.source, name⟩).1 ⟨group, hgroup, rfl, hname⟩
  dsimp only at hsource
  have hnames : other.names = group.names := by
    refine (hothers.names other hother).1.eq_of_mem_iff hsorted fun x => ?_
    rw [← holds_iff_of_mem hothers.nodup_sources hother, ← hsame, hsource,
      holds_iff_of_mem h.nodup_sources hgroup]
  have heq : other = group := by
    cases other
    cases group
    simp_all
  exact heq ▸ hother

/-- **Sorted groups are told apart by the imports that they hold.** -/
theorem AreSorted.eq_of_holds_iff (h : AreSorted groups) (hothers : AreSorted others)
    (hsame : ∀ item, Holds groups item ↔ Holds others item) : groups = others := by
  have hmem : ∀ group, group ∈ groups ↔ group ∈ others := fun group =>
    ⟨h.mem_of_holds_iff hothers hsame, hothers.mem_of_holds_iff h fun item => (hsame item).symm⟩
  have hperm : groups.Perm others :=
    (List.perm_ext_iff_of_nodup h.nodup_sources.of_map hothers.nodup_sources.of_map).2 hmem
  refine hperm.eq_of_pairwise (fun first second _ _ hlt hgt => ?_) h.sources hothers.sources
  exact absurd hlt (lt_asymm hgt)

theorem holds_ofImports {imports : List Import} :
    Holds (ofImports imports) item ↔ item ∈ imports := by
  induction imports with
  | nil => simp [ofImports, Holds]
  | cons first rest ih =>
    show Holds (insert first (ofImports rest)) item ↔ _
    rw [mem_insert, ih, List.mem_cons]

/-- What a statement imports. -/
def imports (group : ImportGroup) : List Import := group.names.map (⟨group.source, ·⟩)

theorem holds_iff_mem_imports : Holds groups item ↔ item ∈ groups.flatMap imports := by
  obtain ⟨source, name⟩ := item
  simp [Holds, imports, and_comm]

theorem holds_append : Holds (groups ++ others) item ↔ Holds groups item ∨ Holds others item := by
  simp only [holds_iff_mem_imports, List.flatMap_append, List.mem_append]

theorem holds_singleton {group : ImportGroup} : Holds [group] item ↔ item ∈ group.imports := by
  rw [holds_iff_mem_imports, List.flatMap_singleton]

/-- Whether each module has one statement, and each name is imported once. -/
structure ImportOnce (groups : List ImportGroup) : Prop where
  sources : (groups.map source).Nodup
  names : (groups.flatMap names).Nodup
  /-- No statement is empty. -/
  ne_nil : ∀ group ∈ groups, group.names ≠ []

/-- Whether no two modules have a name in common. -/
def HaveOneSource (imports : List Import) : Prop :=
  ∀ first ∈ imports, ∀ second ∈ imports, first.name = second.name → first.source = second.source

theorem nodup_names (hsources : (groups.map source).Nodup)
    (hnames : ∀ group ∈ groups, group.names.Nodup) (hone : HaveOneSource (groups.flatMap imports)) :
    (groups.flatMap names).Nodup := by
  refine List.nodup_flatMap.2 ⟨hnames, (List.pairwise_map.1 hsources).imp_of_mem ?_⟩
  intro first second hfirst hsecond hne name hinFirst hinSecond
  exact hne (hone ⟨first.source, name⟩ (holds_iff_mem_imports.1 ⟨first, hfirst, rfl, hinFirst⟩)
    ⟨second.source, name⟩ (holds_iff_mem_imports.1 ⟨second, hsecond, rfl, hinSecond⟩) rfl)

end ImportGroup

/-! ## What controls import -/

/-- What a control imports, from the framework as well. -/
def Snippet.allImports (snippet : Snippet) : List Import :=
  snippet.frameworkNames.map (⟨"react", ·⟩) ++ snippet.imports

/-- Whether two controls import the same. -/
def Snippet.ImportsSame (snippet other : Snippet) : Prop :=
  snippet.imports = other.imports ∧ snippet.frameworkNames = other.frameworkNames

namespace Handler

/-- **What a control imports depends on its variant alone.** -/
theorem importsSame_of_snippet? {handler : Handler} {f g : Field} {binding other : Binding}
    {snippet found : Snippet} (h : handler.snippet? f binding = some snippet)
    (hfound : handler.snippet? g other = some found) : snippet.ImportsSame found := by
  cases handler with
  | bare => cases h
  | text =>
    cases h
    cases hfound
    simp only [Snippet.ImportsSame, Snippet.text, Snippet.ofComponent, Snippet.plain, and_self]
  | textarea =>
    cases h
    cases hfound
    simp only [Snippet.ImportsSame, Snippet.textarea, Snippet.ofComponent, Snippet.plain, and_self]
  | otp =>
    cases h
    cases hfound
    simp only [Snippet.ImportsSame, Snippet.otp, Snippet.plain, and_self]
  | signature _ canvasRef =>
    cases h
    cases hfound
    cases canvasRef <;>
      simp [Snippet.ImportsSame, Snippet.signature, Snippet.ofComponent, Snippet.plain]
  | choice style =>
    cases h
    cases hfound
    cases style <;> simp only [Snippet.ImportsSame, Snippet.choice, Snippet.plain, and_self]
  | toggle =>
    cases h
    cases hfound
    simp only [Snippet.ImportsSame, Snippet.toggle, Snippet.ofComponent, Snippet.plain, and_self]
  | number style =>
    cases h
    cases hfound
    cases style <;>
      simp only [Snippet.ImportsSame, Snippet.number, Snippet.ofComponent, Snippet.plain, and_self]
  | list style =>
    cases h
    cases hfound
    cases style <;>
      simp only [Snippet.ImportsSame, Snippet.list, Snippet.ofComponent, Snippet.plain, and_self]
  | date style =>
    cases h
    cases hfound
    cases style <;> simp only [Snippet.ImportsSame, Snippet.date, Snippet.calendar,
      Snippet.ofComponent, Snippet.plain, and_self]

/-- A variant that has code for one field has it for any other, with the same imports. -/
theorem exists_importsSame {handler : Handler} {f : Field} {binding : Binding} {snippet : Snippet}
    (h : handler.snippet? f binding = some snippet) (g : Field) (other : Binding) :
    ∃ found, handler.snippet? g other = some found ∧ snippet.ImportsSame found := by
  have hf : (handler.snippet? f binding).isSome = true := Option.isSome_iff_exists.2 ⟨_, h⟩
  have hg : (handler.snippet? g other).isSome = true := by
    rw [isSome_snippet?] at hf ⊢
    exact hf
  obtain ⟨found, hfound⟩ := Option.isSome_iff_exists.1 hg
  exact ⟨found, hfound, importsSame_of_snippet? h hfound⟩

/-- The control of a field with nothing but a name. -/
def sample? (handler : Handler) : Option Snippet :=
  handler.snippet? (.named "") ⟨"", "", [], none, none⟩

/-- A control of each variant that there is from the first. -/
def samples : List Snippet := builtin.filterMap fun entry => entry.2.sample?

theorem exists_sample {variant : String} {handler : Handler} {f : Field} {binding : Binding}
    {snippet : Snippet} (hbuiltin : builtin.get? variant = some handler)
    (h : handler.snippet? f binding = some snippet) :
    ∃ sample ∈ samples, snippet.ImportsSame sample := by
  obtain ⟨sample, hsample, hsame⟩ := exists_importsSame h (.named "") ⟨"", "", [], none, none⟩
  refine ⟨sample, ?_, hsame⟩
  rw [samples, List.mem_filterMap]
  exact ⟨(variant, handler), Table.mem_of_get? hbuiltin, hsample⟩

end Handler

/-! ## Components -/

namespace Wiring

/-- The modules in front of those of the components. -/
def leadingSources (wiring : Wiring) : List String :=
  "react" :: "sonner" :: wiring.libraryImports.map ImportGroup.source ++ ["zod"]

/-- What every form imports. -/
def baseImports (wiring : Wiring) : List Import :=
  wiring.frameworkNames.map (⟨"react", ·⟩) ++ ⟨"sonner", "toast"⟩ ::
    wiring.libraryImports.flatMap ImportGroup.imports ++ ⟨"zod", "z"⟩ :: wiring.componentImports

end Wiring

namespace Library

theorem nodup_leadingSources (library : Library) : library.wiring.leadingSources.Nodup := by
  cases library <;> decide +kernel

theorem nodup_libraryImports (library : Library) :
    ∀ group ∈ library.wiring.libraryImports, group.names.Nodup ∧ group.names ≠ [] := by
  cases library <;> decide +kernel

theorem source_not_mem_leadingSources (library : Library) :
    (∀ item ∈ library.wiring.componentImports, item.source ∉ library.wiring.leadingSources) ∧
      ∀ sample ∈ Handler.samples, ∀ item ∈ sample.imports,
        item.source ∉ library.wiring.leadingSources := by
  cases library <;> decide +kernel

theorem haveOneSource (library : Library) : ImportGroup.HaveOneSource
    (library.wiring.baseImports ++ Handler.samples.flatMap Snippet.allImports) := by
  unfold ImportGroup.HaveOneSource
  cases library <;> decide +kernel

end Library

namespace Component

open ImportGroup

variable {wiring : Wiring} {snippets others : List Snippet} {item : Import}

/-- The names that are imported from the framework. -/
def frameworkOf (wiring : Wiring) (snippets : List Snippet) : List String :=
  Sorted.ofList (wiring.frameworkNames ++ snippets.flatMap Snippet.frameworkNames)

/-- The groups in front of those of the components. -/
def leadingGroups (wiring : Wiring) (framework : List String) : List ImportGroup :=
  (if framework.isEmpty then [] else [⟨"react", framework⟩]) ++ [⟨"sonner", ["toast"]⟩] ++
    wiring.libraryImports ++ [⟨"zod", ["z"]⟩]

/-- The imports of the components, in the order in which they come. -/
def componentImportsOf (wiring : Wiring) (snippets : List Snippet) : List Import :=
  wiring.componentImports ++ snippets.flatMap Snippet.imports

theorem importsOf_eq : importsOf wiring snippets =
    leadingGroups wiring (frameworkOf wiring snippets) ++
      ofImports (componentImportsOf wiring snippets) := rfl

theorem mem_map_import {source : String} {names : List String} :
    item ∈ names.map (⟨source, ·⟩) ↔ item.source = source ∧ item.name ∈ names := by
  obtain ⟨source', name⟩ := item
  simp [and_comm, eq_comm]

theorem mem_flatMap_allImports : (∃ snippet ∈ snippets, item ∈ snippet.allImports) ↔
    (item.source = "react" ∧ item.name ∈ snippets.flatMap Snippet.frameworkNames) ∨
      item ∈ snippets.flatMap Snippet.imports := by
  simp only [Snippet.allImports, List.mem_append, mem_map_import, List.mem_flatMap, and_or_left,
    exists_or, and_left_comm, exists_and_left]

theorem holds_leadingGroups (framework : List String) :
    Holds (leadingGroups wiring framework) item ↔
      (item.source = "react" ∧ item.name ∈ framework) ∨ item = ⟨"sonner", "toast"⟩ ∨
        item ∈ wiring.libraryImports.flatMap ImportGroup.imports ∨ item = ⟨"zod", "z"⟩ := by
  have hframework : Holds (if framework.isEmpty then [] else [⟨"react", framework⟩]) item ↔
      item.source = "react" ∧ item.name ∈ framework := by
    cases framework with
    | nil => simp [Holds]
    | cons => exact holds_singleton.trans mem_map_import
  rw [leadingGroups, holds_append, holds_append, holds_append, hframework, holds_singleton,
    holds_singleton, holds_iff_mem_imports, or_assoc, or_assoc]
  simp only [ImportGroup.imports, List.map_singleton, List.mem_singleton]

/-- **A form imports what every form does and what its controls do**, and nothing else. -/
theorem holds_importsOf : Holds (importsOf wiring snippets) item ↔
    item ∈ wiring.baseImports ∨ ∃ snippet ∈ snippets, item ∈ snippet.allImports := by
  rw [importsOf_eq, holds_append, holds_leadingGroups, holds_ofImports, mem_flatMap_allImports,
    frameworkOf, componentImportsOf, Sorted.mem_ofList]
  simp only [Wiring.baseImports, List.mem_append, List.mem_cons, mem_map_import, and_or_left]
  tauto

theorem sublist_leadingSources (framework : List String) :
    ((leadingGroups wiring framework).map ImportGroup.source).Sublist wiring.leadingSources := by
  unfold leadingGroups
  split
  · simp [Wiring.leadingSources]
  · simp [Wiring.leadingSources]

/-- Whether each control imports the same as another one does. -/
def AreCoveredBy (snippets others : List Snippet) : Prop :=
  ∀ snippet ∈ snippets, ∃ other ∈ others, snippet.ImportsSame other

theorem AreCoveredBy.exists_mem (h : AreCoveredBy snippets others)
    {P : List Import → List String → Prop}
    (hsome : ∃ snippet ∈ snippets, P snippet.imports snippet.frameworkNames) :
    ∃ other ∈ others, P other.imports other.frameworkNames := by
  obtain ⟨snippet, hsnippet, hP⟩ := hsome
  obtain ⟨other, hother, himports, hframework⟩ := h snippet hsnippet
  exact ⟨other, hother, himports ▸ hframework ▸ hP⟩

/-- **The statements depend on which imports there are**, not on how often or in which order they
come. -/
theorem importsOf_congr (hto : AreCoveredBy snippets others)
    (hback : AreCoveredBy others snippets) :
    importsOf wiring snippets = importsOf wiring others := by
  have hiff : ∀ P : List Import → List String → Prop,
      (∃ snippet ∈ snippets, P snippet.imports snippet.frameworkNames) ↔
        ∃ other ∈ others, P other.imports other.frameworkNames :=
    fun _ => ⟨hto.exists_mem, hback.exists_mem⟩
  have hnames : frameworkOf wiring snippets = frameworkOf wiring others := by
    refine (Sorted.isSorted_ofList _).eq_of_mem_iff (Sorted.isSorted_ofList _) fun name => ?_
    simp only [frameworkOf, Sorted.mem_ofList, List.mem_append, List.mem_flatMap,
      hiff fun _ names => name ∈ names]
  have hgroups : ofImports (componentImportsOf wiring snippets) =
      ofImports (componentImportsOf wiring others) := by
    refine (areSorted_ofImports _).eq_of_holds_iff (areSorted_ofImports _) fun item => ?_
    simp only [holds_ofImports, componentImportsOf, List.mem_append, List.mem_flatMap,
      hiff fun imports _ => item ∈ imports]
  rw [importsOf_eq, importsOf_eq, hnames, hgroups]

theorem AreCoveredBy.mem_allImports (library : Library) (h : AreCoveredBy snippets Handler.samples)
    (hitem : Holds (importsOf library.wiring snippets) item) :
    item ∈ library.wiring.baseImports ++ Handler.samples.flatMap Snippet.allImports := by
  refine List.mem_append.2 ((holds_importsOf.1 hitem).imp_right ?_)
  rintro ⟨snippet, hsnippet, hitem⟩
  obtain ⟨sample, hsample, himports, hframework⟩ := h snippet hsnippet
  refine List.mem_flatMap.2 ⟨sample, hsample, ?_⟩
  rwa [Snippet.allImports, himports, hframework] at hitem

theorem AreCoveredBy.source_not_mem (library : Library) (h : AreCoveredBy snippets Handler.samples)
    (hitem : item ∈ componentImportsOf library.wiring snippets) :
    item.source ∉ library.wiring.leadingSources := by
  obtain ⟨hbase, hsamples⟩ := library.source_not_mem_leadingSources
  rcases List.mem_append.1 hitem with hitem | hitem
  · exact hbase item hitem
  · obtain ⟨snippet, hsnippet, hitem⟩ := List.mem_flatMap.1 hitem
    obtain ⟨sample, hsample, himports, -⟩ := h snippet hsnippet
    exact hsamples sample hsample item (himports ▸ hitem)

theorem AreCoveredBy.nodup_sources (library : Library)
    (h : AreCoveredBy snippets Handler.samples) :
    ((importsOf library.wiring snippets).map ImportGroup.source).Nodup := by
  rw [importsOf_eq, List.map_append]
  refine List.nodup_append'.2 ⟨?_, (areSorted_ofImports _).nodup_sources, ?_⟩
  · exact library.nodup_leadingSources.sublist (sublist_leadingSources _)
  · intro source hleading hcomponent
    obtain ⟨group, hgroup, rfl⟩ := List.mem_map.1 hcomponent
    obtain ⟨name, hname⟩ :=
      List.exists_mem_of_ne_nil _ ((areSorted_ofImports _).names group hgroup).2
    have hitem : (⟨group.source, name⟩ : Import) ∈ componentImportsOf library.wiring snippets :=
      holds_ofImports.1 ⟨group, hgroup, rfl, hname⟩
    exact h.source_not_mem library hitem ((sublist_leadingSources _).subset hleading)

theorem names_of_mem_importsOf (library : Library) {group : ImportGroup}
    (hgroup : group ∈ importsOf library.wiring snippets) :
    group.names.Nodup ∧ group.names ≠ [] := by
  rw [importsOf_eq, leadingGroups] at hgroup
  simp only [List.mem_append, List.mem_singleton] at hgroup
  rcases hgroup with (((hgroup | rfl) | hgroup) | rfl) | hgroup
  · split at hgroup
    · cases hgroup
    · next hne =>
      obtain rfl := List.mem_singleton.1 hgroup
      exact ⟨(Sorted.isSorted_ofList _).nodup, fun h => hne (List.isEmpty_iff.2 h)⟩
  · exact ⟨List.nodup_singleton _, nofun⟩
  · exact library.nodup_libraryImports group hgroup
  · exact ⟨List.nodup_singleton _, nofun⟩
  · exact ((areSorted_ofImports _).names group hgroup).imp_left Sorted.IsSorted.nodup

/-- **Every module has one statement, and every name is imported once**, whatever the controls of a
form are. -/
theorem AreCoveredBy.importOnce (library : Library) (h : AreCoveredBy snippets Handler.samples) :
    ImportOnce (importsOf library.wiring snippets) where
  sources := h.nodup_sources library
  names := by
    refine nodup_names (h.nodup_sources library)
      (fun group hgroup => (names_of_mem_importsOf library hgroup).1) ?_
    intro first hfirst second hsecond
    exact library.haveOneSource first (h.mem_allImports library (holds_iff_mem_imports.2 hfirst))
      second (h.mem_allImports library (holds_iff_mem_imports.2 hsecond))
  ne_nil group hgroup := (names_of_mem_importsOf library hgroup).2

end Component

/-! ## Forms -/

namespace Form

variable {library : Library} {form : Form} {component : Component}

/-- What is imported into the source of a form. -/
structure ImportsOnce (library : Library) (form : Form) (component : Component) : Prop where
  once : ImportGroup.ImportOnce component.imports
  holds_iff : ∀ item, ImportGroup.Holds component.imports item ↔
    item ∈ library.wiring.baseImports ∨ ∃ f ∈ form.fields, ∃ snippet,
      f.snippet? Handler.builtin library.wiring = some snippet ∧ item ∈ snippet.allImports
  /-- Any other form imports the same if it has the same variants, up to those without code. -/
  same : ∀ (other : Form) (made : Component), other.component Handler.builtin library = .ok made →
    (∀ variant ∈ Handler.builtin.keys,
      variant ∈ form.fields.map Field.variant ↔ variant ∈ other.fields.map Field.variant) →
    made.imports = component.imports

/-- The code of the controls of a form. -/
def controls (library : Library) (form : Form) : List Snippet :=
  form.fields.filterMap (Field.snippet? Handler.builtin library.wiring)

theorem imports_of_component (h : form.component Handler.builtin library = .ok component) :
    component.imports = Component.importsOf library.wiring (form.controls library) := by
  obtain ⟨validator, -, heq⟩ := bind_eq_ok_iff.1 h
  cases heq
  rfl

theorem exists_handler_of_mem_controls {snippet : Snippet} (h : snippet ∈ form.controls library) :
    ∃ f ∈ form.fields, ∃ handler, Handler.builtin.get? f.variant = some handler ∧
      handler.snippet? f (library.wiring.binding f) = some snippet := by
  obtain ⟨f, hf, hsnippet⟩ := List.mem_filterMap.1 h
  obtain ⟨handler, hhandler, hcode⟩ := Option.bind_eq_some_iff.1 hsnippet
  exact ⟨f, hf, handler, hhandler, hcode⟩

theorem areCovered_controls : Component.AreCoveredBy (form.controls library) Handler.samples := by
  intro snippet hsnippet
  obtain ⟨f, -, handler, hhandler, hcode⟩ := exists_handler_of_mem_controls hsnippet
  exact Handler.exists_sample hhandler hcode

/-- What the controls of a form import, those of any form with the same variants do. -/
theorem areCovered_of_variants {other : Form}
    (h : ∀ variant ∈ Handler.builtin.keys,
      variant ∈ form.fields.map Field.variant → variant ∈ other.fields.map Field.variant) :
    Component.AreCoveredBy (form.controls library) (other.controls library) := by
  intro snippet hsnippet
  obtain ⟨f, hf, handler, hhandler, hcode⟩ := exists_handler_of_mem_controls hsnippet
  have hkey : f.variant ∈ Handler.builtin.keys :=
    List.mem_map_of_mem (f := Prod.fst) (Table.mem_of_get? hhandler)
  obtain ⟨g, hg, hvariant⟩ := List.mem_map.1 (h f.variant hkey (List.mem_map_of_mem hf))
  obtain ⟨found, hfound, hsame⟩ :=
    Handler.exists_importsSame hcode g (library.wiring.binding g)
  refine ⟨found, List.mem_filterMap.2 ⟨g, hg, ?_⟩, hsame⟩
  rw [Field.snippet?, hvariant, hhandler]
  exact hfound

theorem importsOnce_of_component (h : form.component Handler.builtin library = .ok component) :
    form.ImportsOnce library component where
  once := by
    rw [imports_of_component h]
    exact areCovered_controls.importOnce library
  holds_iff item := by
    rw [imports_of_component h, Component.holds_importsOf]
    refine or_congr_right ⟨?_, ?_⟩
    · rintro ⟨snippet, hsnippet, hitem⟩
      obtain ⟨f, hf, hcode⟩ := List.mem_filterMap.1 hsnippet
      exact ⟨f, hf, snippet, hcode, hitem⟩
    · rintro ⟨f, hf, snippet, hcode, hitem⟩
      exact ⟨snippet, List.mem_filterMap.2 ⟨f, hf, hcode⟩, hitem⟩
  same other made hmade hsame := by
    rw [imports_of_component h, imports_of_component hmade]
    refine Component.importsOf_congr (areCovered_of_variants fun variant hkey => ?_)
      (areCovered_of_variants fun variant hkey => ?_)
    · exact (hsame variant hkey).2
    · exact (hsame variant hkey).1

end Form

end FormStudio
