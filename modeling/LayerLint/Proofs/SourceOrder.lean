import LayerLint.Proofs.Analysis
import LayerLint.Proofs.IndexGrowth
import LayerLint.Proofs.RuleView
import Mathlib.Data.List.Nodup
import Mathlib.Data.List.Pairwise

/-!
# The order of the sources does not show

The index of classes is built by insertions in the order of the sources, and the reports are sorted
in the end.

* `lastNamed_flatMap_perm` — files that declare different classes may be read in any order: each
  class stays what the last of its declarations makes it, also where one file declares it twice;
* `answersAs_of_get?` — an index is known by its classes, whatever the order of its entries;
* `analyzeFiles_source_order` — the report for the same sources in another order.
-/

set_option autoImplicit false

namespace LayerLint

/-! ## Classes -/

namespace ClassIndex

/-- Two files declare no class of the same name. -/
def Apart (f g : SourceFile) : Prop :=
  ∀ c ∈ declarations f, ∀ d ∈ declarations g, classKey c.1 ≠ classKey d.1

instance (f g : SourceFile) : Decidable (Apart f g) :=
  inferInstanceAs (Decidable (∀ c ∈ declarations f, ∀ d ∈ declarations g, _))

theorem Apart.symm {f g : SourceFile} (h : Apart f g) : Apart g f :=
  fun d hd c hc => (h c hc d hd).symm

theorem lastNamed_append (first more : List (String × ClassInfo)) (name : String) :
    lastNamed (first ++ more) name = (lastNamed more name).or (lastNamed first name) := by
  unfold lastNamed
  rw [List.reverse_append, List.find?_append, Option.map_or]

theorem lastNamed_eq_none {classes : List (String × ClassInfo)} {name : String}
    (h : ∀ c ∈ classes, classKey c.1 ≠ classKey name) : lastNamed classes name = none := by
  rw [lastNamed, Option.map_eq_none_iff, List.find?_eq_none]
  intro c hc
  rw [beq_iff_eq]
  exact h c (List.mem_reverse.1 hc)

/-- Of two files that declare different classes, one says nothing about a name. -/
theorem Apart.lastNamed_or {f g : SourceFile} (h : Apart f g) (name : String) :
    lastNamed (declarations f) name = none ∨ lastNamed (declarations g) name = none := by
  by_cases hf : ∃ c ∈ declarations f, classKey c.1 = classKey name
  · obtain ⟨c, hc, hkey⟩ := hf
    exact .inr (lastNamed_eq_none fun d hd hsame => h c hc d hd (hkey.trans hsame.symm))
  · exact .inl (lastNamed_eq_none fun c hc hkey => hf ⟨c, hc, hkey⟩)

/-- **Files that declare different classes may be read in any order.** -/
theorem lastNamed_flatMap_perm {files others : List SourceFile} (hperm : files.Perm others)
    (hapart : files.Pairwise Apart) (name : String) :
    lastNamed (files.flatMap declarations) name = lastNamed (others.flatMap declarations) name := by
  induction hperm with
  | nil => rfl
  | cons file _ ih =>
    rw [List.flatMap_cons, List.flatMap_cons, lastNamed_append, lastNamed_append,
      ih (List.pairwise_cons.1 hapart).2]
  | swap f g rest =>
    have hfg : Apart g f := (List.pairwise_cons.1 hapart).1 f List.mem_cons_self
    simp only [List.flatMap_cons, lastNamed_append, Option.or_assoc]
    obtain hnone | hnone := hfg.lastNamed_or name <;> simp [hnone]
  | trans hfirst _ ih₁ ih₂ =>
    rw [ih₁ hapart, ih₂ (hapart.perm hfirst Apart.symm)]

/-- **An index is known by its classes.** -/
theorem answersAs_of_get? {index other : ClassIndex}
    (h : ∀ name, index.get? name = other.get? name) : index.AnswersAs other := by
  have hinto : index.Within other := fun name info hinfo => (h name).symm.trans hinfo
  have hback : other.Within index := fun name info hinfo => (h name).trans hinfo
  intro name method
  cases hanswer : index.ancestorDeclares name method with
  | some declared => exact (ancestorDeclares_within hinto hanswer).symm
  | none =>
    cases hother : other.ancestorDeclares name method with
    | none => rfl
    | some declared => exact nomatch hanswer.symm.trans (ancestorDeclares_within hback hother)

end ClassIndex

namespace Analysis

theorem textFiles_perm (fs : FileSystem) {sources others : List Path} (h : sources.Perm others) :
    (textFiles fs sources).Perm (textFiles fs others) :=
  h.filterMap _

/-- The classes that are known do not depend on the order of files with different classes. -/
theorem knownClasses_answersAs (config : Config) (classFiles : List SourceFile)
    {files others : List SourceFile} (hperm : files.Perm others)
    (hapart : files.Pairwise ClassIndex.Apart) :
    (knownClasses config classFiles files).AnswersAs (knownClasses config classFiles others) := by
  refine ClassIndex.answersAs_of_get? fun name => ?_
  rw [get?_knownClasses, get?_knownClasses, declared, declared,
    ClassIndex.lastNamed_append _ (files.flatMap _),
    ClassIndex.lastNamed_append _ (others.flatMap _),
    ClassIndex.lastNamed_flatMap_perm hperm hapart]

theorem reportAlone_congr (fs : FileSystem) (config : Config) {classes other : ClassIndex}
    (h : classes.AnswersAs other) : reportAlone fs config classes = reportAlone fs config other := by
  funext file
  have hrules : ∀ rule ∈ defaultRules.filter (fun rule => config.rules.isEnabled rule.id),
      rule.Insulated := fun rule hrule => insulated_of_mem rule (List.mem_filter.1 hrule).1
  have hcontext : (Context.ofFile file other config fs).among classes config =
      Context.ofFile file classes config fs := rfl
  have hsame := Engine.contributions_among hrules (HookMemo.empty.reply fs)
    (Context.ofFile file other config fs) config h
  rw [hcontext] at hsame
  unfold reportAlone Engine.ofConfig
  rw [Engine.run_visit, Engine.run_visit]
  exact congrArg (FileReport.mk file.path) hsame

section

variable {fs : FileSystem} {sources : List Path}

/-- Files of sources with different components are told apart by these. -/
theorem file_eq_of_components (hpaths : (sources.map Path.components).Nodup) {f g : SourceFile}
    (hf : f ∈ textFiles fs sources) (hg : g ∈ textFiles fs sources)
    (hsame : f.path.components = g.path.components) : f = g := by
  obtain ⟨p, hp, hread⟩ := mem_textFiles.1 hf
  obtain ⟨q, hq, hread'⟩ := mem_textFiles.1 hg
  rw [SourceFile.path_of_read hread, SourceFile.path_of_read hread'] at hsame
  have hpq : p = q := List.inj_on_of_nodup_map hpaths hp hq hsame
  rw [hpq, hread'] at hread
  cases hread
  rfl

theorem nodup_textFiles (hsources : sources.Nodup) : (textFiles fs sources).Nodup := by
  refine hsources.filterMap fun p q file hp hq => ?_
  -- a file knows its path
  have hpath : ∀ {path}, file ∈ textFiles fs [path] → file.path = path := by
    intro path hfile
    obtain ⟨p, hp, hread⟩ := mem_textFiles.1 hfile
    rw [SourceFile.path_of_read hread, List.mem_singleton.1 hp]
  have hfirst : file.path = p := hpath (List.mem_filterMap.2 ⟨p, List.mem_singleton_self p, hp⟩)
  have hsecond : file.path = q := hpath (List.mem_filterMap.2 ⟨q, List.mem_singleton_self q, hq⟩)
  exact hfirst.symm.trans hsecond

/-- Sources in another order, whose files declare different classes, give the same files. -/
theorem files_source_order (config : Config) (classSources : List Path) {others : List Path}
    (hperm : sources.Perm others) (hpaths : (sources.map Path.components).Nodup)
    (hapart : (textFiles fs sources).Pairwise ClassIndex.Apart) :
    (analyzeFiles fs config sources classSources).files =
      (analyzeFiles fs config others classSources).files := by
  have hreports := reportAlone_congr fs config
    (knownClasses_answersAs config (textFiles fs classSources) (textFiles_perm fs hperm) hapart)
  have hleft := files_perm fs config sources classSources
  have hright := files_perm fs config others classSources
  have hsame : (analyzeFiles fs config sources classSources).files.Perm
      (analyzeFiles fs config others classSources).files := by
    rw [hreports] at hleft
    exact (hleft.trans ((textFiles_perm fs hperm).map _)).trans hright.symm
  -- both are sorted, and a place in the order determines the report
  refine List.Perm.eq_of_pairwise (fun a b ha hb hab hba => ?_)
    (pairwise_files fs config sources classSources) (pairwise_files fs config others classSources)
    hsame
  obtain ⟨f, hf, rfl⟩ := List.mem_map.1 (hleft.subset ha)
  obtain ⟨g, hg, rfl⟩ := List.mem_map.1 (hleft.subset (hsame.symm.subset hb))
  rw [file_eq_of_components hpaths hf hg (Path.components_eq_of_le hab hba)]

end

/-- **The order of the sources does not show.**  If the paths differ in their components and no two
    of the files declare a class of the same name, then the same sources in another order give the
    same files with the same diagnostics in the same order, the same counts and the same exit code;
    the files that could not be read are the same up to their order. -/
theorem analyzeFiles_source_order (fs : FileSystem) (config : Config) (classSources : List Path)
    {sources others : List Path} (hperm : sources.Perm others)
    (hpaths : (sources.map Path.components).Nodup)
    (hclasses : ∀ f ∈ textFiles fs sources, ∀ g ∈ textFiles fs sources,
      f.path ≠ g.path → ClassIndex.Apart f g) :
    let report := analyzeFiles fs config sources classSources
    let report' := analyzeFiles fs config others classSources
    report.files = report'.files ∧
      report.checked = report'.checked ∧
      report.violationCount = report'.violationCount ∧
      report.faultCount = report'.faultCount ∧
      Check.exitCode report = Check.exitCode report' ∧
      report.skipped.Perm report'.skipped := by
  intro report report'
  have hapart : (textFiles fs sources).Pairwise ClassIndex.Apart := by
    refine (nodup_textFiles (hpaths.of_map _)).pairwise_of_forall_ne fun f hf g hg hne => ?_
    exact hclasses f hf g hg fun hpath =>
      hne (file_eq_of_components hpaths hf hg (congrArg Path.components hpath))
  have hfiles : report.files = report'.files :=
    files_source_order config classSources hperm hpaths hapart
  have hdiagnostics : report.diagnostics = report'.diagnostics := by
    rw [AnalysisReport.diagnostics, AnalysisReport.diagnostics, hfiles]
  have hviolations : report.violationCount = report'.violationCount := by
    rw [AnalysisReport.violationCount, AnalysisReport.violationCount, hdiagnostics]
  have hskipped : ∀ paths, (analyzeFiles fs config paths classSources).skipped = failures fs paths :=
    fun paths => congrArg AnalysisReport.skipped (analyzeFiles_eq fs config paths classSources)
  have hchecked : report.checked = report'.checked := by
    rw [checked_eq, checked_eq]
    exact congrArg List.length hfiles
  refine ⟨hfiles, hchecked, hviolations, ?_, ?_, ?_⟩
  · rw [AnalysisReport.faultCount, AnalysisReport.faultCount, hdiagnostics]
  · rw [Check.exitCode, Check.exitCode, AnalysisReport.hasViolations, AnalysisReport.hasViolations,
      hviolations]
  · change (analyzeFiles fs config sources classSources).skipped.Perm
      (analyzeFiles fs config others classSources).skipped
    rw [hskipped sources, hskipped others]
    exact hperm.filterMap _

/-- A controller before and after its parent, which its file declares twice, with a path between them
    that leads nowhere.  The last declaration of the parent decides either way. -/
theorem analyzeFiles_source_order_parent :
    let child := "<?php namespace N;"
      ++ "class A extends B\x7bfunction f()\x7b\x7dfunction g()\x7b\x7d\x7d"
    let parent := "<?php namespace N;class B\x7bfunction f()\x7b\x7d\x7d"
      ++ "class B\x7bfunction g()\x7b\x7d\x7d"
    let fs : FileSystem :=
      { root := .directory [("src", .directory [("backend", .directory [("Controllers", .directory
        [("A.php", .file (.text child)), ("B.php", .file (.text parent))])])])] }
    let path (name : String) : Path := ⟨"src/backend/Controllers/" ++ name⟩
    let sources := [path "A.php", path "C.php", path "B.php"]
    let others := [path "B.php", path "A.php", path "C.php"]
    sources.Perm others ∧
      (sources.map Path.components).Nodup ∧
      (∀ f ∈ textFiles fs sources, ∀ g ∈ textFiles fs sources,
        f.path ≠ g.path → ClassIndex.Apart f g) ∧
      (analyzeFiles fs {} sources []).files = (analyzeFiles fs {} others []).files ∧
      (analyzeFiles fs {} others []).diagnostics.map Diagnostic.message =
        [Convention.Controller.message "f" "N\\B"] := by
  intro child parent fs path sources others
  have hperm : sources.Perm others := by decide +kernel
  have hpaths : (sources.map Path.components).Nodup := by decide +kernel
  have hclasses : ∀ f ∈ textFiles fs sources, ∀ g ∈ textFiles fs sources,
      f.path ≠ g.path → ClassIndex.Apart f g := by decide +kernel
  have hmessages := ((files_perm fs {} others []).flatMap_right FileReport.diagnostics).map
    Diagnostic.message
  exact ⟨hperm, hpaths, hclasses,
    (analyzeFiles_source_order fs {} [] hperm hpaths hclasses).1,
    (hmessages.trans (.of_eq (by decide +kernel))).eq_singleton⟩

end Analysis

end LayerLint
