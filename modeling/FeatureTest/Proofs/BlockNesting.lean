import FeatureTest.Proofs.Gate
import FeatureTest.Proofs.RenderedMeaning
import FeatureTest.Proofs.TreeTests

/-!
The lines of a feature's block nest as conditional blocks do. What is written as one line is one
line of the text as long as no name and no expression holds a line end.
-/
namespace FeatureTest
open Success

namespace Preprocessor

def Directive.isIf : Directive → Bool
  | .ifTest _ => true
  | _ => false

def Directive.isEndif : Directive → Bool
  | .endif => true
  | _ => false

/-- The blocks that are open after a line, the innermost first, each with whether its `#else` has
come. A line fails when there is no block it can belong to. -/
def nest : List Bool → Directive → Option (List Bool)
  | blocks, .ifTest _ => some (false :: blocks)
  | false :: outer, .elifTest _ => some (false :: outer)
  | false :: outer, .elseGroup => some (true :: outer)
  | _ :: outer, .endif => some outer
  | blocks, .error => some blocks
  | blocks, .text => some blocks
  | _, _ => none

/-- Every line belongs to an open block, and every block is closed. -/
def WellNested (directives : List Directive) : Prop := directives.foldlM nest [] = some []

instance (directives : List Directive) : Decidable (WellNested directives) :=
  inferInstanceAs (Decidable (_ = _))

/-- Only an `#if` opens a block, and only an `#endif` closes one. -/
theorem nest_length {blocks next : List Bool} {directive : Directive}
    (h : nest blocks directive = some next) :
    next.length + [directive].countP (·.isEndif) = blocks.length + [directive].countP (·.isIf) := by
  unfold nest at h
  split at h <;> cases h <;> simp [Directive.isIf, Directive.isEndif]

theorem nested_length {directives : List Directive} {blocks next : List Bool}
    (h : directives.foldlM nest blocks = some next) :
    next.length + directives.countP (·.isEndif) = blocks.length + directives.countP (·.isIf) := by
  induction directives generalizing blocks with
  | nil =>
    cases h
    rfl
  | cons directive rest ih =>
    rw [List.foldlM_cons, Option.bind_eq_bind, Option.bind_eq_some_iff] at h
    obtain ⟨between, hstep, hrest⟩ := h
    have hfirst := nest_length hstep
    have hlater := ih hrest
    rw [List.countP_cons, List.countP_cons]
    simp only [List.countP_singleton] at hfirst
    omega

theorem WellNested.balanced {directives : List Directive} (h : WellNested directives) :
    directives.countP (·.isIf) = directives.countP (·.isEndif) := by
  simpa using (nested_length h).symm

theorem hash_of_directive {line : List Char} {directive : Directive}
    (h : Directive.ofLine? line = some directive) (ht : directive ≠ .text) :
    line.head? = some '#' := by
  unfold Directive.ofLine? at h
  split at h
  · rfl
  · cases h
    exact absurd rfl ht

end Preprocessor

open Preprocessor

mutual

/-- The number of checks. -/
def DecisionTree.leafCount : DecisionTree → Nat
  | .value _ | .absent => 1
  | .branch _ body rest => body.leafCount + rest.leafCount

def Alternatives.leafCount : Alternatives → Nat
  | .otherwise body => body.leafCount
  | .arm _ body rest => body.leafCount + rest.leafCount

end

/-- Lines that are all directives, and of which each that goes on with a block or closes it belongs
to one that is open. -/
structure NestedBlocks (lines : List String) (blocks : Nat) : Prop where
  marked : ∀ line ∈ lines, line.toList.head? = some '#'
  nested : ∃ directives, readLines lines = some directives ∧ .text ∉ directives ∧
    WellNested directives ∧ directives.countP (·.isIf) = blocks ∧
    directives.countP (·.isEndif) = blocks

theorem marked_of_read {lines : List String} {directives : List Directive}
    (hread : readLines lines = some directives) (ht : .text ∉ directives) :
    ∀ line ∈ lines, line.toList.head? = some '#' := by
  induction lines generalizing directives with
  | nil => simp
  | cons line rest ih =>
    unfold readLines at hread ih
    simp only [List.mapM_cons, Option.bind_eq_bind, Option.bind_eq_some_iff, Option.pure_def,
      Option.some.injEq] at hread
    obtain ⟨directive, hline, later, hrest, rfl⟩ := hread
    rw [List.mem_cons, not_or] at ht
    exact List.forall_mem_cons.mpr ⟨hash_of_directive hline (Ne.symm ht.1), ih hrest ht.2⟩

theorem NestedBlocks.of_read {lines : List String} {directives : List Directive}
    (hread : readLines lines = some directives) (ht : .text ∉ directives)
    (hn : WellNested directives) : NestedBlocks lines (directives.countP (·.isIf)) :=
  ⟨marked_of_read hread ht, directives, hread, ht, hn, rfl, hn.balanced.symm⟩

section Trees

variable (kind : Kind) (name : String)

mutual

/-- A tree leaves the blocks it stands in as they were. -/
theorem tree_nests : ∀ (tree : DecisionTree) (blocks : List Bool),
    (tree.directives kind name).foldlM nest blocks = some blocks
  | .value _, _ | .absent, _ => rfl
  | .branch _ body rest, blocks => by
    have hbody := tree_nests body (false :: blocks)
    have hrest := rest_nests rest blocks
    simp only [DecisionTree.directives, List.foldlM_cons, List.foldlM_append, nest,
      Option.bind_eq_bind, Option.bind_some, hbody, hrest]

/-- The rest of a block closes it, and leaves those around it as they were. -/
theorem rest_nests : ∀ (rest : Alternatives) (outer : List Bool),
    (rest.directives kind name).foldlM nest (false :: outer) = some outer
  | .otherwise body, outer => by
    have hbody := tree_nests body (true :: outer)
    simp only [Alternatives.directives, List.foldlM_cons, List.foldlM_append, List.foldlM_nil, nest,
      Option.bind_eq_bind, Option.bind_some, hbody]
    rfl
  | .arm _ body rest, outer => by
    have hbody := tree_nests body (false :: outer)
    have hrest := rest_nests rest outer
    simp only [Alternatives.directives, List.foldlM_cons, List.foldlM_append, nest,
      Option.bind_eq_bind, Option.bind_some, hbody, hrest]

end

mutual

theorem tree_ifs : ∀ tree : DecisionTree,
    (tree.directives kind name).countP (·.isIf) = tree.blockCount + tree.leafCount
  | .value _ | .absent => rfl
  | .branch _ body rest => by
    have hbody := tree_ifs body
    have hrest := rest_ifs rest
    rw [DecisionTree.directives, List.countP_cons_of_pos rfl, List.countP_append, hbody, hrest,
      DecisionTree.blockCount, DecisionTree.leafCount]
    omega

theorem rest_ifs : ∀ rest : Alternatives,
    (rest.directives kind name).countP (·.isIf) = rest.blockCount + rest.leafCount
  | .otherwise body => by
    rw [Alternatives.directives, List.countP_cons_of_neg (by decide), List.countP_append,
      tree_ifs body]
    rfl
  | .arm _ body rest => by
    have hbody := tree_ifs body
    have hrest := rest_ifs rest
    rw [Alternatives.directives, List.countP_cons_of_neg (by simp [Directive.isIf]),
      List.countP_append, hbody, hrest, Alternatives.blockCount, Alternatives.leafCount]
    omega

end

mutual

theorem tree_all_directives : ∀ tree : DecisionTree, .text ∉ tree.directives kind name
  | .value _ | .absent => by simp [DecisionTree.directives, checkDirectives]
  | .branch _ body rest => by
    simp [DecisionTree.directives, tree_all_directives body, rest_all_directives rest]

theorem rest_all_directives : ∀ rest : Alternatives, .text ∉ rest.directives kind name
  | .otherwise body => by simp [Alternatives.directives, tree_all_directives body]
  | .arm _ body rest => by
    simp [Alternatives.directives, tree_all_directives body, rest_all_directives rest]

end

theorem tree_nested_blocks (tree : DecisionTree) :
    NestedBlocks (tree.lines kind name 0) (tree.blockCount + tree.leafCount) := by
  rw [← tree_ifs kind name tree]
  exact .of_read (read_tree_lines kind name tree 0) (tree_all_directives kind name tree)
    (tree_nests kind name tree [])

end Trees

section Unbroken

variable {fact : Fact} {ladder : Ladder}

theorem unbroken_identifier (s : Switch) : Unbroken s.identifier := by
  have h := TestText.presence_macro_of_switch s
  simp only [TestText.isPresenceMacro, Bool.and_eq_true, List.all_eq_true] at h
  intro hm
  exact absurd (h.2 _ hm) (by decide)

/-- A test is written in one line, other than that an expression may bring its own line ends. -/
theorem unbroken_conjunct {c : Conjunct} (h : ∀ text, c = .expression text → Unbroken text) :
    Unbroken c.text := by
  have hjoined : ∀ (sign : String) (write : Switch → String) (switches : List Switch),
      Unbroken sign → (∀ s, Unbroken (write s)) →
      Unbroken (sign.intercalate (switches.map write)) := by
    intro sign write switches hs hw
    apply unbroken_intercalate hs
    intro part hp
    obtain ⟨s, -, rfl⟩ := List.mem_map.mp hp
    exact hw s
  cases c with
  | past watermark =>
    exact unbroken_append.mpr ⟨by decide, unbroken_number watermark⟩
  | allPassed switches => exact hjoined _ _ _ (by decide) unbroken_identifier
  | nonePassed switches =>
    exact hjoined _ _ _ (by decide) fun s => unbroken_append.mpr ⟨by decide, unbroken_identifier s⟩
  | anyPassed switches =>
    have hj := hjoined " || " (·.identifier) switches (by decide) unbroken_identifier
    exact unbroken_append.mpr ⟨unbroken_append.mpr ⟨by decide, hj⟩, by decide⟩
  | nonPedantic => decide
  | expression text => exact h text rfl

/-- The only expression that a fact asks is the one it depends on. -/
theorem expression_of_tests {text : String} (h : .expression text ∈ fact.tests ladder) :
    ∃ e ∈ fact.depends, text = "(" ++ e ++ ")" := by
  have hsince : .expression text ∉ fact.sinceGuard ladder := by
    unfold Fact.sinceGuard
    cases (fact.since.bind ladder.rung?).bind ladder.previousWatermark <;> simp
  have htoggle : .expression text ∉
      fact.toggleGuard.toList.flatMap fun t => [t.enabled, t.disabled] := by
    unfold Fact.toggleGuard
    split <;> simp
  simp only [Fact.tests, Fact.guard, List.mem_append, hsince, htoggle, false_or, or_false] at h
  unfold Fact.switchTests at h
  cases hd : fact.depends with
  | none =>
    cases fact.enabledBy <;> cases fact.disabledBy <;> cases fact.strictSensitive <;>
      simp [hd] at h
  | some e =>
    refine ⟨e, rfl, ?_⟩
    cases fact.enabledBy <;> cases fact.disabledBy <;> cases fact.strictSensitive <;>
      simpa [hd] using h

end Unbroken

namespace Feature

variable {feature : Feature} {i : Implementation} {ladder : Ladder}

/-- The block is a blank line, the comment with the name, and then nothing but nested blocks, one
for each branch of the feature's tree and one for each of its checks. -/
def NestedBlock (feature : Feature) (i : Implementation) (ladder : Ladder) : Prop :=
  ∃ tree text lines, feature.decisionTree i ladder = .ok tree ∧
    feature.block i ladder = .ok text ∧
    textLines text = "" :: ("// " ++ feature.name) :: (lines ++ [""]) ∧
    NestedBlocks lines (tree.blockCount + tree.leafCount)

/-- What a feature's tree asks is written within its lines. -/
theorem unbroken_tests {tree : DecisionTree}
    (ha : AcceptedFacts (feature.supportFor i).facts ladder)
    (ht : feature.decisionTree i ladder = .ok tree)
    (hd : ∀ fact ∈ (feature.supportFor i).facts, ∀ e ∈ fact.depends, Unbroken e) :
    ∀ condition ∈ tree.conditions, Unbroken condition.text := by
  intro condition hm
  apply unbroken_condition
  intro c hc
  obtain ⟨fact, hf, htests⟩ := ha.tree_tests ht condition hm c hc
  apply unbroken_conjunct
  rintro text rfl
  obtain ⟨e, he, rfl⟩ := expression_of_tests htests
  exact unbroken_append.mpr ⟨unbroken_append.mpr ⟨by decide, hd fact hf e he⟩, by decide⟩

/-- The block of an ingested feature is well-formed when neither its name nor an expression that its
facts depend on goes over a line end. -/
theorem ingested_block_nests {r : FeatureRecord} {kind : Kind}
    (h : ofRecord r kind ladder = .ok feature) (i : Implementation)
    (hname : Unbroken feature.name)
    (hdepends : ∀ fact ∈ (feature.supportFor i).facts, ∀ e ∈ fact.depends, Unbroken e) :
    feature.NestedBlock i ladder := by
  have haccepted := (admitted_of_record h).support i
  obtain ⟨tree, htree, -⟩ := haccepted.tree_decides
  have htests := unbroken_tests haccepted htree hdepends
  have hcomment : Unbroken ("// " ++ feature.name) := unbroken_append.mpr ⟨by decide, hname⟩
  have hlines : ∀ line ∈ "" :: ("// " ++ feature.name) :: tree.lines feature.kind feature.name 0,
      Unbroken line :=
    List.forall_mem_cons.mpr ⟨by decide, List.forall_mem_cons.mpr
      ⟨hcomment, unbroken_tree_lines hname tree 0 htests⟩⟩
  exact ⟨tree, _, _, htree, block_lines htree, text_lines_joined hlines,
    tree_nested_blocks feature.kind feature.name tree⟩

end Feature

/-- A toggled value that depends on two identifiers, above one that has no condition. -/
def modulesRecord : FeatureRecord where
  name := "__cpp_modules"
  support := fun _ => some [
    { value := some 201810 },
    { value := some 201907
      since := some "C++20"
      option := some "-fmodules -fmodules-ts"
      depends := some "__cpp_concepts || __cpp_exceptions" }]

theorem modules_block_nests :
    ∃ feature, Feature.ofRecord modulesRecord .language .cpp = .ok feature ∧
      Unbroken feature.name ∧
      (∀ fact ∈ (feature.supportFor .gcc).facts, ∀ e ∈ fact.depends, Unbroken e) ∧
      feature.NestedBlock .gcc .cpp := by
  obtain ⟨feature, h, hname, hfacts⟩ : ∃ feature,
      Feature.ofRecord modulesRecord .language .cpp = .ok feature ∧
        Unbroken feature.name ∧
        ∀ fact ∈ (feature.supportFor .gcc).facts, ∀ e ∈ fact.depends, Unbroken e :=
    ⟨_, rfl, by decide, by decide⟩
  exact ⟨feature, h, hname, hfacts, Feature.ingested_block_nests h .gcc hname hfacts⟩

/-- The same expression over two lines. -/
def brokenRecord : FeatureRecord where
  name := "__cpp_modules"
  support := fun
    | .gcc => some [
      { value := some 201907, depends := some "__cpp_concepts ||\n__cpp_exceptions" }]
    | _ => none

/-- The lines of its block. -/
def brokenLines : List String := [
  "", "// __cpp_modules",
  "#if (__cpp_concepts ||",
  "__cpp_exceptions)",
  "# if __cpp_modules != 201907",
  "#  error __cpp_modules is not equal to 201907",
  "# endif",
  "#else",
  "# if defined(__cpp_modules)",
  "#  error __cpp_modules is defined",
  "# endif",
  "#endif"]

/-- The second line of an expression is written as a line of its own, which is no directive. -/
theorem broken_expression_leaves_directive :
    ¬ ∀ (r : FeatureRecord) (kind : Kind) (ladder : Ladder) (feature : Feature),
      Feature.ofRecord r kind ladder = .ok feature → ∀ i, feature.NestedBlock i ladder := by
  intro h
  obtain ⟨feature, hf, hname, hkind, htree⟩ : ∃ feature,
      Feature.ofRecord brokenRecord .language .cpp = .ok feature ∧
        feature.name = "__cpp_modules" ∧ feature.kind = .language ∧
        feature.decisionTree .gcc .cpp = .ok
          (.branch ⟨[.expression "(__cpp_concepts ||\n__cpp_exceptions)"]⟩ (.value 201907)
            (.otherwise .absent)) := ⟨_, rfl, rfl, rfl, rfl⟩
  obtain ⟨_, text, lines, -, htext, hlines, hblocks⟩ :=
    h brokenRecord .language .cpp feature hf .gcc
  rw [Feature.block_lines htree, hname, hkind] at htext
  have hbroken : text = String.join (brokenLines.map (· ++ "\n")) := by
    rw [← Except.ok.inj htext]
    decide +kernel
  have hwritten : "__cpp_exceptions)" ∈ textLines text := by
    rw [hbroken, text_lines_joined (by decide)]
    decide
  rw [hlines, hname] at hwritten
  have hline : "__cpp_exceptions)" ∈ lines := by simpa using hwritten
  exact absurd (hblocks.marked _ hline) (by decide)

end FeatureTest
