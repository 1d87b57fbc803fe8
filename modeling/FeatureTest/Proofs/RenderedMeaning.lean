import FeatureTest.Proofs.Preprocessor
import FeatureTest.Proofs.RenderedLines

/-!
A preprocessor that runs over the text of a tree reads the one check that the tree evaluates to.
-/
namespace FeatureTest
open Preprocessor

section Directives

variable (kind : Kind) (name : String)

def checkDirectives (expected : Option Nat) : List Directive :=
  [.ifTest (checkTest kind name expected), .error, .endif]

mutual

/-- The tree's lines, as a preprocessor reads them. -/
def DecisionTree.directives : DecisionTree → List Directive
  | .value expected => checkDirectives kind name (some expected)
  | .absent => checkDirectives kind name none
  | .branch condition body rest => .ifTest condition.text :: (body.directives ++ rest.directives)

def Alternatives.directives : Alternatives → List Directive
  | .otherwise body => .elseGroup :: (body.directives ++ [.endif])
  | .arm condition body rest =>
    .elifTest condition.text :: (body.directives ++ rest.directives)

end

theorem of_directive_line (depth : Nat) {body : String} (hb : body.toList.head? ≠ some ' ') :
    Directive.ofLine? (directiveLine depth body).toList = Directive.ofBody? body.toList := by
  have hline : (directiveLine depth body).toList =
      '#' :: (List.replicate depth ' ' ++ body.toList) := by
    simp [directiveLine]
  have hspaces : (List.replicate depth ' ' ++ body.toList).dropWhile (· == ' ') = body.toList := by
    rw [List.dropWhile_append_of_pos (by simp)]
    cases hl : body.toList with
    | nil => rfl
    | cons c rest => simp_all
  rw [hline, Directive.ofLine?, hspaces]

theorem of_if_line (depth : Nat) (test : String) :
    Directive.ofLine? (directiveLine depth ("if " ++ test)).toList = some (.ifTest test) := by
  rw [of_directive_line depth (by simp)]
  simp [Directive.ofBody?]

theorem of_elif_line (depth : Nat) (test : String) :
    Directive.ofLine? (directiveLine depth ("elif " ++ test)).toList = some (.elifTest test) := by
  rw [of_directive_line depth (by simp)]
  simp [Directive.ofBody?]

theorem of_error_line (depth : Nat) (message : String) :
    Directive.ofLine? (directiveLine depth ("error " ++ message)).toList = some .error := by
  rw [of_directive_line depth (by simp)]
  simp [Directive.ofBody?]

theorem of_else_line (depth : Nat) :
    Directive.ofLine? (directiveLine depth "else").toList = some .elseGroup := by
  rw [of_directive_line depth (by simp)]
  rfl

theorem of_endif_line (depth : Nat) :
    Directive.ofLine? (directiveLine depth "endif").toList = some .endif := by
  rw [of_directive_line depth (by simp)]
  rfl

def readLines (lines : List String) : Option (List Directive) :=
  lines.mapM fun line => Directive.ofLine? line.toList

theorem read_lines_append {first second : List String} {a b : List Directive}
    (ha : readLines first = some a) (hb : readLines second = some b) :
    readLines (first ++ second) = some (a ++ b) := by
  unfold readLines at ha hb ⊢
  simp [List.mapM_append, ha, hb]

theorem read_lines_cons {line : String} {rest : List String} {a : Directive} {b : List Directive}
    (ha : Directive.ofLine? line.toList = some a) (hb : readLines rest = some b) :
    readLines (line :: rest) = some (a :: b) := by
  unfold readLines at hb ⊢
  simp [List.mapM_cons, ha, hb]

theorem read_check_lines (depth : Nat) (expected : Option Nat) :
    readLines (checkLines kind name depth expected) = some (checkDirectives kind name expected) :=
  read_lines_cons (of_if_line depth _) <| read_lines_cons (of_error_line (depth + 1) _) <|
    read_lines_cons (of_endif_line depth) rfl

mutual

theorem read_tree_lines : ∀ (tree : DecisionTree) (depth : Nat),
    readLines (tree.lines kind name depth) = some (tree.directives kind name)
  | .value expected, depth => read_check_lines kind name depth (some expected)
  | .absent, depth => read_check_lines kind name depth none
  | .branch condition body rest, depth => by
    have hbody := read_tree_lines body (depth + 1)
    have hrest := read_rest_lines rest depth
    exact read_lines_cons (of_if_line depth condition.text) (read_lines_append hbody hrest)

theorem read_rest_lines : ∀ (rest : Alternatives) (depth : Nat),
    readLines (rest.lines kind name depth) = some (rest.directives kind name)
  | .otherwise body, depth => by
    have hbody := read_tree_lines body (depth + 1)
    have hend : readLines [directiveLine depth "endif"] = some [.endif] :=
      read_lines_cons (of_endif_line depth) rfl
    exact read_lines_cons (of_else_line depth) (read_lines_append hbody hend)
  | .arm condition body rest, depth => by
    have hbody := read_tree_lines body (depth + 1)
    have hrest := read_rest_lines rest depth
    exact read_lines_cons (of_elif_line depth condition.text) (read_lines_append hbody hrest)

end

theorem preprocess_of_read {truth : String → Bool} {text : String} {directives : List Directive}
    (h : readLines (textLines text) = some directives) :
    preprocess truth text = run truth 0 [] directives := by
  have hread : (text.toList.splitOn '\n').mapM Directive.ofLine? = some directives := by
    simpa [readLines, textLines, List.mapM_map, Function.comp_def] using h
  unfold preprocess
  rw [hread]
  rfl

end Directives

section Skipping

variable {kind : Kind} {name : String} {truth : String → Bool}

theorem check_skipped {blocks : List Block} (hd : isLive blocks = false) (n : Nat)
    (expected : Option Nat) (later : List Directive) :
    run truth n blocks (checkDirectives kind name expected ++ later) =
      run truth (n + 3) blocks later := by
  have hopen : step truth blocks (.ifTest (checkTest kind name expected)) =
      some (⟨.spent, false⟩ :: blocks) := by
    simp [step, hd]
  have hinner : isLive (⟨.spent, false⟩ :: blocks) = false := rfl
  simp only [checkDirectives, List.cons_append, List.nil_append]
  rw [run_dead hd hopen, run_dead hinner rfl, run_dead hinner rfl]

mutual

/-- A tree that is not read is skipped to its end, whatever blocks it opens on the way. -/
theorem tree_skipped : ∀ (tree : DecisionTree) (blocks : List Block), isLive blocks = false →
    ∀ (n : Nat) (later : List Directive),
    run truth n blocks (tree.directives kind name ++ later) =
      run truth (n + tree.height) blocks later
  | .value expected, blocks, hd, n, later => check_skipped hd n (some expected) later
  | .absent, blocks, hd, n, later => check_skipped hd n none later
  | .branch condition body rest, blocks, hd, n, later => by
    have hopen : step truth blocks (.ifTest condition.text) = some (⟨.spent, false⟩ :: blocks) := by
      simp [step, hd]
    simp only [DecisionTree.directives, DecisionTree.height, List.cons_append, List.append_assoc]
    rw [run_dead hd hopen, tree_skipped body _ rfl, rest_skipped rest (by simp)]
    congr 1
    omega

/-- Once a group of a block was reached that is read, the rest of the block is skipped. -/
theorem rest_skipped : ∀ (rest : Alternatives) {phase : Phase}, phase ≠ .seeking →
    ∀ (outer : List Block) (n : Nat) (later : List Directive),
    run truth n (⟨phase, false⟩ :: outer) (rest.directives kind name ++ later) =
      run truth (n + rest.height) outer later
  | .otherwise body, phase, hp, outer, n, later => by
    simp only [Alternatives.directives, Alternatives.height, List.cons_append, List.append_assoc]
    rw [run_quiet rfl (else_of_passed hp outer), tree_skipped body _ rfl, List.nil_append,
      run_quiet rfl rfl]
    congr 1
    omega
  | .arm condition body rest, phase, hp, outer, n, later => by
    simp only [Alternatives.directives, Alternatives.height, List.cons_append, List.append_assoc]
    rw [run_quiet rfl (elif_of_passed hp outer condition.text), tree_skipped body _ rfl,
      rest_skipped rest (by simp)]
    congr 1
    omega

end

end Skipping

section Reading

def checkOutcome (fails : Option Nat → Bool) (line : Nat) (expected : Option Nat) : Outcome :=
  ⟨[line], if fails expected then [line + 1] else []⟩

variable (holds : Conjunct → Bool) (fails : Option Nat → Bool)

mutual

/-- What is met in a tree that is written from the given line on and read. -/
def DecisionTree.outcome (line : Nat) : DecisionTree → Outcome
  | .value expected => checkOutcome fails line (some expected)
  | .absent => checkOutcome fails line none
  | .branch condition body rest =>
    ⟨[line], []⟩ ++
      if condition.conjuncts.all holds then body.outcome (line + 1)
      else rest.outcome (line + 1 + body.height)

def Alternatives.outcome (line : Nat) : Alternatives → Outcome
  | .otherwise body => body.outcome (line + 1)
  | .arm condition body rest =>
    if condition.conjuncts.all holds then body.outcome (line + 1)
    else rest.outcome (line + 1 + body.height)

end

variable {holds fails} {kind : Kind} {name : String} {truth : String → Bool}

theorem check_read (hq : ∀ expected, truth (checkTest kind name expected) = fails expected)
    {blocks : List Block} (hl : isLive blocks = true) (n : Nat) (expected : Option Nat)
    (later : List Directive) :
    run truth n blocks (checkDirectives kind name expected ++ later) =
      (run truth (n + 3) blocks later).map (checkOutcome fails n expected ++ ·) := by
  simp only [checkDirectives, List.cons_append, List.nil_append]
  cases hf : fails expected with
  | true =>
    have hopen : step truth blocks (.ifTest (checkTest kind name expected)) =
        some (⟨.live, false⟩ :: blocks) := by
      simp [step, hl, hq, hf]
    have hinner : isLive (⟨.live, false⟩ :: blocks) = true := hl
    rw [run_live hl hopen, run_live hinner rfl, run_live hinner rfl, checkOutcome, hf]
    cases run truth (n + 3) blocks later <;> rfl
  | false =>
    have hopen : step truth blocks (.ifTest (checkTest kind name expected)) =
        some (⟨.seeking, false⟩ :: blocks) := by
      simp [step, hl, hq, hf]
    have hinner : isLive (⟨.seeking, false⟩ :: blocks) = false := rfl
    rw [run_live hl hopen, run_dead hinner rfl, run_dead hinner rfl, checkOutcome, hf]
    rfl

mutual

/-- A tree that is read is followed to the one check it selects. -/
theorem tree_read (hq : ∀ expected, truth (checkTest kind name expected) = fails expected) :
    ∀ (tree : DecisionTree), (∀ c ∈ tree.conditions, truth c.text = c.conjuncts.all holds) →
    ∀ (blocks : List Block), isLive blocks = true → ∀ (n : Nat) (later : List Directive),
    run truth n blocks (tree.directives kind name ++ later) =
      (run truth (n + tree.height) blocks later).map (tree.outcome holds fails n ++ ·)
  | .value expected, _, blocks, hl, n, later => check_read hq hl n (some expected) later
  | .absent, _, blocks, hl, n, later => check_read hq hl n none later
  | .branch condition body rest, hc, blocks, hl, n, later => by
    obtain ⟨hhead, hlater⟩ := List.forall_mem_cons.mp hc
    obtain ⟨hbody, hrest⟩ := List.forall_mem_append.mp hlater
    have hlines : n + 1 + body.height + rest.height = n + (1 + body.height + rest.height) := by
      omega
    simp only [DecisionTree.directives, DecisionTree.height, List.cons_append, List.append_assoc]
    cases ht : condition.conjuncts.all holds with
    | true =>
      have hopen : step truth blocks (.ifTest condition.text) =
          some (⟨.live, false⟩ :: blocks) := by
        simp [step, hl, hhead, ht]
      have hinner : isLive (⟨.live, false⟩ :: blocks) = true := hl
      rw [run_live hl hopen, tree_read hq body hbody _ hinner, rest_skipped rest (by simp), hlines,
        map_append_map, DecisionTree.outcome, ht]
      rfl
    | false =>
      have hopen : step truth blocks (.ifTest condition.text) =
          some (⟨.seeking, false⟩ :: blocks) := by
        simp [step, hl, hhead, ht]
      rw [run_live hl hopen, tree_skipped body _ rfl, rest_read hq rest hrest _ hl, hlines,
        map_append_map, DecisionTree.outcome, ht]
      rfl

/-- As long as no group of a block was read, its rest is followed to the check it selects. -/
theorem rest_read (hq : ∀ expected, truth (checkTest kind name expected) = fails expected) :
    ∀ (rest : Alternatives), (∀ c ∈ rest.conditions, truth c.text = c.conjuncts.all holds) →
    ∀ (outer : List Block), isLive outer = true → ∀ (n : Nat) (later : List Directive),
    run truth n (⟨.seeking, false⟩ :: outer) (rest.directives kind name ++ later) =
      (run truth (n + rest.height) outer later).map (rest.outcome holds fails n ++ ·)
  | .otherwise body, hc, outer, hl, n, later => by
    have helse : step truth (⟨.seeking, false⟩ :: outer) .elseGroup =
        some (⟨.live, true⟩ :: outer) := rfl
    have hinner : isLive (⟨.live, true⟩ :: outer) = true := hl
    have hlines : n + 1 + body.height + 1 = n + (1 + body.height + 1) := by omega
    simp only [Alternatives.directives, Alternatives.height, List.cons_append, List.append_assoc]
    rw [run_quiet rfl helse, tree_read hq body hc _ hinner, List.nil_append, run_quiet rfl rfl,
      hlines, Alternatives.outcome]
  | .arm condition body rest, hc, outer, hl, n, later => by
    obtain ⟨hhead, hlater⟩ := List.forall_mem_cons.mp hc
    obtain ⟨hbody, hrest⟩ := List.forall_mem_append.mp hlater
    have hlines : n + 1 + body.height + rest.height = n + (1 + body.height + rest.height) := by
      omega
    simp only [Alternatives.directives, Alternatives.height, List.cons_append, List.append_assoc]
    cases ht : condition.conjuncts.all holds with
    | true =>
      have helif : step truth (⟨.seeking, false⟩ :: outer) (.elifTest condition.text) =
          some (⟨.live, false⟩ :: outer) := by
        simp [step, Block.next?, hhead, ht]
      have hinner : isLive (⟨.live, false⟩ :: outer) = true := hl
      rw [run_quiet rfl helif, tree_read hq body hbody _ hinner, rest_skipped rest (by simp),
        hlines, Alternatives.outcome, ht]
      rfl
    | false =>
      have helif : step truth (⟨.seeking, false⟩ :: outer) (.elifTest condition.text) =
          some (⟨.seeking, false⟩ :: outer) := by
        simp [step, Block.next?, hhead, ht]
      rw [run_quiet rfl helif, tree_skipped body _ rfl, rest_read hq rest hrest _ hl, hlines,
        Alternatives.outcome, ht]
      rfl

end

end Reading

section Outcomes

variable (holds : Conjunct → Bool) (fails : Option Nat → Bool)

mutual

theorem outcome_errors : ∀ (tree : DecisionTree) (n : Nat),
    (tree.outcome holds fails n).errors =
      if fails (tree.selected holds n).expected then [(tree.selected holds n).line + 1] else []
  | .value _, _ | .absent, _ => rfl
  | .branch condition body rest, n => by
    simp only [DecisionTree.outcome, DecisionTree.selected, append_errors, List.nil_append]
    split
    · exact outcome_errors body (n + 1)
    · exact rest_outcome_errors rest _

theorem rest_outcome_errors : ∀ (rest : Alternatives) (n : Nat),
    (rest.outcome holds fails n).errors =
      if fails (rest.selected holds n).expected then [(rest.selected holds n).line + 1] else []
  | .otherwise body, n => outcome_errors body (n + 1)
  | .arm condition body rest, n => by
    simp only [Alternatives.outcome, Alternatives.selected]
    split
    · exact outcome_errors body (n + 1)
    · exact rest_outcome_errors rest _

end

mutual

theorem tested_bounds : ∀ (tree : DecisionTree) (n : Nat),
    ∀ line ∈ (tree.outcome holds fails n).tested, n ≤ line ∧ line < n + tree.height
  | .value _, n, line, hm | .absent, n, line, hm => by
    rw [List.mem_singleton.mp hm]
    simp [DecisionTree.height]
  | .branch condition body rest, n, line, hm => by
    simp only [DecisionTree.outcome, append_tested, List.singleton_append] at hm
    simp only [DecisionTree.height]
    rcases List.mem_cons.mp hm with rfl | hm
    · omega
    · split at hm
      · have := tested_bounds body (n + 1) line hm
        omega
      · have := rest_tested_bounds rest _ line hm
        omega

theorem rest_tested_bounds : ∀ (rest : Alternatives) (n : Nat),
    ∀ line ∈ (rest.outcome holds fails n).tested, n ≤ line ∧ line < n + rest.height
  | .otherwise body, n, line, hm => by
    have := tested_bounds body (n + 1) line hm
    simp only [Alternatives.height]
    omega
  | .arm condition body rest, n, line, hm => by
    simp only [Alternatives.outcome] at hm
    simp only [Alternatives.height]
    split at hm
    · have := tested_bounds body (n + 1) line hm
      omega
    · have := rest_tested_bounds rest _ line hm
      omega

end

/-- The checks of which the first line was tested. -/
def testedChecks (checks : List Check) (tested : List Nat) : List Check :=
  checks.filter (·.line ∈ tested)

theorem tested_checks_append (first second : List Check) (tested : List Nat) :
    testedChecks (first ++ second) tested =
      testedChecks first tested ++ testedChecks second tested :=
  List.filter_append first second

theorem tested_checks_none {checks : List Check} {tested : List Nat}
    (h : ∀ check ∈ checks, ∀ line ∈ tested, check.line ≠ line) :
    testedChecks checks tested = [] := by
  apply List.filter_eq_nil_iff.mpr
  intro check hc hm
  exact h check hc _ (of_decide_eq_true hm) rfl

/-- The line that opens a block is no check's. -/
theorem tested_checks_cons {checks : List Check} {n : Nat} {tested : List Nat}
    (h : ∀ check ∈ checks, n < check.line) :
    testedChecks checks (n :: tested) = testedChecks checks tested := by
  apply List.filter_congr
  intro check hc
  have hne : check.line ≠ n := Nat.ne_of_gt (h check hc)
  simp [hne]

/-- While the body of a block is read, the checks in the rest of the block are not tested. -/
theorem rest_untested (body : DecisionTree) (rest : Alternatives) (n : Nat) :
    testedChecks (rest.checks (n + body.height)) (body.outcome holds fails n).tested = [] := by
  apply tested_checks_none
  intro check hc line hm
  have hcheck := (rest_check_line_bounds rest _ check hc).1
  have hline := (tested_bounds holds fails body n line hm).2
  omega

theorem body_untested (body : DecisionTree) (rest : Alternatives) (n : Nat) :
    testedChecks (body.checks n) (rest.outcome holds fails (n + body.height)).tested = [] := by
  apply tested_checks_none
  intro check hc line hm
  have hcheck := (check_line_bounds body n check hc).2
  have hline := (rest_tested_bounds holds fails rest _ line hm).1
  omega

mutual

/-- Of the checks in a tree that is read, the selected one is tested and no other. -/
theorem tested_checks : ∀ (tree : DecisionTree) (n : Nat),
    testedChecks (tree.checks n) (tree.outcome holds fails n).tested = [tree.selected holds n]
  | .value _, n | .absent, n => by
    simp [testedChecks, DecisionTree.checks, DecisionTree.outcome, checkOutcome,
      DecisionTree.selected]
  | .branch condition body rest, n => by
    have hopen : ∀ check ∈ body.checks (n + 1) ++ rest.checks (n + 1 + body.height),
        n < check.line := by
      intro check hc
      rcases List.mem_append.mp hc with hc | hc
      · exact (check_line_bounds body (n + 1) check hc).1
      · have := (rest_check_line_bounds rest _ check hc).1
        omega
    simp only [DecisionTree.checks, DecisionTree.outcome, DecisionTree.selected, append_tested,
      List.singleton_append]
    rw [tested_checks_cons hopen, tested_checks_append]
    split
    · rw [tested_checks body, rest_untested, List.append_nil]
    · rw [body_untested, rest_tested_checks rest, List.nil_append]

theorem rest_tested_checks : ∀ (rest : Alternatives) (n : Nat),
    testedChecks (rest.checks n) (rest.outcome holds fails n).tested = [rest.selected holds n]
  | .otherwise body, n => tested_checks body (n + 1)
  | .arm condition body rest, n => by
    simp only [Alternatives.checks, Alternatives.outcome, Alternatives.selected]
    rw [tested_checks_append]
    split
    · rw [tested_checks body, rest_untested, List.append_nil]
    · rw [body_untested, rest_tested_checks rest, List.nil_append]

end

end Outcomes

/-- Whether a check fails when the identifier has the given value or, without one, is undefined. -/
def checkFails (kind : Kind) (state : Option Nat) : Option Nat → Bool
  | some value => state.getD 0 != value
  | none =>
    match kind with
    | .attributes => state.getD 0 != 0
    | .language | .library => state.isSome

/-- The tests of a tree are decided as their conjuncts are, and the tests of its checks by what the
identifier is: undefined, or defined with a value. -/
structure Truthful (truth : String → Bool) (holds : Conjunct → Bool) (kind : Kind) (name : String)
    (state : Option Nat) (tree : DecisionTree) : Prop where
  conditions : ∀ c ∈ tree.conditions, truth c.text = c.conjuncts.all holds
  differs : ∀ value : Nat, truth s!"{kind.query name} != {value}" = (state.getD 0 != value)
  nonzero : kind = .attributes → truth (kind.query name) = (state.getD 0 != 0)
  defined : kind ≠ .attributes → truth s!"defined({name})" = state.isSome

theorem Truthful.checks {truth : String → Bool} {holds : Conjunct → Bool} {kind : Kind}
    {name : String} {state : Option Nat} {tree : DecisionTree}
    (h : Truthful truth holds kind name state tree) (expected : Option Nat) :
    truth (checkTest kind name expected) = checkFails kind state expected := by
  cases expected with
  | some value => exact h.differs value
  | none =>
    cases kind with
    | attributes => exact h.nonzero rfl
    | language => exact h.defined (by simp)
    | library => exact h.defined (by simp)

/-- The text of a tree means what the tree means. Every check of the tree stands in the text. Run
over it, a preprocessor tests exactly one of them, the one that the tree evaluates to, and meets
an error exactly when that check fails: its own and no other. -/
theorem rendered_text_means_tree {kind : Kind} {name : String} {tree : DecisionTree}
    {truth : String → Bool} {holds : Conjunct → Bool} {state : Option Nat}
    (hname : Unbroken name)
    (hconjuncts : ∀ c ∈ tree.conditions, ∀ conjunct ∈ c.conjuncts, Unbroken conjunct.text)
    (htruth : Truthful truth holds kind name state tree) :
    ∃ text outcome, tree.render kind name = .ok text ∧ preprocess truth text = some outcome ∧
      (∀ check ∈ tree.checks 0, check.StandsIn kind name (textLines text)) ∧
      testedChecks (tree.checks 0) outcome.tested = [tree.selected holds 0] ∧
      (tree.selected holds 0).expected = tree.evaluate holds ∧
      outcome.errors =
        if checkFails kind state (tree.evaluate holds) then [(tree.selected holds 0).line + 1]
        else [] := by
  have hlines : ∀ line ∈ tree.lines kind name 0, Unbroken line :=
    unbroken_tree_lines hname tree 0 fun c hc => unbroken_condition (hconjuncts c hc)
  have htext := text_lines_joined hlines
  have hread : readLines (tree.lines kind name 0 ++ [""]) =
      some (tree.directives kind name ++ [.text]) :=
    read_lines_append (read_tree_lines kind name tree 0) rfl
  have hrun : run truth 0 [] (tree.directives kind name ++ [.text]) =
      some (tree.outcome holds (checkFails kind state) 0) := by
    rw [tree_read htruth.checks tree htruth.conditions [] rfl]
    simp [run, step, Outcome.ofLine, none_append, append_none]
  have hexpected := selected_expected holds tree 0
  refine ⟨_, _, render_lines name kind tree, (preprocess_of_read ?_).trans hrun, ?_, ?_, hexpected,
    ?_⟩
  · rw [htext]
    exact hread
  · rw [htext]
    exact checks_stand kind name tree 0 0 _ ⟨[""], rfl⟩
  · exact tested_checks holds _ tree 0
  · rw [outcome_errors, hexpected]

/-- Blocks inside a block, of which the outer one's first arm holds and the inner one's second. -/
def nestedTree : DecisionTree :=
  .branch ⟨[.past 201703]⟩
    (.branch ⟨[.expression "(__cpp_exceptions)"]⟩ (.value 202002)
      (.arm ⟨[.nonPedantic]⟩ .absent (.otherwise (.value 201907))))
    (.otherwise .absent)

/-- A library that defines the macro, with exceptions turned off. -/
def definedAnyway (text : String) : Bool :=
  text ∉ ["(__cpp_exceptions)", "__cpp_lib_coroutine != " ++ toString 201907]

theorem defined_anyway_differs (value : Nat) :
    definedAnyway ("__cpp_lib_coroutine != " ++ toString value) = (201907 != value) := by
  have hother : "__cpp_lib_coroutine != " ++ toString value ≠ "(__cpp_exceptions)" := by
    intro h
    have hhead := congrArg (·.toList.head?) h
    simp at hhead
  have hvalue : "__cpp_lib_coroutine != " ++ toString value =
      "__cpp_lib_coroutine != " ++ toString 201907 ↔ value = 201907 := by
    rw [String.append_right_inj, ← String.toList_inj]
    refine ⟨?_, fun h => by rw [h]⟩
    intro h
    have hdigits : Nat.toDigits 10 value = Nat.toDigits 10 201907 := by simpa using h
    calc
      value = Nat.ofDigitChars 10 (Nat.toDigits 10 value) 0 := Nat.ofDigitChars_ten_toDigits.symm
      _ = Nat.ofDigitChars 10 (Nat.toDigits 10 201907) 0 := by rw [hdigits]
      _ = 201907 := Nat.ofDigitChars_ten_toDigits
  simp only [definedAnyway, List.mem_cons, hother, hvalue, List.not_mem_nil, false_or, or_false]
  rw [Bool.eq_iff_iff, decide_eq_true_iff, bne_iff_ne]
  exact ⟨Ne.symm, Ne.symm⟩

theorem nested_text_meets_one_error :
    Truthful definedAnyway (· != .expression "(__cpp_exceptions)") .library "__cpp_lib_coroutine"
        (some 201907) nestedTree ∧
      ∃ text outcome, nestedTree.render .library "__cpp_lib_coroutine" = .ok text ∧
        preprocess definedAnyway text = some outcome ∧
        testedChecks (nestedTree.checks 0) outcome.tested = [⟨6, none⟩] ∧
        outcome.errors = [7] := by
  have htruth : Truthful definedAnyway (· != .expression "(__cpp_exceptions)") .library
      "__cpp_lib_coroutine" (some 201907) nestedTree :=
    ⟨by decide, defined_anyway_differs, by simp, fun _ => by decide⟩
  obtain ⟨text, outcome, htext, hrun, -, htested, -, herrors⟩ :=
    rendered_text_means_tree (by decide) (by decide) htruth
  exact ⟨htruth, text, outcome, htext, hrun, htested, herrors⟩

end FeatureTest
