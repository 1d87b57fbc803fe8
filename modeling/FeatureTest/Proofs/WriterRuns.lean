import FeatureTest.Proofs.BlockNesting

/-!
A block writer after any calls, those that it refused among them. Its depth counts the blocks that
are open, every line it wrote is indented by the blocks around it, and the text is handed out when
the lines that open blocks and those that close them balance.
-/
namespace FeatureTest
open Preprocessor

section Levels

/-- The number of spaces behind the `#` of a line. -/
def indentation (line : String) : Nat := ((line.toList.drop 1).takeWhile (· == ' ')).length

/-- How far the open `#if` lines are indented after a line, the innermost first. An `#if` stands
at the number of blocks around it, what goes on with a block or closes it at the level of its
`#if`, and an error one further in. Any other line fails. -/
def levelsAfter? (levels : List Nat) (line : String) : Option (List Nat) :=
  match Directive.ofLine? line.toList, levels with
  | some (.ifTest _), outer =>
    if indentation line = outer.length then some (indentation line :: outer) else none
  | some (.elifTest _), own :: outer | some .elseGroup, own :: outer =>
    if indentation line = own then some (own :: outer) else none
  | some .error, own :: outer =>
    if indentation line = own + 1 then some (own :: outer) else none
  | some .endif, own :: outer => if indentation line = own then some outer else none
  | _, _ => none

def opensBlock (line : String) : Bool := (Directive.ofLine? line.toList).any (·.isIf)

def closesBlock (line : String) : Bool := (Directive.ofLine? line.toList).any (·.isEndif)

/-- The levels of that many nested blocks. -/
def nestedLevels (depth : Nat) : List Nat := (List.range depth).reverse

theorem nested_levels_succ (depth : Nat) :
    nestedLevels (depth + 1) = depth :: nestedLevels depth := by
  simp [nestedLevels, List.range_succ]

theorem nested_levels_length (depth : Nat) : (nestedLevels depth).length = depth := by
  simp [nestedLevels]

theorem indentation_directive_line (depth : Nat) (body : String)
    (hb : body.toList.head? ≠ some ' ') : indentation (directiveLine depth body) = depth := by
  have hline : (directiveLine depth body).toList =
      '#' :: (List.replicate depth ' ' ++ body.toList) := by
    simp [directiveLine]
  have hstop : body.toList.takeWhile (· == ' ') = [] := by
    cases hl : body.toList with
    | nil => rfl
    | cons c rest => simp_all
  rw [indentation, hline, List.drop_one, List.tail_cons,
    List.takeWhile_append_of_pos (by simp), hstop, List.append_nil, List.length_replicate]

theorem levels_after_if (depth : Nat) (test : String) :
    levelsAfter? (nestedLevels depth) (directiveLine depth ("if " ++ test)) =
      some (nestedLevels (depth + 1)) := by
  have hspaces := indentation_directive_line depth ("if " ++ test) (by simp)
  simp [levelsAfter?, of_if_line, hspaces, nested_levels_length, nested_levels_succ]

theorem levels_after_elif (depth : Nat) (test : String) :
    levelsAfter? (nestedLevels (depth + 1)) (directiveLine depth ("elif " ++ test)) =
      some (nestedLevels (depth + 1)) := by
  have hspaces := indentation_directive_line depth ("elif " ++ test) (by simp)
  simp [levelsAfter?, of_elif_line, hspaces, nested_levels_succ]

theorem levels_after_else (depth : Nat) :
    levelsAfter? (nestedLevels (depth + 1)) (directiveLine depth "else") =
      some (nestedLevels (depth + 1)) := by
  have hspaces := indentation_directive_line depth "else" (by simp)
  simp [levelsAfter?, of_else_line, hspaces, nested_levels_succ]

theorem levels_after_error (depth : Nat) (message : String) :
    levelsAfter? (nestedLevels (depth + 1)) (directiveLine (depth + 1) ("error " ++ message)) =
      some (nestedLevels (depth + 1)) := by
  have hspaces := indentation_directive_line (depth + 1) ("error " ++ message) (by simp)
  simp [levelsAfter?, of_error_line, hspaces, nested_levels_succ]

theorem levels_after_endif (depth : Nat) :
    levelsAfter? (nestedLevels (depth + 1)) (directiveLine depth "endif") =
      some (nestedLevels depth) := by
  have hspaces := indentation_directive_line depth "endif" (by simp)
  simp [levelsAfter?, of_endif_line, hspaces, nested_levels_succ]

/-- A check is a block of its own, which leaves those around it as they were. -/
theorem levels_after_check (kind : Kind) (name : String) (depth : Nat) (expected : Option Nat) :
    (checkLines kind name depth expected).foldlM levelsAfter? (nestedLevels depth) =
      some (nestedLevels depth) := by
  simp only [checkLines, List.foldlM_cons, List.foldlM_nil, levels_after_if, levels_after_error,
    levels_after_endif, Option.bind_eq_bind, Option.bind_some, Option.pure_def]

/-- Only an `#if` adds a level, and only an `#endif` takes one away. -/
theorem levels_after_length {levels next : List Nat} {line : String}
    (h : levelsAfter? levels line = some next) :
    next.length + [line].countP closesBlock = levels.length + [line].countP opensBlock := by
  unfold levelsAfter? at h
  rw [List.countP_singleton, List.countP_singleton, closesBlock, opensBlock]
  split at h
  case h_6 => cases h
  all_goals
    rename_i hread
    split at h
    · cases h
      simp [hread, Directive.isIf, Directive.isEndif]
    · cases h

theorem levels_length {lines : List String} {levels next : List Nat}
    (h : lines.foldlM levelsAfter? levels = some next) :
    next.length + lines.countP closesBlock = levels.length + lines.countP opensBlock := by
  induction lines generalizing levels with
  | nil =>
    cases h
    rfl
  | cons line rest ih =>
    rw [List.foldlM_cons, Option.bind_eq_bind, Option.bind_eq_some_iff] at h
    obtain ⟨between, hstep, hrest⟩ := h
    have hfirst := levels_after_length hstep
    have hlater := ih hrest
    rw [List.countP_cons, List.countP_cons]
    simp only [List.countP_singleton] at hfirst
    omega

end Levels

/-- Lines that are all indented by the blocks around them, with that many blocks left open. -/
structure Levelled (lines : List String) (depth : Nat) : Prop where
  levels : lines.foldlM levelsAfter? [] = some (nestedLevels depth)

namespace Levelled

variable {lines : List String} {depth : Nat}

theorem nil : Levelled [] 0 := ⟨rfl⟩

theorem append (h : Levelled lines depth) {more : List String} {next : Nat}
    (hmore : more.foldlM levelsAfter? (nestedLevels depth) = some (nestedLevels next)) :
    Levelled (lines ++ more) next := by
  constructor
  rw [List.foldlM_append, h.levels, Option.bind_eq_bind, Option.bind_some, hmore]

theorem depth_counts (h : Levelled lines depth) :
    depth + lines.countP closesBlock = lines.countP opensBlock := by
  have hl := levels_length h.levels
  rwa [nested_levels_length, List.length_nil, Nat.zero_add] at hl

/-- The text can be cut off anywhere without more blocks closed than opened. -/
theorem prefix_counts (h : Levelled lines depth) {earlier : List String}
    (hp : earlier <+: lines) : earlier.countP closesBlock ≤ earlier.countP opensBlock := by
  obtain ⟨later, rfl⟩ := hp
  have hl := h.levels
  rw [List.foldlM_append, Option.bind_eq_bind, Option.bind_eq_some_iff] at hl
  obtain ⟨between, hearlier, -⟩ := hl
  have := levels_length hearlier
  rw [List.length_nil] at this
  omega

end Levelled

namespace BlockWriter

/-- What a writer can be asked. -/
inductive Call where
  | startIf (condition : String)
  | startElif (condition : String)
  | startElse
  | endif
  | expectValue (name : String) (value : Nat)
  | expectAbsent (name : String)
  deriving DecidableEq

namespace Call

def apply (w : BlockWriter) : Call → Except GenerationError BlockWriter
  | .startIf condition => .ok (w.startIf condition)
  | .startElif condition => w.startElif condition
  | .startElse => w.startElse
  | .endif => w.endif
  | .expectValue name value => .ok (w.expectValue name value)
  | .expectAbsent name => .ok (w.expectAbsent name)

def isStart : Call → Bool
  | .startIf _ => true
  | _ => false

/-- Whether the call goes on with a block or closes it. -/
def needsBlock : Call → Bool
  | .startElif _ | .startElse | .endif => true
  | .startIf _ | .expectValue _ _ | .expectAbsent _ => false

/-- What the call brings along stays within one line. -/
def WithinLine : Call → Prop
  | .startIf text | .startElif text | .expectValue text _ | .expectAbsent text => Unbroken text
  | .startElse | .endif => True

instance : (c : Call) → Decidable c.WithinLine
  | .startIf text | .startElif text | .expectValue text _ | .expectAbsent text =>
    inferInstanceAs (Decidable (Unbroken text))
  | .startElse | .endif => .isTrue trivial

/-- The lines that the call adds where that many blocks are open. -/
def lines (kind : Kind) (depth : Nat) : Call → List String
  | .startIf condition => [directiveLine depth ("if " ++ condition)]
  | .startElif condition => [directiveLine (depth - 1) ("elif " ++ condition)]
  | .startElse => [directiveLine (depth - 1) "else"]
  | .endif => [directiveLine (depth - 1) "endif"]
  | .expectValue name value => checkLines kind name depth (some value)
  | .expectAbsent name => checkLines kind name depth none

def depthAfter (depth : Nat) : Call → Nat
  | .startIf _ => depth + 1
  | .endif => depth - 1
  | .startElif _ | .startElse | .expectValue _ _ | .expectAbsent _ => depth

variable {kind : Kind} {w next : BlockWriter} {c : Call}

/-- Where no block is open, the calls that need one are refused. -/
theorem apply_of_closed (hn : c.needsBlock = true) (hd : w.depth = 0) :
    c.apply w = .error .unopenedBlock := by
  have ho : w.openDepth = .error .unopenedBlock := by
    simp [openDepth, hd]
  cases c with
  | startIf _ | expectValue _ _ | expectAbsent _ => cases hn
  | startElif condition =>
    rw [apply, BlockWriter.startElif, ho]
    rfl
  | startElse =>
    rw [apply, BlockWriter.startElse, ho]
    rfl
  | endif =>
    rw [apply, BlockWriter.endif, ho]
    rfl

/-- Every other call adds its lines. -/
theorem apply_of_open (h : c.needsBlock = true → w.depth ≠ 0) :
    c.apply w = .ok { w with
      depth := c.depthAfter w.depth, lines := w.lines ++ c.lines w.kind w.depth } := by
  obtain ⟨kind, depth, lines⟩ := w
  cases c with
  | startIf condition => rfl
  | expectValue name value => exact congrArg _ (expect_value_lines name _ value)
  | expectAbsent name => exact congrArg _ (expect_absent_lines name _)
  | startElif _ | startElse | endif =>
    obtain ⟨n, rfl⟩ := Nat.exists_eq_succ_of_ne_zero (h rfl)
    rfl

/-- A call is refused exactly when it needs a block and none is open. -/
theorem apply_eq_error_iff {e : GenerationError} :
    c.apply w = .error e ↔ c.needsBlock = true ∧ w.depth = 0 ∧ e = .unopenedBlock := by
  by_cases h : c.needsBlock = true ∧ w.depth = 0
  · rw [apply_of_closed h.1 h.2]
    simp [h, eq_comm]
  · rw [apply_of_open fun hn hd => h ⟨hn, hd⟩, ← and_assoc]
    simp [h]

theorem apply_eq_ok (h : c.apply w = .ok next) :
    (c.needsBlock = true → w.depth ≠ 0) ∧ next = { w with
      depth := c.depthAfter w.depth, lines := w.lines ++ c.lines w.kind w.depth } := by
  have hopen : c.needsBlock = true → w.depth ≠ 0 := by
    intro hn hd
    rw [apply_of_closed hn hd] at h
    cases h
  rw [apply_of_open hopen, Except.ok.injEq] at h
  exact ⟨hopen, h.symm⟩

theorem levels_after {depth : Nat} (h : c.needsBlock = true → depth ≠ 0) :
    (c.lines kind depth).foldlM levelsAfter? (nestedLevels depth) =
      some (nestedLevels (c.depthAfter depth)) := by
  cases c with
  | startIf condition => simp [lines, depthAfter, levels_after_if]
  | expectValue name value => exact levels_after_check kind name depth (some value)
  | expectAbsent name => exact levels_after_check kind name depth none
  | startElif _ | startElse | endif =>
    obtain ⟨n, rfl⟩ := Nat.exists_eq_succ_of_ne_zero (h rfl)
    simp [lines, depthAfter, levels_after_elif, levels_after_else, levels_after_endif]

theorem unbroken_lines (h : c.WithinLine) (depth : Nat) :
    ∀ line ∈ c.lines kind depth, Unbroken line := by
  cases c with
  | startIf condition | startElif condition =>
    rw [lines, List.forall_mem_singleton]
    exact unbroken_directive_line (unbroken_append.mpr ⟨by decide, h⟩)
  | startElse | endif =>
    rw [lines, List.forall_mem_singleton]
    exact unbroken_directive_line (by decide)
  | expectValue name value => exact unbroken_check_lines h depth (some value)
  | expectAbsent name => exact unbroken_check_lines h depth none

/-- Only the calls that open a block and those that close it change the depth. -/
theorem depth_after_counts {depth : Nat} (h : c.needsBlock = true → depth ≠ 0) :
    c.depthAfter depth + [c].count .endif = depth + [c].countP (·.isStart) := by
  cases c with
  | endif =>
    have := h rfl
    simp [depthAfter, isStart]
    omega
  | startIf _ | startElif _ | startElse | expectValue _ _ | expectAbsent _ =>
    simp [depthAfter, isStart]

end Call

/-- The writer after a call. One that is refused leaves it as it was. -/
def after (w : BlockWriter) (c : Call) : BlockWriter :=
  match c.apply w with
  | .ok next => next
  | .error _ => w

def run (w : BlockWriter) (calls : List Call) : BlockWriter := calls.foldl after w

/-- The calls of a run that are not refused. -/
def succeeded (w : BlockWriter) : List Call → List Call
  | [] => []
  | c :: rest =>
    match c.apply w with
    | .ok next => c :: next.succeeded rest
    | .error _ => w.succeeded rest

/-- What holds of a writer whatever it was asked. -/
structure Kept (w : BlockWriter) : Prop where
  levelled : Levelled w.lines w.depth
  unbroken : ∀ line ∈ w.lines, Unbroken line

variable {w next : BlockWriter} {calls : List Call}

theorem kept_new (kind : Kind) : Kept { kind } := ⟨.nil, List.forall_mem_nil _⟩

theorem Kept.apply (h : w.Kept) {c : Call} (hc : c.WithinLine) (ha : c.apply w = .ok next) :
    next.Kept := by
  obtain ⟨hopen, rfl⟩ := Call.apply_eq_ok ha
  constructor
  · exact h.levelled.append (Call.levels_after hopen)
  · exact List.forall_mem_append.mpr ⟨h.unbroken, Call.unbroken_lines hc w.depth⟩

theorem Kept.run (h : w.Kept) (hc : ∀ c ∈ calls, c.WithinLine) : (w.run calls).Kept := by
  induction calls generalizing w with
  | nil => exact h
  | cons c rest ih =>
    obtain ⟨hfirst, hrest⟩ := List.forall_mem_cons.mp hc
    apply ih _ hrest
    rw [after]
    split
    · rename_i ha
      exact h.apply hfirst ha
    · exact h

/-- The depth counts the blocks that the calls opened and did not close. -/
theorem run_depth (w : BlockWriter) (calls : List Call) :
    (w.run calls).depth + (w.succeeded calls).count .endif =
      w.depth + (w.succeeded calls).countP (·.isStart) := by
  induction calls generalizing w with
  | nil => rfl
  | cons c rest ih =>
    rw [run, List.foldl_cons, after, succeeded]
    split
    · rename_i next ha
      obtain ⟨hopen, rfl⟩ := Call.apply_eq_ok ha
      have hstep := Call.depth_after_counts hopen
      have hrest := ih { w with
        depth := c.depthAfter w.depth, lines := w.lines ++ c.lines w.kind w.depth }
      rw [List.count_cons, List.countP_cons]
      simp only [List.count_singleton, List.countP_singleton] at hstep
      simp only [run] at hrest
      omega
    · exact ih w

theorem Kept.text_lines (h : w.Kept) : textLines w.text = w.lines ++ [""] :=
  text_lines_joined h.unbroken

theorem Kept.balanced_iff (h : w.Kept) :
    w.lines.countP opensBlock = w.lines.countP closesBlock ↔ w.depth = 0 := by
  have := h.levelled.depth_counts
  omega

/-- Writing a tree never fails, and closes what it opens. -/
theorem tree_keeps_depth (name : String) (tree : DecisionTree) (w : BlockWriter) :
    ∃ next, writeTree name w tree = .ok next ∧ next.depth = w.depth :=
  ⟨_, write_tree_lines name tree w, rfl⟩

/-- How a writer stands that has been asked some things, the given ones of them with success. -/
structure Accounted (w : BlockWriter) (done : List Call) : Prop where
  depth_counts : w.depth + done.count .endif = done.countP (·.isStart)
  refused_iff : ∀ (c : Call) (e : GenerationError),
    c.apply w = .error e ↔ c.needsBlock = true ∧ w.depth = 0 ∧ e = .unopenedBlock
  refused_after : ∀ (c : Call) (e : GenerationError), c.apply w = .error e → w.after c = w
  text_lines : textLines w.text = w.lines ++ [""]
  levels : w.lines.foldlM levelsAfter? [] = some (nestedLevels w.depth)
  prefix_counts : ∀ earlier, earlier <+: w.lines →
    earlier.countP closesBlock ≤ earlier.countP opensBlock
  finish_iff : w.finish = .ok w.text ↔
    w.lines.countP opensBlock = w.lines.countP closesBlock
  finish_open : w.lines.countP opensBlock ≠ w.lines.countP closesBlock →
    w.finish = .error (.unbalancedBlocks w.depth)

/-- A new writer accounts for any calls, whichever of them it refuses. A tree can be written from
any state on, which it leaves as deep as it was. -/
theorem runs_accounted (kind : Kind) (calls : List Call) (hc : ∀ c ∈ calls, c.WithinLine) :
    Accounted (run { kind } calls) (succeeded { kind } calls) ∧
      ∀ (name : String) (tree : DecisionTree) (w : BlockWriter),
        ∃ next, writeTree name w tree = .ok next ∧ next.depth = w.depth := by
  have hk : (run { kind } calls).Kept := (kept_new kind).run hc
  have hdepth := run_depth { kind } calls
  refine ⟨{
    depth_counts := by simpa using hdepth
    refused_iff := fun c e => Call.apply_eq_error_iff
    refused_after := ?_
    text_lines := hk.text_lines
    levels := hk.levelled.levels
    prefix_counts := fun _ hp => hk.levelled.prefix_counts hp
    finish_iff := ?_
    finish_open := ?_ }, tree_keeps_depth⟩
  · intro c e he
    rw [after, he]
  · rw [hk.balanced_iff, finish]
    split
    · rename_i hd
      simp [hd]
    · rename_i hd
      simp [hd]
  · intro hne
    rw [finish, if_neg (mt hk.balanced_iff.mpr hne)]

theorem refused_calls_accounted :
    (∀ c ∈ [Call.endif, .startIf "A", .expectValue "__cpp_x" 1, .startElse], c.WithinLine) ∧
    Accounted
      (run { kind := .library } [.endif, .startIf "A", .expectValue "__cpp_x" 1, .startElse])
      [.startIf "A", .expectValue "__cpp_x" 1, .startElse] :=
  ⟨by decide, (runs_accounted .library
    [.endif, .startIf "A", .expectValue "__cpp_x" 1, .startElse] (by decide)).1⟩

end BlockWriter

end FeatureTest
