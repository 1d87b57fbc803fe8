import FeatureTest.Proofs.Expression
import FeatureTest.VersionDef.Entry

/-!
What the condition on a value means: the tests of the library's configuration and the further
condition, all of them. The parts are joined without parentheses, so a further condition with a
top-level `||` is not kept apart from the tests before it.
-/
namespace FeatureTest.Expression
open Text (isBlank isWordChar)

section Nesting

variable {ps : List Piece} {trees : List Tree} {outer : List (List Tree)}

theorem nest_cons {p : Piece} (hopen : p ≠ .opening) (hclose : p ≠ .closing)
    (h : nest ps = some (trees, outer)) : nest (p :: ps) = some (.piece p :: trees, outer) := by
  rw [nest, h]
  cases p with
  | opening => exact absurd rfl hopen
  | closing => exact absurd rfl hclose
  | _ => rfl

theorem nest_closing (h : nest ps = some (trees, outer)) :
    nest (.closing :: ps) = some ([], trees :: outer) := by
  rw [nest, h]
  rfl

theorem nest_opening {next : List Tree} (h : nest ps = some (trees, next :: outer)) :
    nest (.opening :: ps) = some (.group trees :: next, outer) := by
  rw [nest, h]
  rfl

theorem read_eq_some {text : List Char} :
    read? text = some trees ↔ nest (pieces 0 text) = some (trees, []) := by
  unfold read?
  split
  · rename_i h
    rw [h]
    simp
  · rename_i hne
    constructor
    · intro h
      cases h
    · intro h
      exact absurd h (hne trees)

end Nesting

/-- A text that reads as these trees, whatever comes after it past a blank. -/
def Stands (text : List Char) (trees : List Tree) : Prop :=
  ∀ (rest : List Char) (after : List Tree) (outer : List (List Tree)),
    (∀ c ∈ rest.head?, isBlank c = true) → nest (pieces 0 rest) = some (after, outer) →
    nest (pieces 0 (text ++ rest)) = some (trees ++ after, outer)

/-- A name that is no operator. -/
structure IsName (c : Char) (w : List Char) : Prop where
  word : (c :: w).all isWordChar = true
  no_number : c.isDigit = false
  no_operator : Piece.ofWord (c :: w) = .word (c :: w)

section Standing

variable {c : Char} {w text : List Char} {trees : List Tree}

theorem stands_name (h : IsName c w) : Stands (c :: w) [.piece (.word (c :: w))] := by
  intro rest after outer hrest hnest
  have hend : ∀ d ∈ rest.head?, isWordChar d = false := fun d hd => Text.blank_not_word (hrest d hd)
  rw [List.cons_append, pieces_word h.word h.no_number hend, h.no_operator]
  exact nest_cons (by simp) (by simp) hnest

theorem stands_not (hc : c ≠ '=') (h : Stands (c :: text) trees) :
    Stands ('!' :: c :: text) (.piece .not :: trees) := by
  intro rest after outer hrest hnest
  rw [List.cons_append, pieces_not (by simpa using hc)]
  exact nest_cons (by simp) (by simp) (h _ _ _ hrest hnest)

/-- A name in parentheses after another one. -/
theorem stands_call {d : Char} {v : List Char} (hw : IsName c w) (hv : IsName d v) :
    Stands (c :: (w ++ '(' :: d :: (v ++ [')'])))
      [.piece (.word (c :: w)), .group [.piece (.word (d :: v))]] := by
  intro rest after outer _ hnest
  have htext : c :: (w ++ '(' :: d :: (v ++ [')'])) ++ rest =
      c :: (w ++ '(' :: d :: (v ++ ')' :: rest)) := by simp
  have hopening : ∀ e ∈ ('(' :: d :: (v ++ ')' :: rest)).head?, isWordChar e = false := by
    intro e he
    cases he
    decide
  have hclosing : ∀ e ∈ (')' :: rest).head?, isWordChar e = false := by
    intro e he
    cases he
    decide
  rw [htext, pieces_word hw.word hw.no_number hopening, hw.no_operator, pieces_opening,
    pieces_word hv.word hv.no_number hclosing, hv.no_operator, pieces_closing]
  exact nest_cons (by simp) (by simp)
    (nest_opening (nest_cons (by simp) (by simp) (nest_closing hnest)))

end Standing

/-- A text that is one conjunction of this value, before whatever else it is joined. -/
def Test (m : Macros) (text : List Char) (value : Bool) : Prop :=
  ∃ trees, Stands text trees ∧ (∀ t ∈ trees, t.isLoosening = false) ∧
    conjunction? m (valued m trees) = some value

/-- A text of one or more disjuncts, with their values. -/
def Meant (m : Macros) (text : List Char) (first : Bool) (later : List Bool) : Prop :=
  ∃ trees, read? text = some trees ∧ (∀ t ∈ trees, t.isLoose = false) ∧
    disjuncts? m (valued m trees) = some (first :: later)

section Joining

variable {m : Macros} {a first : Bool} {later : List Bool} {t u : List Char}

theorem Meant.value (h : Meant m t first later) :
    evaluate? m t = some (first || later.any id) := by
  obtain ⟨trees, hread, hloose, hvalue⟩ := h
  rw [evaluate?, hread, Option.bind_eq_bind, Option.bind_some, disjunction_of_disjuncts hloose,
    hvalue]
  rfl

theorem meant_of_tight (htight : Tight t) (h : evaluate? m t = some first) :
    Meant m t first [] := by
  obtain ⟨trees, hread, hvalue⟩ := Option.bind_eq_some_iff.mp h
  have hloosening := htight trees hread
  have hloose : ∀ t ∈ trees, t.isLoose = false := fun t ht => (not_loosening.mp (hloosening t ht)).2
  refine ⟨trees, hread, hloose, ?_⟩
  rw [disjunction_of_disjuncts hloose, disjuncts_tight hloosening] at hvalue
  rw [disjuncts_tight hloosening]
  cases hc : conjunction? m (valued m trees) with
  | none =>
    rw [hc] at hvalue
    cases hvalue
  | some b =>
    rw [hc] at hvalue
    simpa using hvalue

theorem Test.meant (h : Test m t a) : Meant m t a [] := by
  obtain ⟨trees, hstands, htight, hvalue⟩ := h
  have hread : read? t = some trees := by
    have h := hstands [] [] [] (by simp) rfl
    rw [List.append_nil, List.append_nil] at h
    exact read_eq_some.mpr h
  refine ⟨trees, hread, fun t ht => (not_loosening.mp (htight t ht)).2, ?_⟩
  rw [disjuncts_tight htight, hvalue]
  rfl

theorem Stands.read_and {trees us : List Tree} (h : Stands t trees) (hu : read? u = some us) :
    read? (t ++ " && ".toList ++ u) = some (trees ++ .piece .and :: us) := by
  have hpieces : pieces 0 (" && ".toList ++ u) = .and :: pieces 0 u := by
    change pieces 0 (' ' :: '&' :: '&' :: ' ' :: u) = _
    rw [pieces_blank (by decide), pieces_and, pieces_blank (by decide)]
  have hnext : nest (pieces 0 (" && ".toList ++ u)) = some (.piece .and :: us, []) := by
    rw [hpieces]
    exact nest_cons (by simp) (by simp) (read_eq_some.mp hu)
  have hblank : ∀ c ∈ (" && ".toList ++ u).head?, isBlank c = true := by
    intro c hc
    cases hc
    decide
  rw [List.append_assoc]
  exact read_eq_some.mpr (h _ _ _ hblank hnext)

/-- A test joined to a text is a test of its first disjunct. -/
theorem Test.and (h : Test m t a) (hu : Meant m u first later) :
    Meant m (t ++ " && ".toList ++ u) (a && first) later := by
  obtain ⟨trees, hstands, htight, hvalue⟩ := h
  obtain ⟨us, hread, hloose, hdisjuncts⟩ := hu
  refine ⟨_, hstands.read_and hread, ?_, ?_⟩
  · intro t ht
    rcases List.mem_append.mp ht with ht | ht
    · exact (not_loosening.mp (htight t ht)).2
    · rcases List.mem_cons.mp ht with rfl | ht
      · rfl
      · exact hloose t ht
  · rw [valued_append]
    exact disjuncts_append (fun x hx => (not_loosening.mp (htight _ (mem_valued hx))).1) rfl rfl
      hvalue hdisjuncts

/-- Texts that are to be joined by `&&`: tests, and after them any text. -/
inductive Joined (m : Macros) : List String → Bool → List Bool → Prop
  | none : Joined m [] true []
  | last {t : String} {first : Bool} {later : List Bool} (h : Meant m t.toList first later) :
      Joined m [t] first later
  | test {t : String} {ts : List String} {a first : Bool} {later : List Bool}
      (h : Test m t.toList a) (rest : Joined m ts first later) :
      Joined m (t :: ts) (a && first) later

theorem Joined.optional {ts : List String} {o : Option Bool} {text : Bool → String}
    {value : Bool → Bool} (h : ∀ b, Test m (text b).toList (value b))
    (rest : Joined m ts first later) :
    Joined m ((o.map text).toList ++ ts) (o.all value && first) later := by
  cases o with
  | none => exact rest
  | some b => exact .test (h b) rest

theorem Joined.meant {ts : List String} (h : Joined m ts first later) (hne : ts ≠ []) :
    Meant m (" && ".intercalate ts).toList first later := by
  induction h with
  | none => contradiction
  | last h => simpa using h
  | @test t ts a first later h rest ih =>
    cases ts with
    | nil =>
      cases rest
      simpa using h.meant
    | cons u us =>
      have hrest := ih (List.cons_ne_nil u us)
      rw [String.toList_intercalate] at hrest ⊢
      rw [List.map_cons, List.map_cons, List.intercalate_cons_cons]
      exact h.and hrest

end Joining

end FeatureTest.Expression

namespace FeatureTest.VersionDef.MacroValue
open Expression

variable {v : MacroValue} {m : Macros} {first : Bool} {later : List Bool}

def gthreadsMacro : List Char := "_GLIBCXX_HAS_GTHREADS".toList

def abiMacro : List Char := "_GLIBCXX_USE_CXX11_ABI".toList

/-- Whether the library is configured as a value requires it. -/
def configured (v : MacroValue) (m : Macros) : Bool :=
  v.gthread.all (m.defined gthreadsMacro == ·) &&
    v.cxx11abi.all (m.truth [.piece (.word abiMacro)] == ·)

theorem gthread_test (b : Bool) :
    Test m
      (if b then "defined(_GLIBCXX_HAS_GTHREADS)" else "!defined(_GLIBCXX_HAS_GTHREADS)").toList
      (m.defined gthreadsMacro == b) := by
  have hdefined : IsName 'd' "efined".toList :=
    ⟨by decide +kernel, by decide +kernel, by decide +kernel⟩
  have hname : IsName '_' "GLIBCXX_HAS_GTHREADS".toList :=
    ⟨by decide +kernel, by decide +kernel, by decide +kernel⟩
  have hstands := stands_call hdefined hname
  cases b with
  | true =>
    refine ⟨_, hstands, by decide, ?_⟩
    rw [beq_true, conjunction_operand (by simp [valued, Tree.isAnd])]
    rfl
  | false =>
    refine ⟨_, stands_not (by decide) hstands, by decide, ?_⟩
    rw [beq_false, conjunction_operand (by simp [valued, Tree.isAnd])]
    rfl

theorem abi_test (b : Bool) :
    Test m (if b then "_GLIBCXX_USE_CXX11_ABI" else "!_GLIBCXX_USE_CXX11_ABI").toList
      (m.truth [.piece (.word abiMacro)] == b) := by
  have hname : IsName '_' "GLIBCXX_USE_CXX11_ABI".toList :=
    ⟨by decide +kernel, by decide +kernel, by decide +kernel⟩
  have hstands := stands_name hname
  cases b with
  | true =>
    refine ⟨_, hstands, by decide, ?_⟩
    rw [beq_true, conjunction_operand (by simp [valued, Tree.isAnd])]
    rfl
  | false =>
    refine ⟨_, stands_not (by decide) hstands, by decide, ?_⟩
    rw [beq_false, conjunction_operand (by simp [valued, Tree.isAnd])]
    rfl

theorem depends_eq_none :
    v.depends = none ↔ v.gthread = none ∧ v.cxx11abi = none ∧ v.extraCond = none := by
  simp [depends, conditions]

theorem conditions_joined
    (hextra : Joined m (v.extraCond.map publicCondition).toList first later) :
    Joined m v.conditions (v.configured m && first) later := by
  rw [configured, Bool.and_assoc, conditions, List.append_assoc]
  exact .optional gthread_test (.optional abi_test hextra)

theorem depends_meant {text : String} (hdepends : v.depends = some text)
    (hextra : Joined m (v.extraCond.map publicCondition).toList first later) :
    Meant m text.toList (v.configured m && first) later := by
  unfold depends at hdepends
  split at hdepends
  · cases hdepends
  · rename_i hne
    cases hdepends
    exact (conditions_joined hextra).meant (by simpa using hne)

/-- The tests of the configuration go to the first disjunct of a further condition, and any later
disjunct alone makes the whole condition true. -/
theorem depends_regrouped {extra text : String} (hdepends : v.depends = some text)
    (hextra : v.extraCond = some extra)
    (hmeant : Meant m (publicCondition extra).toList first later) :
    evaluate? m text.toList = some ((v.configured m && first) || later.any id) := by
  refine (depends_meant hdepends ?_).value
  rw [hextra]
  exact .last hmeant

/-- Whether the library is configured as a value requires it, and its further condition holds. -/
def satisfied (v : MacroValue) (m : Macros) : Bool :=
  v.configured m && v.extraCond.all fun x => evaluate? m (publicCondition x).toList == some true

/-- The condition on a value is the conjunction of its parts, as long as a further condition that
stands after a test of the configuration has no operator that binds looser than `&&`. -/
theorem depends_conjunction (v : MacroValue) (m : Macros)
    (hextra : ∀ x ∈ v.extraCond, (evaluate? m (publicCondition x).toList).isSome = true)
    (htight : (v.gthread = none ∧ v.cxx11abi = none) ∨
      ∀ x ∈ v.extraCond, Tight (publicCondition x).toList) :
    (v.depends = none ↔ v.gthread = none ∧ v.cxx11abi = none ∧ v.extraCond = none) ∧
      ∀ text ∈ v.depends, evaluate? m text.toList = some (v.satisfied m) := by
  refine ⟨depends_eq_none, ?_⟩
  intro text hdepends
  cases hx : v.extraCond with
  | none =>
    have hmeant : Meant m text.toList (v.configured m && true) [] :=
      depends_meant hdepends (by rw [hx]; exact .none)
    rw [hmeant.value, satisfied, hx]
    simp
  | some extra =>
    obtain ⟨b, hb⟩ := Option.isSome_iff_exists.mp (hextra extra hx)
    rcases htight with ⟨hgthread, habi⟩ | htight
    · have htext : publicCondition extra = text := by
        simpa [depends, conditions, hgthread, habi, hx] using hdepends
      rw [← htext, hb, satisfied, configured, hgthread, habi, hx]
      simp [hb]
    · have hmeant : Meant m text.toList (v.configured m && b) [] :=
        depends_meant hdepends (by rw [hx]; exact .last (meant_of_tight (htight extra hx) hb))
      rw [hmeant.value, satisfied, hx]
      simp [hb]

def threadedValue : MacroValue :=
  { value := 202002, gthread := some false, cxx11abi := some true,
    extraCond := some "\"__glibcxx_span && (A || !B)\"" }

/-- The library has no threads; it has the newer strings and spans. -/
def spanMacros : Macros where
  defined _ := false
  truth
    | [.piece (.word w)] => w = abiMacro || w = "__cpp_lib_span".toList
    | _ => false

theorem threaded_value_satisfied :
    ((∀ x ∈ threadedValue.extraCond,
        (evaluate? spanMacros (publicCondition x).toList).isSome = true) ∧
      ((threadedValue.gthread = none ∧ threadedValue.cxx11abi = none) ∨
        ∀ x ∈ threadedValue.extraCond, Tight (publicCondition x).toList)) ∧
    threadedValue.satisfied spanMacros = true ∧
    (threadedValue.depends = none ↔ threadedValue.gthread = none ∧
      threadedValue.cxx11abi = none ∧ threadedValue.extraCond = none) ∧
    ∀ text ∈ threadedValue.depends,
      evaluate? spanMacros text.toList = some (threadedValue.satisfied spanMacros) := by
  have hextra : ∀ x ∈ threadedValue.extraCond,
      (evaluate? spanMacros (publicCondition x).toList).isSome = true := by
    intro x hx
    cases hx
    decide +kernel
  have htight : ∀ x ∈ threadedValue.extraCond, Tight (publicCondition x).toList := by
    intro x hx
    cases hx
    decide +kernel
  exact ⟨⟨hextra, .inr htight⟩, by decide +kernel,
    depends_conjunction threadedValue spanMacros hextra (.inr htight)⟩

/-- The library has no threads, and `B` is true. -/
def choiceMacros : Macros where
  defined _ := false
  truth
    | [.piece (.word w)] => w = ['B']
    | _ => false

/-- Where the further condition is `A || B` and `B` is true, so is the whole condition, whatever the
test before it says. -/
theorem joined_choice_escapes :
    ¬ ∀ (v : MacroValue) (m : Macros),
      (∀ x ∈ v.extraCond, (evaluate? m (publicCondition x).toList).isSome = true) →
      ∀ text ∈ v.depends, evaluate? m text.toList = some (v.satisfied m) := by
  intro h
  have hextra : (evaluate? choiceMacros (publicCondition "\"A || B\"").toList).isSome = true := by
    decide +kernel
  have hsame := h { value := 1, gthread := some true, extraCond := some "\"A || B\"" } choiceMacros
    (by intro x hx; cases hx; exact hextra) _ rfl
  exact absurd hsame (by decide +kernel)

end FeatureTest.VersionDef.MacroValue
