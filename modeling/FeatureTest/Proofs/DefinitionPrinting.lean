import FeatureTest.Proofs.Statements
import FeatureTest.Proofs.TextCleaning
import FeatureTest.Proofs.TokenLayout
import Mathlib.Data.String.Basic

/-!
Definitions survive printing: whatever the order of the statements, as long as the bodies of one
name keep theirs, and whatever blanks stand between the tokens, the text is read as the tree that
was printed.
-/
namespace FeatureTest.VersionDef
open Success

namespace Definitions

/-- Each name once, in order. -/
def Sorted (ds : Definitions) : Prop := ds.Pairwise (·.1 < ·.1)

variable {name other : String} {d : Definition} {ds : Definitions}

theorem lookup_first :
    List.lookup other ((name, d) :: ds) = if other = name then some d else ds.lookup other := by
  by_cases h : other = name
  · simp [h]
  · have hb : (other == name) = false := beq_eq_false_iff_ne.mpr h
    rw [List.lookup_cons, hb, if_neg h]

theorem lookup_insert :
    (ds.insert name d).lookup other = if other = name then some d else ds.lookup other := by
  induction ds with
  | nil => exact lookup_first
  | cons head rest ih =>
    obtain ⟨key, e⟩ := head
    simp only [insert]
    split
    · exact lookup_first
    · split
      · rename_i he
        subst he
        rw [lookup_first, lookup_first]
        by_cases h : other = name <;> simp [h]
      · rename_i hne
        rw [lookup_first, ih, lookup_first]
        by_cases h : other = name
        · subst h
          rw [if_pos rfl, if_pos rfl, if_neg hne]
        · rw [if_neg h, if_neg h]

theorem mem_insert {entry : String × Definition} (h : entry ∈ ds.insert name d) :
    entry = (name, d) ∨ entry ∈ ds := by
  induction ds with
  | nil => exact .inl (by simpa [insert] using h)
  | cons head rest ih =>
    obtain ⟨key, e⟩ := head
    simp only [insert] at h
    split at h
    · exact List.mem_cons.mp h
    · split at h
      · rcases List.mem_cons.mp h with he | hm
        · exact .inl he
        · exact .inr (List.mem_cons_of_mem _ hm)
      · rcases List.mem_cons.mp h with he | hm
        · exact .inr (he ▸ List.mem_cons_self)
        · rcases ih hm with he | hm
          · exact .inl he
          · exact .inr (List.mem_cons_of_mem _ hm)

theorem sorted_insert (h : ds.Sorted) : (ds.insert name d).Sorted := by
  induction ds with
  | nil => exact List.pairwise_singleton _ _
  | cons head rest ih =>
    obtain ⟨key, e⟩ := head
    obtain ⟨habove, hrest⟩ := List.pairwise_cons.mp h
    simp only [insert]
    split
    · rename_i hlt
      refine List.pairwise_cons.mpr ⟨?_, h⟩
      intro entry hm
      rcases List.mem_cons.mp hm with rfl | hm
      · exact hlt
      · exact lt_trans hlt (habove entry hm)
    · rename_i hge
      split
      · rename_i he
        subst he
        exact List.pairwise_cons.mpr ⟨habove, hrest⟩
      · rename_i hne
        refine List.pairwise_cons.mpr ⟨?_, ih hrest⟩
        intro entry hm
        rcases mem_insert hm with rfl | hm
        · exact lt_of_le_of_ne (not_lt.mp hge) (Ne.symm hne)
        · exact habove entry hm

theorem lookup_eq_some (h : ds.Sorted) : ds.lookup name = some d ↔ (name, d) ∈ ds := by
  induction ds with
  | nil => simp
  | cons head rest ih =>
    obtain ⟨key, e⟩ := head
    obtain ⟨habove, hrest⟩ := List.pairwise_cons.mp h
    rw [lookup_first]
    by_cases he : name = key
    · subst he
      have habsent : (name, d) ∉ rest := fun hm => lt_irrefl name (habove (name, d) hm)
      simp [habsent, eq_comm]
    · simp [he, ih hrest]

theorem Sorted.nodup (h : ds.Sorted) : ds.Nodup := by
  refine List.Pairwise.imp ?_ h
  intro a b hlt he
  exact lt_irrefl b.1 (he ▸ hlt)

/-- A tree is known by what it says of each name. -/
theorem eq_of_lookup {a b : Definitions} (ha : a.Sorted) (hb : b.Sorted)
    (h : ∀ name, a.lookup name = b.lookup name) : a = b := by
  have hmem : ∀ entry, entry ∈ a ↔ entry ∈ b := by
    intro entry
    rw [← lookup_eq_some ha, ← lookup_eq_some hb, h]
  have hperm : a.Perm b := (List.perm_ext_iff_of_nodup ha.nodup hb.nodup).mpr hmem
  refine hperm.eq_of_pairwise ?_ ha hb
  intro x y _ _ hxy hyx
  exact absurd (lt_trans hxy hyx) (lt_irrefl _)

end Definitions

mutual

/-- Statements that print a tree: those of each name print what the tree says of it. -/
inductive Prints : Definitions → List Statement → Prop
  | tree {ds : Definitions} {ss : List Statement} (sorted : ds.Sorted)
      (each : ∀ name, PrintsName name (ds.lookup name) (ss.filter (·.name = name))) : Prints ds ss

/-- The statements of one name. -/
inductive PrintsName : String → Option Definition → List Statement → Prop
  | absent {name : String} : PrintsName name none []
  | value {name : String} {leaf : Leaf} :
      PrintsName name (some (.text leaf.text)) [.value name leaf]
  | groups {name : String} {bodies : List Definitions} {ss : List Statement}
      (some_body : bodies ≠ []) (each : PrintsBodies name bodies ss) :
      PrintsName name (some (.groups bodies)) ss

/-- A group for each body of a name, in their order. -/
inductive PrintsBodies : String → List Definitions → List Statement → Prop
  | nil {name : String} : PrintsBodies name [] []
  | cons {name : String} {body : Definitions} {bodies : List Definitions}
      {printed ss : List Statement} (first : Prints body printed)
      (rest : PrintsBodies name bodies ss) :
      PrintsBodies name (body :: bodies) (.group name printed :: ss)

end

/-- What statements of one name define, one after the other. -/
def extendAll (earlier : Option Definition) (ss : List Statement) :
    Except ParseError (Option Definition) :=
  ss.foldlM (fun d s => some <$> s.extend d) earlier

theorem extend_all_cons {earlier later : Option Definition} {s : Statement}
    {ss : List Statement} :
    extendAll earlier (s :: ss) = .ok later ↔
      ∃ d, s.extend earlier = .ok d ∧ extendAll (some d) ss = .ok later := by
  simp only [extendAll, List.foldlM_cons, bind_eq_ok, map_eq_ok]
  constructor
  · intro h
    obtain ⟨_, ⟨d, hd, rfl⟩, hss⟩ := h
    exact ⟨d, hd, hss⟩
  · intro h
    obtain ⟨d, hd, hss⟩ := h
    exact ⟨_, ⟨d, hd, rfl⟩, hss⟩

/-- Statements of different names do not get in each other's way. -/
theorem define_eq_ok {ss : List Statement} {ds result : Definitions} (hsorted : ds.Sorted) :
    Statement.define ss ds = .ok result ↔ result.Sorted ∧ ∀ name,
      extendAll (ds.lookup name) (ss.filter (·.name = name)) = .ok (result.lookup name) := by
  induction ss generalizing ds with
  | nil =>
    constructor
    · intro h
      cases h
      exact ⟨hsorted, fun _ => rfl⟩
    · intro h
      obtain ⟨hr, hlookup⟩ := h
      rw [Definitions.eq_of_lookup hsorted hr fun name => Except.ok.inj (hlookup name)]
      rfl
  | cons s ss ih =>
    rw [Statement.define, bind_eq_ok]
    constructor
    · intro h
      obtain ⟨d, hd, hrest⟩ := h
      obtain ⟨hr, hlookup⟩ := (ih (Definitions.sorted_insert hsorted)).mp hrest
      refine ⟨hr, ?_⟩
      intro name
      have hname := hlookup name
      rw [Definitions.lookup_insert] at hname
      by_cases hn : name = s.name
      · subst hn
        rw [if_pos rfl] at hname
        rw [List.filter_cons_of_pos (by simp)]
        exact extend_all_cons.mpr ⟨d, hd, hname⟩
      · rw [if_neg hn] at hname
        rw [List.filter_cons_of_neg (by simpa using Ne.symm hn)]
        exact hname
    · intro h
      obtain ⟨hr, hlookup⟩ := h
      have hs := hlookup s.name
      rw [List.filter_cons_of_pos (by simp), extend_all_cons] at hs
      obtain ⟨d, hd, hlater⟩ := hs
      refine ⟨d, hd, (ih (Definitions.sorted_insert hsorted)).mpr ⟨hr, ?_⟩⟩
      intro name
      have hname := hlookup name
      rw [Definitions.lookup_insert]
      by_cases hn : name = s.name
      · subst hn
        rw [if_pos rfl]
        exact hlater
      · rw [List.filter_cons_of_neg (by simpa using Ne.symm hn)] at hname
        rw [if_neg hn]
        exact hname

mutual

theorem define_of_prints : ∀ {ds : Definitions} {ss : List Statement}, Prints ds ss →
    Statement.define ss [] = .ok ds
  | _, _, .tree sorted each =>
    (define_eq_ok List.Pairwise.nil).mpr ⟨sorted, fun name => extend_of_prints (each name)⟩

theorem extend_of_prints : ∀ {name : String} {d : Option Definition} {ss : List Statement},
    PrintsName name d ss → extendAll none ss = .ok d
  | _, _, _, .absent => rfl
  | _, _, _, .value => rfl
  | _, _, _, .groups _ (@PrintsBodies.cons _ body _ _ _ first rest) => by
    have hrest := @extend_bodies_of_prints _ _ [body] _ rest
    refine extend_all_cons.mpr ⟨_, ?_, hrest⟩
    rw [Statement.extend, define_of_prints first]
    rfl
  | _, _, _, .groups some_body .nil => absurd rfl some_body

theorem extend_bodies_of_prints : ∀ {name : String} {bodies earlier : List Definitions}
    {ss : List Statement}, PrintsBodies name bodies ss →
    extendAll (some (.groups earlier)) ss = .ok (some (.groups (earlier ++ bodies)))
  | _, _, _, _, .nil => by
    rw [List.append_nil]
    rfl
  | _, _, _, _, .cons first rest => by
    rw [List.append_cons]
    refine extend_all_cons.mpr ⟨_, ?_, extend_bodies_of_prints rest⟩
    rw [Statement.extend, define_of_prints first]
    rfl

end

/-- Whatever the body of a group defines, it prints. -/
def Statement.BodyPrints : Statement → Prop
  | .value _ _ => True
  | .group _ body => ∀ ds, define body [] = .ok ds → Prints ds body

theorem prints_bodies_of_extend {name : String} {ss : List Statement}
    {earlier : List Definitions} {later : Option Definition} (hnames : ∀ s ∈ ss, s.name = name)
    (hbodies : ∀ s ∈ ss, s.BodyPrints)
    (h : extendAll (some (.groups earlier)) ss = .ok later) :
    ∃ bodies, later = some (.groups (earlier ++ bodies)) ∧ PrintsBodies name bodies ss := by
  induction ss generalizing earlier with
  | nil =>
    cases h
    exact ⟨[], by rw [List.append_nil], .nil⟩
  | cons s ss ih =>
    obtain ⟨d, hd, hrest⟩ := extend_all_cons.mp h
    obtain ⟨hname, hnamed⟩ := List.forall_mem_cons.mp hnames
    obtain ⟨hbody, hinside⟩ := List.forall_mem_cons.mp hbodies
    cases s with
    | value n leaf => cases hd
    | group n body =>
      cases hname
      obtain ⟨inner, hinner, hd⟩ := bind_eq_ok.mp hd
      cases hd
      obtain ⟨bodies, rfl, hprints⟩ := ih hnamed hinside hrest
      exact ⟨inner :: bodies, by simp, .cons (hbody inner hinner) hprints⟩

theorem prints_name_of_extend {name : String} {ss : List Statement} {d : Option Definition}
    (hnames : ∀ s ∈ ss, s.name = name) (hbodies : ∀ s ∈ ss, s.BodyPrints)
    (h : extendAll none ss = .ok d) : PrintsName name d ss := by
  cases ss with
  | nil =>
    cases h
    exact .absent
  | cons s ss =>
    obtain ⟨first, hfirst, hrest⟩ := extend_all_cons.mp h
    obtain ⟨hname, hnamed⟩ := List.forall_mem_cons.mp hnames
    obtain ⟨hbody, hinside⟩ := List.forall_mem_cons.mp hbodies
    cases s with
    | value n leaf =>
      cases hname
      cases hfirst
      cases ss with
      | nil =>
        cases hrest
        exact .value
      | cons t ss =>
        -- A name that has a value takes no other statement.
        obtain ⟨_, ht, -⟩ := extend_all_cons.mp hrest
        cases t with
        | value _ _ => cases ht
        | group _ body =>
          obtain ⟨_, _, ht⟩ := bind_eq_ok.mp ht
          cases ht
    | group n body =>
      cases hname
      obtain ⟨inner, hinner, hd⟩ := bind_eq_ok.mp hfirst
      cases hd
      obtain ⟨bodies, rfl, hprints⟩ := prints_bodies_of_extend hnamed hinside hrest
      exact .groups (List.cons_ne_nil _ _) (.cons (hbody inner hinner) hprints)

theorem prints_of_define {ss : List Statement} {ds : Definitions}
    (hbodies : ∀ s ∈ ss, s.BodyPrints) (h : Statement.define ss [] = .ok ds) : Prints ds ss := by
  obtain ⟨hsorted, hlookup⟩ := (define_eq_ok List.Pairwise.nil).mp h
  refine .tree hsorted fun name => prints_name_of_extend ?_ ?_ (hlookup name)
  · intro s hs
    exact of_decide_eq_true (List.mem_filter.mp hs).2
  · intro s hs
    exact hbodies s (List.mem_filter.mp hs).1

mutual

theorem body_prints : ∀ s : Statement, s.BodyPrints
  | .value _ _ => trivial
  | .group _ body => fun _ h => prints_of_define (bodies_print body) h

theorem bodies_print : ∀ (ss : List Statement), ∀ s ∈ ss, s.BodyPrints
  | [] => by simp
  | s :: ss => List.forall_mem_cons.mpr ⟨body_prints s, bodies_print ss⟩

end

/-- Statements print a tree exactly when they define it. -/
theorem prints_iff {ds : Definitions} {ss : List Statement} :
    Prints ds ss ↔ Statement.define ss [] = .ok ds :=
  ⟨define_of_prints, prints_of_define (bodies_print ss)⟩

/-- A text that prints a tree, without anything that would pass for a comment or a header, is read
as that tree. -/
theorem parse_printed {tree : Definitions} {statements : List Statement} {text : String}
    (hprints : Prints tree statements)
    (hlaid : Laid (Statement.tokensOf statements) text.toList)
    (hline : ¬ "//".toList <:+: text.toList) (hblock : ¬ "/*".toList <:+: text.toList)
    (hheader : ¬ "AutoGen Definitions".toList <:+: text.toList) :
    parse text = .ok tree := by
  have htokens : tokenize text = Statement.tokensOf statements := by
    rw [tokenize, clean_eq_self hline hblock (header_free_of_absent hheader)]
    exact scan_eq_iff.mpr hlaid
  have hread := read_statements statements [] [] []
  rw [List.append_nil, prints_iff.mp hprints] at hread
  rw [parse, htokens, hread]
  change readDefinitions [] tree [] = .ok tree
  rw [readDefinitions.eq_def]
  rfl

/-- Two bodies of one name with a value between them, and marks inside quotes. -/
def libraryStatements : List Statement := [
  .group "ftms" [
    .value "name" (.word "span".toList),
    .value "extra_cond" (.quoted "x = \x7b;".toList ["\x7d\n".toList])],
  .value "copyright" (.word "no".toList),
  .group "ftms" [.group "values" [.value "v" (.word "202002".toList)]]]

def libraryTree : Definitions := [
  ("copyright", .text "no"),
  ("ftms", .groups [
    [("extra_cond", .text "\"x = \x7b;\"\"\x7d\n\""), ("name", .text "span")],
    [("values", .groups [[("v", .text "202002")]])]])]

def libraryText : String :=
  "ftms = \x7b name=span; extra_cond = \"x = \x7b;\" \"\x7d\n\";\x7d;\n" ++
    "copyright =no ;\tftms=\x7bvalues = \x7bv=202002;\x7d;\x7d ;\n"

theorem library_text_laid : Laid (Statement.tokensOf libraryStatements) libraryText.toList := by
  have h : scan libraryText.toList = Statement.tokensOf libraryStatements := by decide +kernel
  rw [← h]
  exact scan_eq_iff.mp rfl

theorem library_printed : Prints libraryTree libraryStatements :=
  prints_iff.mpr (by rfl)

theorem library_text_read :
    (Prints libraryTree libraryStatements ∧
      Laid (Statement.tokensOf libraryStatements) libraryText.toList ∧
      ¬ "//".toList <:+: libraryText.toList ∧ ¬ "/*".toList <:+: libraryText.toList ∧
      ¬ "AutoGen Definitions".toList <:+: libraryText.toList) ∧
    parse libraryText = .ok libraryTree := by
  have hline : ¬ "//".toList <:+: libraryText.toList := by decide +kernel
  have hblock : ¬ "/*".toList <:+: libraryText.toList := by decide +kernel
  have hheader : ¬ "AutoGen Definitions".toList <:+: libraryText.toList := by decide +kernel
  exact ⟨⟨library_printed, library_text_laid, hline, hblock, hheader⟩,
    parse_printed library_printed library_text_laid hline hblock hheader⟩

end FeatureTest.VersionDef
