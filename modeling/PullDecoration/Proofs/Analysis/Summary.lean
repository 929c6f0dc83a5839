import Mathlib.Algebra.BigOperators.Group.List.Basic
import Mathlib.Algebra.GroupWithZero.Nat
import PullDecoration.Analysis.Wording
import PullDecoration.Proofs.Text.Parts
import PullDecoration.Proofs.Text.Trim

/-! What a summary shows of the issues. Between an opening and a closing that say what the gate
says, it has a tally of the open issues, and a tally can be read from its words. So two summaries
beside the same gate differ exactly if the number of open issues of some severity does. -/
namespace PullDecoration

def Gate.opening (g : Gate) : List Char :=
  "## Analysis Details\n\n".toList ++ g.status.verdict.toList ++ "\n\n".toList ++
    if g.failedConditions = [] then []
    else "### Failed conditions\n\n".toList ++
      g.failedConditions.flatMap (fun c => c.line.toList ++ ['\n']) ++ ['\n']

def Gate.closing (g : Gate) : List Char :=
  (g.dashboard.map fun url => "\n\n[View the full report](".toList ++ url.toList ++ [')']).getD []

/-- The number of all open issues, and numbers of those of some severities. -/
structure Tally where
  total : Nat
  rows : List (Severity × Nat)
  deriving DecidableEq

namespace Tally

def rowChars (row : Severity × Nat) : List Char :=
  "\n| ".toList ++ row.1.name.toList ++ ' ' :: ("| ".toList ++ Text.decimal row.2 ++ ' ' :: ['|'])

def tableHead : List Char := "\n\n| Severity | Count |\n|---|---:|".toList

def tableChars : List (Severity × Nat) → List Char
  | [] => []
  | row :: rows => tableHead ++ (row :: rows).flatMap rowChars

def chars (t : Tally) : List Char :=
  "### ".toList ++ Text.decimal t.total ++
    ' ' :: ("open issue".toList ++ (if t.total = 1 then [] else ['s']) ++ tableChars t.rows)

variable {t t' : Tally}

theorem space_notMem_name (s : Severity) : ' ' ∉ s.name.toList := by
  cases s <;> decide

theorem name_inj {s s' : Severity} : s.name = s'.name ↔ s = s' := by
  cases s <;> cases s' <;> decide

/-- A row ends where its numeral does, so that it can be told from what follows. -/
theorem rowChars_append_inj {row row' : Severity × Nat} {rest rest' : List Char}
    (h : rowChars row ++ rest = rowChars row' ++ rest') : row = row' ∧ rest = rest' := by
  obtain ⟨s, n⟩ := row
  obtain ⟨s', n'⟩ := row'
  simp only [rowChars, List.append_assoc, List.cons_append] at h
  have hbehind := List.append_cancel_left h
  obtain ⟨hname, hbehind⟩ :=
    Text.append_mark_inj (space_notMem_name s) (space_notMem_name s') hbehind
  have hbehind := List.append_cancel_left hbehind
  obtain ⟨hnumber, hbehind⟩ := Text.decimal_append_inj (by decide) hbehind
  have hrest : rest = rest' := (List.cons.inj hbehind).2
  have hseverity : s = s' := name_inj.mp (String.toList_inj.mp hname)
  exact ⟨Prod.ext hseverity hnumber, hrest⟩

theorem rows_inj {rows rows' : List (Severity × Nat)}
    (h : rows.flatMap rowChars = rows'.flatMap rowChars) :
    rows = rows' := by
  induction rows generalizing rows' with
  | nil =>
    cases rows' with
    | nil => rfl
    | cons row' rows' => simp [rowChars] at h
  | cons row rows ih =>
    cases rows' with
    | nil => simp [rowChars] at h
    | cons row' rows' =>
      obtain ⟨hrow, hrows⟩ := rowChars_append_inj h
      rw [hrow, ih hrows]

theorem tableHead_ne_nil : tableHead ≠ [] := by decide

theorem tableChars_inj {rows rows' : List (Severity × Nat)}
    (h : tableChars rows = tableChars rows') :
    rows = rows' := by
  have hhead (cs : List Char) : tableHead ++ cs ≠ [] := by
    intro hnil
    exact tableHead_ne_nil (List.append_eq_nil_iff.mp hnil).1
  cases rows with
  | nil =>
    cases rows' with
    | nil => rfl
    | cons row' rows' => exact absurd h.symm (hhead _)
  | cons row rows =>
    cases rows' with
    | nil => exact absurd h (hhead _)
    | cons row' rows' => exact rows_inj (List.append_cancel_left h)

theorem chars_inj : t.chars = t'.chars ↔ t = t' := by
  constructor
  · intro h
    obtain ⟨total, rows⟩ := t
    obtain ⟨total', rows'⟩ := t'
    simp only [chars, List.append_assoc] at h
    obtain ⟨htotal, hbehind⟩ := Text.decimal_append_inj (by decide) (List.append_cancel_left h)
    subst htotal
    have htable := List.append_cancel_left (List.append_cancel_left hbehind)
    rw [tableChars_inj htable]
  · rintro rfl
    rfl

theorem rowChars_endsVisibly (row : Severity × Nat) : Text.EndsVisibly (rowChars row) := by
  have hbar : Text.EndsVisibly [' ', '|'] := ⟨'|', by decide, by decide⟩
  have hnumber : Text.EndsVisibly ("| ".toList ++ Text.decimal row.2 ++ [' ', '|']) := hbar.append _
  exact (hnumber.append [' ']).append _

theorem tableChars_endsVisibly {rows : List (Severity × Nat)} (h : rows ≠ []) :
    Text.EndsVisibly (tableChars rows) := by
  have htable : tableChars rows = tableHead ++ rows.flatMap rowChars := by
    cases rows with
    | nil => exact absurd rfl h
    | cons row rows => rfl
  obtain ⟨front, row, hrows⟩ := (List.eq_nil_or_concat' rows).resolve_left h
  rw [htable, hrows, List.flatMap_append, List.flatMap_singleton]
  exact ((rowChars_endsVisibly row).append _).append _

/-- The words for a tally have a visible end: an `e` or an `s`, or the last bar of a table. -/
theorem chars_endsVisibly (t : Tally) : Text.EndsVisibly t.chars := by
  have hplural : Text.EndsVisibly ("open issue".toList ++ if t.total = 1 then [] else ['s']) := by
    by_cases hone : t.total = 1
    · rw [if_pos hone]
      exact ⟨'e', by decide, by decide⟩
    · rw [if_neg hone]
      exact ⟨'s', by decide, by decide⟩
  have hbehind : Text.EndsVisibly
      ("open issue".toList ++ (if t.total = 1 then [] else ['s']) ++ tableChars t.rows) := by
    by_cases hrows : t.rows = []
    · rw [hrows, tableChars, List.append_nil]
      exact hplural
    · exact (tableChars_endsVisibly hrows).append _
  rw [chars, ← List.singleton_append]
  exact (hbehind.append _).append _

end Tally

namespace Analysis

variable (a b : Analysis)

def tally : Tally where
  total := a.openIssues.length
  rows := (Severity.all.filter fun s => 0 < a.openCount s).map fun s => (s, a.openCount s)

theorem openCount_pos {a : Analysis} {s : Severity} :
    0 < a.openCount s ↔ ∃ i ∈ a.issues, i.isOpen = true ∧ i.severity = s := by
  simp [openCount, openIssues, List.countP_pos_iff, and_assoc]

theorem sum_openCount : (Severity.all.map a.openCount).sum = a.openIssues.length := by
  have hone (s : Severity) : (Severity.all.map fun t => if s = t then 1 else 0).sum = 1 := by
    cases s <;> rfl
  show (Severity.all.map fun s => a.openIssues.countP (·.severity = s)).sum = a.openIssues.length
  induction a.openIssues with
  | nil => rfl
  | cons i issues ih =>
    calc (Severity.all.map fun s => (i :: issues).countP (·.severity = s)).sum
        = (Severity.all.map fun s =>
            issues.countP (·.severity = s) + if i.severity = s then 1 else 0).sum := by
          simp only [List.countP_cons, decide_eq_true_eq]
      _ = (Severity.all.map fun s => issues.countP (·.severity = s)).sum +
            (Severity.all.map fun s => if i.severity = s then 1 else 0).sum := List.sum_map_add
      _ = (i :: issues).length := by rw [ih, hone, List.length_cons]

theorem sum_filter_openCount (ss : List Severity) :
    ((ss.filter fun s => 0 < a.openCount s).map a.openCount).sum = (ss.map a.openCount).sum := by
  induction ss with
  | nil => rfl
  | cons s ss ih =>
    by_cases hs : 0 < a.openCount s
    · simp [hs, ih]
    · have hzero : a.openCount s = 0 := Nat.eq_zero_of_not_pos hs
      simp [hzero, ih]

theorem sum_rows : (a.tally.rows.map Prod.snd).sum = a.tally.total := by
  calc (a.tally.rows.map Prod.snd).sum
      = ((Severity.all.filter fun s => 0 < a.openCount s).map a.openCount).sum := by
        rw [tally, List.map_map]
        rfl
    _ = a.openIssues.length := by rw [sum_filter_openCount, sum_openCount]

theorem severities_rows :
    a.tally.rows.map Prod.fst = Severity.all.filter fun s => 0 < a.openCount s := by
  rw [tally, List.map_map]
  exact List.map_id _

theorem mem_rows {a : Analysis} {s : Severity} {n : Nat} :
    (s, n) ∈ a.tally.rows ↔ 0 < n ∧ n = a.openCount s := by
  simp only [tally, List.mem_map, List.mem_filter, Severity.mem_all, true_and,
    decide_eq_true_eq, Prod.mk.injEq]
  constructor
  · rintro ⟨s', hpos, rfl, rfl⟩
    exact ⟨hpos, rfl⟩
  · rintro ⟨hpos, rfl⟩
    exact ⟨s, hpos, rfl, rfl⟩

/-- A severity without a row has the number zero, so that the rows tell all numbers. -/
theorem tally_eq_iff {a b : Analysis} : a.tally = b.tally ↔ ∀ s, a.openCount s = b.openCount s := by
  constructor
  · intro h s
    have hrows (n : Nat) : (0 < n ∧ n = a.openCount s) ↔ (0 < n ∧ n = b.openCount s) := by
      rw [← mem_rows, ← mem_rows, h]
    have ha := hrows (a.openCount s)
    have hb := hrows (b.openCount s)
    omega
  · intro h
    have hcounts : a.openCount = b.openCount := funext h
    have htotal : a.openIssues.length = b.openIssues.length := by
      rw [← sum_openCount, ← sum_openCount, hcounts]
    rw [tally, tally, hcounts, htotal]

theorem break_cons_flatMap {α : Type} (f : α → List Char) (xs : List α) :
    '\n' :: xs.flatMap (fun x => f x ++ ['\n']) = xs.flatMap (fun x => '\n' :: f x) ++ ['\n'] := by
  induction xs with
  | nil => rfl
  | cons x xs ih =>
    rw [List.flatMap_cons, List.flatMap_cons, List.append_assoc, List.append_assoc, ← ih]
    simp

def broken (lines : List String) : List Char := lines.flatMap fun line => line.toList ++ ['\n']

theorem broken_append (front back : List String) :
    broken (front ++ back) = broken front ++ broken back :=
  List.flatMap_append

theorem broken_cons (line : String) (lines : List String) :
    broken (line :: lines) = line.toList ++ '\n' :: broken lines := by
  rw [broken, List.flatMap_cons, List.append_assoc]
  rfl

theorem broken_opening :
    broken (["## Analysis Details", "", a.gate.status.verdict, ""] ++ a.failedConditionLines) =
      a.gate.opening := by
  have htitle : broken ["## Analysis Details", ""] = "## Analysis Details\n\n".toList := by decide
  have hverdict (s : String) : broken [s, ""] = s.toList ++ "\n\n".toList := broken_cons s [""]
  have hfailed : broken a.failedConditionLines =
      if a.gate.failedConditions = [] then []
      else "### Failed conditions\n\n".toList ++
        a.gate.failedConditions.flatMap (fun c => c.line.toList ++ ['\n']) ++ ['\n'] := by
    rw [failedConditionLines]
    cases a.gate.failedConditions with
    | nil => rfl
    | cons c cs =>
      have hhead : broken ["### Failed conditions", ""] =
        "### Failed conditions\n\n".toList := by decide
      have hlines (cs : List GateCondition) :
          broken (cs.map GateCondition.line) = cs.flatMap fun c => c.line.toList ++ ['\n'] := by
        rw [broken, List.flatMap_map]
      rw [broken_append, broken_append, hhead, hlines, if_neg (List.cons_ne_nil c cs)]
      rfl
  calc broken (["## Analysis Details", "", a.gate.status.verdict, ""] ++ a.failedConditionLines)
      = broken ["## Analysis Details", ""] ++ broken [a.gate.status.verdict, ""] ++
          broken a.failedConditionLines := by
        rw [← broken_append, ← broken_append]
        rfl
    _ = a.gate.opening := by
        rw [htitle, hverdict, hfailed, ← List.append_assoc]
        unfold Gate.opening
        congr 1

theorem countLine_toList (row : Severity × Nat) :
    '\n' :: (countLine row.1 row.2).toList = Tally.rowChars row := by
  simp [countLine, Tally.rowChars]

theorem broken_counts (rows : List (Severity × Nat)) :
    '\n' :: broken (rows.map fun row => countLine row.1 row.2) =
      rows.flatMap Tally.rowChars ++ ['\n'] := by
  rw [broken, List.flatMap_map, break_cons_flatMap]
  congr 2
  exact funext countLine_toList

theorem totalLine_toList (n : Nat) :
    (totalLine n).toList = "### ".toList ++ Text.decimal n ++
      ' ' :: ("open issue".toList ++ if n = 1 then [] else ['s']) := by
  by_cases hone : n = 1 <;> simp [totalLine, hone]

theorem countLines_eq (h : a.openIssues ≠ []) :
    a.countLines = ["| Severity | Count |", "|---|---:|"] ++
      a.tally.rows.map (fun row => countLine row.1 row.2) ++ [""] := by
  have hsome : a.openIssues.isEmpty = false := by simpa using h
  rw [countLines, if_neg (by simp [hsome]), tally, List.map_map]
  rfl

theorem rows_eq_nil_iff {a : Analysis} : a.tally.rows = [] ↔ a.openIssues = [] := by
  have hsum := sum_rows a
  constructor
  · intro hrows
    rw [hrows] at hsum
    exact List.length_eq_zero_iff.mp hsum.symm
  · intro hnone
    simp [tally, openCount, hnone]

/-- With the line breaks before it the table is that of the tally, and the blank line behind it
stays blank. -/
theorem broken_countLines :
    ['\n', '\n'] ++ broken a.countLines = Tally.tableChars a.tally.rows ++ ['\n', '\n'] := by
  by_cases hnone : a.openIssues = []
  · have hlines : a.countLines = [] := by simp [countLines, hnone]
    rw [hlines, rows_eq_nil_iff.mpr hnone]
    rfl
  · have hrows : a.tally.rows ≠ [] := mt rows_eq_nil_iff.mp hnone
    obtain ⟨row, rows, hrows⟩ := List.exists_cons_of_ne_nil hrows
    have hhead : ['\n', '\n'] ++ broken ["| Severity | Count |", "|---|---:|"] =
        Tally.tableHead ++ ['\n'] := by
      decide
    have hcounts := broken_counts a.tally.rows
    calc ['\n', '\n'] ++ broken a.countLines
        = Tally.tableHead ++
            '\n' :: broken (a.tally.rows.map fun row => countLine row.1 row.2) ++ ['\n'] := by
          rw [countLines_eq a hnone, broken_append, broken_append, ← List.append_assoc,
            ← List.append_assoc, hhead, List.append_assoc Tally.tableHead]
          rfl
      _ = Tally.tableChars a.tally.rows ++ ['\n', '\n'] := by
          rw [hcounts, hrows, Tally.tableChars]
          simp only [List.append_assoc]
          rfl

theorem broken_tally :
    broken ([totalLine a.openIssues.length, ""] ++ a.countLines) =
      a.tally.chars ++ ['\n', '\n'] := by
  have htotal : broken [totalLine a.openIssues.length, ""] =
      (totalLine a.openIssues.length).toList ++ ['\n', '\n'] := broken_cons _ [""]
  rw [broken_append, htotal, List.append_assoc, broken_countLines, totalLine_toList, Tally.chars]
  simp only [List.append_assoc, List.cons_append]
  rfl

/-- The link stands one line behind the tally, and the line breaks at the end are all that trimming
takes. -/
theorem broken_link :
    ∃ breaks, (∀ c ∈ breaks, Text.isBlankChar c = true) ∧
      ['\n', '\n'] ++ broken
        (a.gate.dashboard.toList.map fun url => "[View the full report](" ++ url ++ ")") =
        a.gate.closing ++ breaks := by
  have hbreak : Text.isBlankChar '\n' = true := by decide
  cases hdashboard : a.gate.dashboard with
  | none =>
    refine ⟨['\n', '\n'], by simp [hbreak], ?_⟩
    rw [Gate.closing, hdashboard]
    rfl
  | some url =>
    refine ⟨['\n'], by simp [hbreak], ?_⟩
    rw [Gate.closing, hdashboard, Option.toList_some, List.map_singleton, broken_cons]
    simp [broken]

theorem tally_closing_endsVisibly : Text.EndsVisibly (a.tally.chars ++ a.gate.closing) := by
  cases hdashboard : a.gate.dashboard with
  | none =>
    have hnone : a.gate.closing = [] := by simp [Gate.closing, hdashboard]
    rw [hnone, List.append_nil]
    exact a.tally.chars_endsVisibly
  | some url =>
    have hbracket : Text.EndsVisibly a.gate.closing := by
      have hend : Text.EndsVisibly [')'] := ⟨')', by decide, by decide⟩
      rw [Gate.closing, hdashboard]
      exact hend.append _
    exact hbracket.append _

theorem summary_toList : a.summary.toList = a.gate.opening ++ a.tally.chars ++ a.gate.closing := by
  obtain ⟨breaks, hbreaks, hlink⟩ := broken_link a
  have hlines : broken a.summaryLines =
      a.gate.opening ++ a.tally.chars ++ a.gate.closing ++ breaks := by
    calc broken a.summaryLines
        = a.gate.opening ++ (a.tally.chars ++ ['\n', '\n']) ++
            broken (a.gate.dashboard.toList.map fun url =>
              "[View the full report](" ++ url ++ ")") := by
          rw [summaryLines, broken_append, List.append_assoc _ [_, _] a.countLines,
            broken_append, broken_opening, broken_tally]
      _ = a.gate.opening ++ a.tally.chars ++ a.gate.closing ++ breaks := by
          rw [List.append_assoc, List.append_assoc a.tally.chars, hlink]
          simp only [List.append_assoc]
  have hvisible : Text.EndsVisibly (a.gate.opening ++ a.tally.chars ++ a.gate.closing) := by
    rw [List.append_assoc]
    exact (tally_closing_endsVisibly a).append _
  rw [summary, String.toList_ofList]
  exact (congrArg Text.trimEndChars hlines).trans (hvisible.trimEndChars_append hbreaks)

theorem openCount_eq (s : Severity) :
    a.openCount s = a.issues.countP fun i => i.severity = s && i.isOpen := by
  rw [openCount, openIssues, List.countP_filter]

section

variable {a b : Analysis}

theorem openCount_of_perm (h : a.issues.Perm b.issues) (s : Severity) :
    a.openCount s = b.openCount s := by
  rw [openCount_eq, openCount_eq]
  exact h.countP_eq _

/-- An issue counts for its severity and its status, whatever else is known of it. -/
theorem openCount_of_forall₂
    (h : List.Forall₂ (fun i j : Issue => i.severity = j.severity ∧
      i.status = j.status) a.issues b.issues)
    (s : Severity) : a.openCount s = b.openCount s := by
  rw [openCount_eq, openCount_eq]
  generalize a.issues = issues at h
  generalize b.issues = issues' at h
  induction h with
  | nil => rfl
  | cons hij _ ih =>
    obtain ⟨hseverity, hstatus⟩ := hij
    rw [List.countP_cons, List.countP_cons, ih, hseverity, Issue.isOpen, Issue.isOpen, hstatus]

theorem openCount_of_settled {front back : List Issue} {i : Issue}
    (ha : a.issues = front ++ i :: back) (hb : b.issues = front ++ back)
    (hi : i.status = .resolved ∨ i.status = .closed) (s : Severity) :
    a.openCount s = b.openCount s := by
  have hclosed : i.isOpen = false := by
    rcases hi with h | h <;> rw [Issue.isOpen, h] <;> rfl
  rw [openCount_eq, openCount_eq, ha, hb, List.countP_append, List.countP_append,
    List.countP_cons, hclosed, Bool.and_false]
  rfl

/-- Beside the same gate, the counts are all that a summary depends on, and it shows them. -/
theorem summary_eq_iff (hgate : a.gate = b.gate) :
    a.summary = b.summary ↔ ∀ s, a.openCount s = b.openCount s := by
  rw [← tally_eq_iff, ← String.toList_inj, summary_toList, summary_toList, hgate]
  constructor
  · intro h
    exact Tally.chars_inj.mp (List.append_cancel_left (List.append_cancel_right h))
  · intro h
    rw [h]

end

/-- Two summaries beside the same gate are equal exactly if the same number of issues is open at
each severity: not the order of the issues, not what else is known of them, and no issue that is
settled. Each shows one tally, of all open issues and of those of each severity that has some, in
the order of the severities; and it has a visible end. -/
theorem summary_shows_counts :
    (∀ a b : Analysis, a.gate = b.gate →
      (a.summary = b.summary ↔ ∀ s, a.openCount s = b.openCount s)) ∧
      (∀ a b : Analysis, a.gate = b.gate →
        (a.issues.Perm b.issues ∨
          List.Forall₂ (fun i j => i.severity = j.severity ∧
            i.status = j.status) a.issues b.issues ∨
          ∃ front i back, (i.status = .resolved ∨ i.status = .closed) ∧
            a.issues = front ++ i :: back ∧ b.issues = front ++ back) →
        a.summary = b.summary) ∧
      ∀ a : Analysis, Text.EndsVisibly a.summary.toList ∧
        ∃ t : Tally, (∀ t', a.summary.toList =
          a.gate.opening ++ t'.chars ++ a.gate.closing ↔ t' = t) ∧
          t.total = (t.rows.map Prod.snd).sum ∧
          (t.rows.map Prod.fst).Sublist Severity.all ∧
          (∀ s, s ∈ t.rows.map Prod.fst ↔ ∃ i ∈ a.issues, i.isOpen = true ∧ i.severity = s) ∧
          ∀ s n, (s, n) ∈ t.rows → n = a.openCount s := by
  refine ⟨fun a b => summary_eq_iff, ?_, ?_⟩
  · intro a b hgate hissues
    apply (summary_eq_iff hgate).mpr
    rcases hissues with hperm | hchanged | ⟨front, i, back, hsettled, ha, hb⟩
    · exact openCount_of_perm hperm
    · exact openCount_of_forall₂ hchanged
    · exact openCount_of_settled ha hb hsettled
  · intro a
    refine ⟨?_, a.tally, ?_, (sum_rows a).symm, ?_, ?_, ?_⟩
    · rw [summary_toList, List.append_assoc]
      exact (tally_closing_endsVisibly a).append _
    · intro t'
      rw [summary_toList]
      constructor
      · intro h
        exact Tally.chars_inj.mp (List.append_cancel_left (List.append_cancel_right h)).symm
      · rintro rfl
        rfl
    · rw [severities_rows]
      exact List.filter_sublist
    · intro s
      rw [severities_rows, ← openCount_pos]
      simp [Severity.mem_all]
    · intro s n hmem
      exact (mem_rows.mp hmem).2

def threeOpen : Analysis :=
  ⟨[⟨"overflow", .major, .opened, none, some "./src\\lib.rs", some 12⟩,
      ⟨"gone", .minor, .closed, none, some "src/lib.rs", some 3⟩,
      ⟨"typo", .info, .reopened, none, none, some 7⟩,
      ⟨"leak", .major, .confirmed, none, some "src/io.rs", none⟩],
    ⟨.failed, [⟨"coverage", "71", "80", false⟩], none⟩⟩

example : threeOpen.summary =
    "## Analysis Details\n\n**Quality Gate failed**\n\n### Failed conditions\n\n" ++
      "- `coverage`: 71 (threshold 80)\n\n### 3 open issues\n\n| Severity | Count |\n|---|---:|\n" ++
      "| MAJOR | 2 |\n| INFO | 1 |" := by decide +kernel

theorem threeOpen_summary :
    (⟨threeOpen.issues.reverse, threeOpen.gate⟩ : Analysis).summary = threeOpen.summary ∧
      (⟨threeOpen.issues.map fun i => ⟨"", i.severity, i.status, none, none, none⟩,
        threeOpen.gate⟩ :
        Analysis).summary = threeOpen.summary ∧
      (⟨threeOpen.issues.take 1 ++ threeOpen.issues.drop 2, threeOpen.gate⟩ : Analysis).summary =
        threeOpen.summary ∧
      (⟨threeOpen.issues.dropLast, threeOpen.gate⟩ : Analysis).summary ≠ threeOpen.summary := by
  obtain ⟨hcounts, hsame, -⟩ := summary_shows_counts
  refine ⟨?_, ?_, ?_, ?_⟩
  · exact hsame _ _ rfl (Or.inl (List.reverse_perm _))
  · apply hsame _ _ rfl
    right
    left
    simp [threeOpen]
  · have hclosed :=
      hsame threeOpen ⟨threeOpen.issues.take 1 ++ threeOpen.issues.drop 2, threeOpen.gate⟩ rfl
    symm
    apply hclosed
    right
    right
    exact ⟨threeOpen.issues.take 1, ⟨"gone", .minor, .closed, none, some "src/lib.rs", some 3⟩,
      threeOpen.issues.drop 2, Or.inr rfl, rfl, rfl⟩
  · intro h
    have hmajor := (hcounts ⟨threeOpen.issues.dropLast, threeOpen.gate⟩ threeOpen rfl).mp h .major
    exact absurd hmajor (by decide)

end Analysis
end PullDecoration
