import PullDecoration.Analysis.Issue
import PullDecoration.Proofs.Text.Trim

/-! The path of an issue as code hosts use it. Trimmed and with forward slashes it parts in one way
into pieces that stay at the root and a rest that does not begin with one; the rest is the path, and
where nothing is left there is none. So it does not matter with how many such pieces, and with which
slashes, a path is spelled. -/
namespace PullDecoration
namespace Issue

variable {i : Issue} {cs front rest : List Char}

def rootPieces : List (List Char) := [['/'], ['.', '/']]

def spelledPieces : List (List Char) := [['/'], ['\\'], ['.', '/'], ['.', '\\']]

/-- Some of the pieces one after the other, maybe none. -/
def MadeOf (pieces : List (List Char)) (cs : List Char) : Prop :=
  ∃ ps : List (List Char), (∀ p ∈ ps, p ∈ pieces) ∧ cs = ps.flatten

/-- Pieces that stay at the root are followed by the rest, which begins with none. -/
structure IsRest (cs rest : List Char) : Prop where
  parted : ∃ front, MadeOf rootPieces front ∧ cs = front ++ rest
  bare : ∀ p ∈ rootPieces, ¬ p <+: rest

def slashed (file : String) : List Char :=
  (Text.trim file).toList.map fun c => if c = '\\' then '/' else c

theorem pathChars_eq (file : String) : pathChars file = dropRootPieces (slashed file) := by
  rw [slashed, Text.trim_toList]
  rfl

theorem MadeOf.nil (pieces : List (List Char)) : MadeOf pieces [] :=
  ⟨[], List.forall_mem_nil _, rfl⟩

theorem MadeOf.cons {pieces : List (List Char)} {p : List Char} (hp : p ∈ pieces)
    (h : MadeOf pieces cs) :
    MadeOf pieces (p ++ cs) := by
  obtain ⟨ps, hps, rfl⟩ := h
  exact ⟨p :: ps, List.forall_mem_cons.mpr ⟨hp, hps⟩, rfl⟩

theorem dropRootPieces_of_bare (h : ∀ p ∈ rootPieces, ¬ p <+: cs) : dropRootPieces cs = cs := by
  fun_cases dropRootPieces cs with
  | case1 cs => exact absurd (List.prefix_append ['/'] cs) (h _ (by decide))
  | case2 cs => exact absurd (List.prefix_append ['.', '/'] cs) (h _ (by decide))
  | case3 => rfl

theorem isRest_dropRootPieces (cs : List Char) : IsRest cs (dropRootPieces cs) := by
  fun_induction dropRootPieces cs with
  | case1 cs ih =>
    obtain ⟨front, hfront, hcs⟩ := ih.parted
    refine ⟨⟨['/'] ++ front, hfront.cons (by decide), ?_⟩, ih.bare⟩
    rw [List.append_assoc, ← hcs, List.singleton_append]
  | case2 cs ih =>
    obtain ⟨front, hfront, hcs⟩ := ih.parted
    refine ⟨⟨['.', '/'] ++ front, hfront.cons (by decide), ?_⟩, ih.bare⟩
    rw [List.append_assoc, ← hcs]
    rfl
  | case3 cs hslash hdot =>
    refine ⟨⟨[], .nil _, rfl⟩, ?_⟩
    intro p hp hprefix
    obtain ⟨behind, hcs⟩ := hprefix
    rcases List.mem_pair.mp hp with rfl | rfl
    · exact hslash behind hcs.symm
    · exact hdot behind hcs.symm

theorem dropRootPieces_append (h : MadeOf rootPieces front) (cs : List Char) :
    dropRootPieces (front ++ cs) = dropRootPieces cs := by
  obtain ⟨ps, hps, rfl⟩ := h
  induction ps with
  | nil => rfl
  | cons p ps ih =>
    obtain ⟨hp, hbehind⟩ := List.forall_mem_cons.mp hps
    rw [List.flatten_cons, List.append_assoc]
    rcases List.mem_pair.mp hp with rfl | rfl
    · exact ih hbehind
    · exact ih hbehind

theorem isRest_iff : IsRest cs rest ↔ rest = dropRootPieces cs := by
  constructor
  · intro h
    obtain ⟨front, hfront, rfl⟩ := h.parted
    rw [dropRootPieces_append hfront, dropRootPieces_of_bare h.bare]
  · rintro rfl
    exact isRest_dropRootPieces cs

theorem dropRootPieces_eq_nil : dropRootPieces cs = [] ↔ MadeOf rootPieces cs := by
  constructor
  · intro h
    obtain ⟨front, hfront, hcs⟩ := (isRest_dropRootPieces cs).parted
    rw [hcs, h, List.append_nil]
    exact hfront
  · intro h
    have hdrop := dropRootPieces_append h []
    rw [List.append_nil] at hdrop
    rw [hdrop]
    rfl

theorem sourcePath_eq_none {file : String} (hfile : i.file = some file) :
    i.sourcePath = none ↔ MadeOf rootPieces (slashed file) := by
  rw [sourcePath, hfile, Option.bind_some, Identifier.ofString?_eq_none,
    String.ofList_eq_empty_iff, pathChars_eq, dropRootPieces_eq_nil]

theorem sourcePath_eq_some {file : String} (hfile : i.file = some file) {p : SourcePath} :
    i.sourcePath = some p ↔ IsRest (slashed file) p.text.toList := by
  rw [sourcePath, hfile, Option.bind_some, Identifier.ofString?_eq_some, isRest_iff,
    pathChars_eq, eq_comm, ← String.toList_inj, String.toList_ofList]

theorem isBlankChar_forwardSlash (c : Char) :
    Text.isBlankChar (forwardSlash c) = Text.isBlankChar c := by
  by_cases hc : c = '\\'
  · rw [hc]
    decide
  · rw [forwardSlash, if_neg hc]

theorem backslash_notMem_map (cs : List Char) : '\\' ∉ cs.map forwardSlash := by
  intro h
  obtain ⟨c, -, hc⟩ := List.mem_map.mp h
  by_cases hslash : c = '\\'
  · rw [forwardSlash, if_pos hslash] at hc
    exact absurd hc (by decide)
  · rw [forwardSlash, if_neg hslash] at hc
    exact hslash hc

/-- What a trimmed path ends with is no blank, so that no end of it is one. -/
theorem isBlank_of_suffix_slashed {file text : String}
    (h : text.toList <:+ slashed file) (hne : text ≠ "") :
    Text.isBlank text = false := by
  have hslashed : slashed file = (Text.trimChars file.toList).map forwardSlash := by
    rw [slashed, Text.trim_toList]
    rfl
  rw [hslashed] at h
  obtain ⟨ds, hds, htext⟩ := List.suffix_map_iff.mp h
  have hnil : ds ≠ [] := by
    rintro rfl
    exact hne (String.toList_eq_nil_iff.mp htext)
  rw [← List.dropLast_concat_getLast hnil] at hds htext
  have hlast := Text.last_of_suffix_trimChars hds
  simp [Text.isBlank, htext, isBlankChar_forwardSlash, hlast]

theorem sourcePath_normal {p : SourcePath} (h : i.sourcePath = some p) :
    Text.isBlank p.text = false ∧ (∀ piece ∈ rootPieces, ¬ piece <+: p.text.toList) ∧
    '\\' ∉ p.text.toList := by
  cases hfile : i.file with
  | none =>
    rw [sourcePath, hfile] at h
    cases h
  | some file =>
    have hrest := (sourcePath_eq_some hfile).mp h
    obtain ⟨front, -, hparted⟩ := hrest.parted
    have hsuffix : p.text.toList <:+ slashed file := hparted ▸ List.suffix_append front _
    refine ⟨isBlank_of_suffix_slashed hsuffix p.text_ne_empty, hrest.bare, ?_⟩
    intro hmem
    have hslashed : '\\' ∈ slashed file := hsuffix.subset hmem
    exact backslash_notMem_map _ hslashed

theorem MadeOf.visible (h : MadeOf spelledPieces front) :
    ∀ c ∈ front, Text.isBlankChar c = false := by
  obtain ⟨ps, hps, rfl⟩ := h
  intro c hc
  obtain ⟨p, hp, hmem⟩ := List.mem_flatten.mp hc
  have hpieces : ∀ p ∈ spelledPieces, p.all (fun c => !Text.isBlankChar c) = true := by decide
  have hp := List.all_eq_true.mp (hpieces p (hps p hp)) c hmem
  simpa using hp

theorem MadeOf.map_forwardSlash (h : MadeOf spelledPieces front) :
    MadeOf rootPieces (front.map forwardSlash) := by
  obtain ⟨ps, hps, rfl⟩ := h
  have hpieces : ∀ p ∈ spelledPieces, p.map forwardSlash ∈ rootPieces := by decide
  refine ⟨ps.map (·.map forwardSlash), ?_, List.map_flatten⟩
  intro q hq
  obtain ⟨p, hp, rfl⟩ := List.mem_map.mp hq
  exact hpieces p (hps p hp)

theorem pathChars_append {lead path : String} (hlead : MadeOf spelledPieces lead.toList)
    (hpath : ∀ c ∈ path.toList.head?, Text.isBlankChar c = false) :
    pathChars (lead ++ path) = pathChars path ∧
      pathChars path = dropRootPieces ((Text.trimEndChars path.toList).map forwardSlash) := by
  have hhead : ∀ c ∈ (lead.toList ++ path.toList).head?, Text.isBlankChar c = false := by
    intro c hc
    by_cases hnil : lead.toList = []
    · rw [hnil] at hc
      exact hpath c hc
    · rw [List.head?_append_of_ne_nil _ hnil] at hc
      exact hlead.visible c (List.mem_of_mem_head? hc)
  constructor
  · rw [pathChars, pathChars, String.toList_append, Text.trimChars, Text.trimChars,
      Text.trimStartChars_of_head hhead, Text.trimStartChars_of_head hpath,
      Text.trimEndChars_append hlead.visible, List.map_append,
      dropRootPieces_append hlead.map_forwardSlash]
  · rw [pathChars, Text.trimChars, Text.trimStartChars_of_head hpath]

theorem mem_spelledPieces {cs : List Char} (h : cs.map forwardSlash ∈ rootPieces) :
    cs ∈ spelledPieces := by
  have hslash {c : Char} (hc : forwardSlash c = '/') : c = '/' ∨ c = '\\' := by
    by_cases hback : c = '\\'
    · exact .inr hback
    · rw [forwardSlash, if_neg hback] at hc
      exact .inl hc
  have hpoint {c : Char} (hc : forwardSlash c = '.') : c = '.' := by
    by_cases hback : c = '\\'
    · rw [hback] at hc
      exact absurd hc (by decide)
    · rwa [forwardSlash, if_neg hback] at hc
  rcases List.mem_pair.mp h with h | h
  · obtain ⟨c, rfl, hc⟩ := List.map_eq_singleton_iff.mp h
    rcases hslash hc with rfl | rfl <;> decide
  · obtain ⟨c, ds, rfl, hc, hds⟩ := List.map_eq_cons_iff.mp h
    obtain ⟨d, rfl, hd⟩ := List.map_eq_singleton_iff.mp hds
    rw [hpoint hc]
    rcases hslash hd with rfl | rfl <;> decide

/-- Of a path that begins with no piece only blanks at its end are lost. -/
theorem pathChars_of_bare {path : String}
    (hpath : ∀ c ∈ path.toList.head?, Text.isBlankChar c = false)
    (hbare : ∀ piece ∈ spelledPieces, ¬ piece <+: path.toList) :
    pathChars path = (Text.trimEndChars path.toList).map forwardSlash := by
  have hnone : MadeOf spelledPieces "".toList := MadeOf.nil _
  rw [(pathChars_append hnone hpath).2]
  apply dropRootPieces_of_bare
  intro piece hpiece hprefix
  obtain ⟨cs, hcs, rfl⟩ := List.prefix_map_iff.mp hprefix
  have htrimmed : Text.trimEndChars path.toList <+: path.toList :=
    List.rdropWhile_prefix Text.isBlankChar _
  exact hbare cs (mem_spelledPieces hpiece) (hcs.trans htrimmed)

/-- The path of an issue is what is left of its file's path, trimmed and with slashes only, behind
all pieces that stay at the root; that is one rest, and without one there is no path. So a path is
never blank, begins with no piece and has no backslash. All spellings of a path that begins visibly
give the same one, which is the path itself, but for its slashes and the blanks at its end, unless
it begins with a piece. -/
theorem sourcePath_exact :
    (∀ i : Issue, i.file = none → i.sourcePath = none) ∧
    (∀ (i : Issue) (file : String), i.file = some file →
      (∃! rest, IsRest (slashed file) rest) ∧
      (i.sourcePath = none ↔ MadeOf rootPieces (slashed file)) ∧
      ∀ p : SourcePath, i.sourcePath = some p ↔ IsRest (slashed file) p.text.toList) ∧
    (∀ (i : Issue) (p : SourcePath), i.sourcePath = some p →
      Text.isBlank p.text = false ∧ (∀ piece ∈ rootPieces, ¬ piece <+: p.text.toList) ∧
      '\\' ∉ p.text.toList) ∧
    ∀ (i : Issue) (lead path : String), MadeOf spelledPieces lead.toList →
      (∀ c ∈ path.toList.head?, Text.isBlankChar c = false) →
      { i with file := some (lead ++ path) }.sourcePath = { i with file := some path }.sourcePath ∧
      ((∀ piece ∈ spelledPieces, ¬ piece <+: path.toList) →
        { i with file := some path }.sourcePath =
        Identifier.ofString?
          (String.ofList ((Text.trimEndChars path.toList).map forwardSlash))) := by
  refine ⟨?_, ?_, fun i p => sourcePath_normal, ?_⟩
  · intro i hfile
    rw [sourcePath, hfile, Option.bind_none]
  · intro i file hfile
    refine ⟨⟨_, isRest_dropRootPieces _, fun rest => isRest_iff.mp⟩,
      sourcePath_eq_none hfile, fun p => ?_⟩
    exact sourcePath_eq_some hfile
  · intro i lead path hlead hpath
    constructor
    · simp only [sourcePath, Option.bind_some, (pathChars_append hlead hpath).1]
    · intro hbare
      simp only [sourcePath, Option.bind_some, pathChars_of_bare hpath hbare]

def windingIssue : Issue := ⟨"unused", .minor, .opened, none, some " .\\/src\\main.rs\t", none⟩

theorem windingIssue_sourcePath :
    windingIssue.sourcePath = some ⟨"src/main.rs", by decide⟩ ∧
      IsRest (slashed " .\\/src\\main.rs\t") "src/main.rs".toList ∧
      Text.isBlank "src/main.rs" = false ∧
      { windingIssue with file := some (".\\/" ++ "src\\main.rs ") }.sourcePath =
        some ⟨"src/main.rs", by decide⟩ := by
  obtain ⟨-, hfile, hnormal, hspelled⟩ := sourcePath_exact
  have hpath : windingIssue.sourcePath = some ⟨"src/main.rs", by decide⟩ := by decide
  have hlead : MadeOf spelledPieces ".\\/".toList := ⟨[['.', '\\'], ['/']], by decide, by decide⟩
  have hvisible : ∀ c ∈ "src\\main.rs ".toList.head?, Text.isBlankChar c = false := by
    intro c hc
    obtain rfl : 's' = c := Option.some.inj hc
    decide
  obtain ⟨hsame, hbare⟩ := hspelled windingIssue ".\\/" "src\\main.rs " hlead hvisible
  refine ⟨hpath, ((hfile windingIssue _ rfl).2.2 _).mp hpath,
    (hnormal windingIssue _ hpath).1, hsame.trans ?_⟩
  rw [hbare (by decide)]
  decide

end Issue
end PullDecoration
