import PullDecoration.Proofs.Url.Denotation

/-! Texts that stand for themselves as segments of a path. Put behind a root, texts become segments
that denote them exactly if each of them is faithful and the last one ends visibly. What shows it is
a count of octets: to clean a text, to cut it, to resolve its dots and to decode it can only lose
some, and where nothing is lost nothing was changed. -/
namespace PullDecoration
namespace Url

/-- Characters that can be part of a segment: they neither end it or the path, nor are they cleaned
away. -/
def isSegmentText (c : Char) : Bool := !isSlash true c && isPathText c && isKept c

/-- The text stands for itself where it is a segment of a path. -/
structure IsFaithful (t : List Char) : Prop where
  inside : ∀ c ∈ t, isSegmentText c = true
  lacksOctets : LacksOctets t
  notDot : t ≠ ['.']
  notDots : t ≠ ['.', '.']

instance (t : List Char) : Decidable (IsFaithful t) :=
  decidable_of_iff (t.all isSegmentText = true ∧ Denotes t t ∧ t ≠ ['.'] ∧ t ≠ ['.', '.'])
    ⟨fun h => ⟨List.all_eq_true.mp h.1, denotes_self_iff.mp h.2.1, h.2.2.1, h.2.2.2⟩,
      fun h => ⟨List.all_eq_true.mpr h.inside, denotes_self_iff.mpr h.lacksOctets,
        h.notDot, h.notDots⟩⟩

/-- The last of the texts does not end in a control or a blank, which would be cleaned away. -/
def EndsVisibly (ts : List (List Char)) : Prop := ∀ t ∈ ts.getLast?, ∀ c ∈ t.getLast?, ' ' < c

theorem isSegmentText_iff {c : Char} :
    isSegmentText c = true ↔ isSlash true c = false ∧ isPathText c = true ∧ isKept c = true := by
  simp [isSegmentText, and_assoc]

theorem IsPlain.faithful {t : List Char} (h : IsPlain t) : IsFaithful t := by
  refine ⟨fun c hc => ?_, ?_, h.notDot, h.notDots⟩
  · obtain ⟨hvisible, hslash, hquery, hfragment, -⟩ := unreserved_kept (h.unreserved c hc)
    exact isSegmentText_iff.mpr
      ⟨hslash, by simp [isPathText, hquery, hfragment], isKept_of_visible hvisible⟩
  · intro tail htail
    have hmem : '%' ∈ t := htail.subset List.mem_cons_self
    exact absurd rfl (unreserved_kept (h.unreserved _ hmem)).2.2.2.2.1

section Octets

variable {s t cs ds : List Char} {ss ts acc : List (List Char)}

def octets (ss : List (List Char)) : Nat := (ss.map fun s => (percentDecode s).length + 1).sum

def textOctets (ts : List (List Char)) : Nat := (ts.map fun t => (Utf8.encode t).length + 1).sum

@[simp] theorem octets_nil : octets [] = 0 := rfl

@[simp] theorem octets_cons (s : List Char) (ss : List (List Char)) :
    octets (s :: ss) = (percentDecode s).length + 1 + octets ss := by simp [octets]

@[simp] theorem octets_append (ss ts : List (List Char)) :
      octets (ss ++ ts) = octets ss + octets ts := by
  simp [octets]

@[simp] theorem octets_reverse (ss : List (List Char)) : octets ss.reverse = octets ss := by
  simp [octets, List.sum_reverse]

@[simp] theorem textOctets_nil : textOctets [] = 0 := rfl

@[simp] theorem textOctets_cons (t : List Char) (ts : List (List Char)) :
    textOctets (t :: ts) = (Utf8.encode t).length + 1 + textOctets ts := by simp [textOctets]

theorem octets_encoded (ss : List (List Char)) :
    octets (ss.map (percentEncode inPath)) = octets ss := by
  rw [octets, List.map_map]
  exact congrArg List.sum
    (List.map_congr_left fun s _ => congrArg (List.length · + 1) (percentDecode_percentEncode s))

theorem octets_of_denotes (h : List.Forall₂ Denotes ss ts) : octets ss = textOctets ts := by
  induction h with
  | nil => rfl
  | cons hdenotes _ ih => rw [octets_cons, textOctets_cons, ih, hdenotes]

theorem octets_le (ts : List (List Char)) : octets ts ≤ textOctets ts := by
  induction ts with
  | nil => exact Nat.le_refl _
  | cons t ts ih =>
    have ht := length_percentDecode_le t
    rw [octets_cons, textOctets_cons]
    omega

theorem denotes_of_octets (h : textOctets ts ≤ octets ts) : ∀ t ∈ ts, Denotes t t := by
  induction ts with
  | nil => exact List.forall_mem_nil _
  | cons t ts ih =>
    rw [octets_cons, textOctets_cons] at h
    have ht := length_percentDecode_le t
    have hts := octets_le ts
    refine List.forall_mem_cons.mpr ⟨?_, ih (by omega)⟩
    rcases denotes_or_shorter t with hself | hshorter
    · exact hself.2
    · omega

theorem eq_of_denotes (hself : ∀ s ∈ ss, Denotes s s)
    (hdenotes : List.Forall₂ Denotes (ss.map (percentEncode inPath)) ts) : ss = ts := by
  induction ss generalizing ts with
  | nil => exact (List.forall₂_nil_left_iff.mp hdenotes).symm
  | cons s ss ih =>
    obtain ⟨hs, hss⟩ := List.forall_mem_cons.mp hself
    obtain ⟨t, ts, ht, hts, rfl⟩ := List.forall₂_cons_left_iff.mp hdenotes
    have hencode : Utf8.encode s = Utf8.encode t := by rw [← hs, ← ht, percentDecode_percentEncode]
    rw [Utf8.encode_injective hencode, ih hss hts]

theorem textOctets_splitPath (cs : List Char) :
    textOctets (splitPath true cs) = (Utf8.encode cs).length + 1 := by
  induction cs with
  | nil => rfl
  | cons c cs ih =>
    rw [splitPath, Utf8.encode_cons, List.length_append]
    split
    · rename_i hslash
      have hone : (String.utf8EncodeChar c).length = 1 := by
        rcases (by simpa [isSlash] using hslash : c = '/' ∨ c = '\\') with rfl | rfl <;> rfl
      rw [textOctets_cons, ih, hone]
      rfl
    · cases hsplit : splitPath true cs with
      | nil => exact absurd hsplit (splitPath_ne_nil true cs)
      | cons s ss =>
        rw [hsplit, textOctets_cons] at ih
        rw [textOctets_cons, Utf8.encode_cons, List.length_append]
        omega

theorem noSlash_of_mem_splitPath (h : s ∈ splitPath true cs) : ∀ c ∈ s, isSlash true c = false := by
  induction cs generalizing s with
  | nil => simp_all [splitPath]
  | cons d cs ih =>
    rw [splitPath] at h
    split at h
    · rcases List.mem_cons.mp h with rfl | h
      · exact List.forall_mem_nil _
      · exact ih h
    · rename_i hslash
      cases hsplit : splitPath true cs with
      | nil => exact absurd hsplit (splitPath_ne_nil true cs)
      | cons s' ss =>
        rw [hsplit] at h ih
        rcases List.mem_cons.mp h with rfl | h
        · exact List.forall_mem_cons.mpr ⟨by simpa using hslash, ih List.mem_cons_self⟩
        · exact ih (List.mem_cons_of_mem _ h)

theorem percentDecode_dots (s : List Char) : percentDecode (dots s) = percentDecode s := by
  induction s using dots.induct with
  | case1 e rest he ih =>
    have hpoint (rest : List Char) : percentDecode ('.' :: rest) = 0x2E :: percentDecode rest := rfl
    rw [dots, if_pos he, hpoint, ih]
    rcases he with rfl | rfl <;> rfl
  | case2 e rest he => rw [dots, if_neg he]
  | case3 rest ih =>
    have hpoint (rest : List Char) : percentDecode ('.' :: rest) = 0x2E :: percentDecode rest := rfl
    rw [dots, hpoint, hpoint, ih]
  | case4 s hpercent hpoint =>
    rw [dots]
    · exact hpercent
    · exact hpoint

theorem kept_of_faithful (h : IsFaithful t) :
    isDoubleDot (percentEncode inPath t) = false ∧
    isSingleDot (percentEncode inPath t) = false := by
  have hdots : percentDecode (dots (percentEncode inPath t)) = Utf8.encode t := by
    rw [percentDecode_dots, percentDecode_percentEncode]
    exact denotes_self_iff.mpr h.lacksOctets
  constructor
  · refine decide_eq_false fun heq => h.notDots (Utf8.encode_injective ?_)
    rw [← hdots, heq]
    rfl
  · refine decide_eq_false fun heq => h.notDot (Utf8.encode_injective ?_)
    rw [← hdots, heq]
    rfl

theorem kept_or_fewer (acc ss : List (List Char)) :
    (∀ s ∈ ss, isDoubleDot s = false ∧ isSingleDot s = false) ∧
        octets (resolveDots acc ss) = octets acc + octets ss ∨
      octets (resolveDots acc ss) < octets acc + octets ss := by
  induction ss generalizing acc with
  | nil => exact .inl ⟨List.forall_mem_nil _, by simp [resolveDots]⟩
  | cons s ss ih =>
    -- A segment of dots has octets of its own, and at most an empty segment comes in its place.
    have hresolved {acc' : List (List Char)} (hs : 0 < (percentDecode s).length)
      (hacc : octets acc' ≤ octets acc) :
        octets (if ss.isEmpty then ([] :: acc').reverse else resolveDots acc' ss) <
          octets acc + octets (s :: ss) := by
      have hrest := ih acc'
      rw [octets_cons]
      split
      · have hempty : percentDecode [] = [] := rfl
        rw [octets_reverse, octets_cons, hempty, List.length_nil]
        omega
      · rcases hrest with ⟨-, hsame⟩ | hfewer <;> omega
    rw [resolveDots]
    split
    · rename_i hdouble
      have hoctets : percentDecode s = [0x2E, 0x2E] := by
        rw [← percentDecode_dots, of_decide_eq_true hdouble]
        rfl
      have hdropped : octets (acc.drop 1) ≤ octets acc := by
        cases acc with
        | nil => exact Nat.le_refl _
        | cons s acc => simp
      exact .inr (hresolved (by simp [hoctets]) hdropped)
    · rename_i hdouble
      split
      · rename_i hsingle
        have hoctets : percentDecode s = [0x2E] := by
          rw [← percentDecode_dots, of_decide_eq_true hsingle]
          rfl
        exact .inr (hresolved (by simp [hoctets]) (Nat.le_refl _))
      · rename_i hsingle
        have hs := And.intro (Bool.eq_false_of_not_eq_true hdouble)
          (Bool.eq_false_of_not_eq_true hsingle)
        have hrest := ih (s :: acc)
        rw [octets_cons] at hrest ⊢
        rcases hrest with ⟨hkept, hsame⟩ | hfewer
        · exact .inl ⟨List.forall_mem_cons.mpr ⟨hs, hkept⟩, by omega⟩
        · exact .inr (by omega)

end Octets

section Root

variable {ts : List (List Char)} {inner : List Char}

theorem chars_cons (t : List Char) (ts : List (List Char)) :
    (Path.segments (t :: ts)).chars = '/' :: (t ++ (Path.segments ts).chars) := by simp [Path.chars]

theorem length_encode_chars (ts : List (List Char)) :
    (Utf8.encode (Path.segments ts).chars).length = textOctets ts := by
  induction ts with
  | nil => rfl
  | cons t ts ih =>
    have hone : (String.utf8EncodeChar '/').length = 1 := rfl
    rw [chars_cons, Utf8.encode_cons, Utf8.encode_append, textOctets_cons,
      List.length_append, List.length_append, ih, hone]
    omega

theorem visible_append_slash (cs t : List Char) :
    (∀ c ∈ (cs ++ '/' :: t).getLast?, ' ' < c) ↔ ∀ c ∈ t.getLast?, ' ' < c := by
  have hslash : ' ' < '/' := by decide
  cases h : t.getLast? with
  | none => simp [List.getLast?_append, List.getLast?_cons, h, hslash]
  | some c => simp [List.getLast?_append, List.getLast?_cons, h]

theorem endsVisibly_iff (hinner : (Path.segments ts).chars = '/' :: inner) :
    EndsVisibly ts ↔ ∀ c ∈ inner.getLast?, ' ' < c := by
  rcases List.eq_nil_or_concat ts with rfl | ⟨front, t, rfl⟩
  · cases hinner
  · have hsplit : (Path.segments front).chars ++ '/' :: t = '/' :: inner := by
      rw [← hinner]
      simp [Path.chars]
    have hlast := visible_append_slash (Path.segments front).chars t
    rw [hsplit] at hlast
    simpa [EndsVisibly] using hlast.symm.trans (visible_append_slash [] inner)

theorem trimmed_sublist (cs : List Char) : (cs.reverse.dropWhile isOuter).reverse.Sublist cs := by
  simpa using (List.dropWhile_sublist isOuter (l := cs.reverse)).reverse

theorem cleanTail_sublist (cs : List Char) : (cleanTail cs).Sublist cs :=
  List.filter_sublist.trans (trimmed_sublist cs)

theorem kept_of_cleanTail {cs : List Char} (h : cleanTail cs = cs) :
    (∀ c ∈ cs.getLast?, ' ' < c) ∧ ∀ c ∈ cs, isKept c = true := by
  constructor
  · have hfiltered : (cleanTail cs).Sublist (cs.reverse.dropWhile isOuter).reverse :=
      List.filter_sublist
    rw [h] at hfiltered
    have htrimmed : cs.reverse.dropWhile isOuter = cs.reverse :=
      List.reverse_eq_iff.mp ((trimmed_sublist cs).antisymm hfiltered)
    have hfirst := List.head?_dropWhile_not isOuter cs.reverse
    rw [htrimmed, List.head?_reverse] at hfirst
    intro c hc
    rw [hc] at hfirst
    simpa [isOuter] using hfirst
  · intro c hc
    rw [← h, cleanTail] at hc
    exact (List.mem_filter.mp hc).2

theorem unchanged_of_octets {root : List (List Char)} {text : List Char} (hsub : text.Sublist inner)
    (hall : octets (resolveDots root.reverse ((splitPath true text).map (percentEncode inPath))) =
      octets root + ((Utf8.encode inner).length + 1)) :
    text = inner ∧ (∀ s ∈ splitPath true text, Denotes s s) ∧
      ∀ s ∈ (splitPath true text).map (percentEncode inPath), isDoubleDot s = false ∧
      isSingleDot s = false := by
  have hresolved := kept_or_fewer root.reverse ((splitPath true text).map (percentEncode inPath))
  have hencoded := octets_le (splitPath true text)
  have hsplit := textOctets_splitPath text
  have htext := Utf8.length_encode_le hsub
  rw [octets_encoded, octets_reverse] at hresolved
  rcases hresolved with ⟨hkept, hsame⟩ | hfewer
  · exact ⟨Utf8.eq_of_length_encode hsub (by omega), denotes_of_octets (by omega), hkept⟩
  · omega

theorem resolved_of_faithful (root : List (List Char))
    (hinner : (Path.segments ts).chars = '/' :: inner) (hfaithful : ∀ t ∈ ts, IsFaithful t)
    (hvisible : EndsVisibly ts) :
    cleanTail inner = inner ∧ (∀ c ∈ inner, isPathText c = true) ∧
      resolveDots root.reverse ((splitPath true inner).map (percentEncode inPath)) =
        root ++ ts.map (percentEncode inPath) := by
  have hchars : ∀ c ∈ (Path.segments ts).chars, isPathText c = true ∧ isKept c = true := by
    intro c hc
    obtain ⟨t, ht, hmem⟩ := List.mem_flatMap.mp hc
    rcases List.mem_cons.mp hmem with rfl | hmem
    · decide
    · exact (isSegmentText_iff.mp ((hfaithful t ht).inside c hmem)).2
  rw [hinner] at hchars
  have hsplit : splitPath true inner = ts := by
    cases ts with
    | nil => cases hinner
    | cons t ts =>
      rw [chars_cons] at hinner
      cases hinner
      have hslash : ∀ s ∈ t :: ts, ∀ c ∈ s, isSlash true c = false :=
        fun s hs c hc => (isSegmentText_iff.mp ((hfaithful s hs).inside c hc)).1
      exact splitPath_segments (hslash t List.mem_cons_self) fun s hs =>
        hslash s (List.mem_cons_of_mem t hs)
  have hkept : ∀ s ∈ ts.map (percentEncode inPath), isDoubleDot s = false ∧
      isSingleDot s = false := by
    intro s hs
    obtain ⟨t, ht, rfl⟩ := List.mem_map.mp hs
    exact kept_of_faithful (hfaithful t ht)
  refine ⟨?_, fun c hc => (hchars c (List.mem_cons_of_mem _ hc)).1, ?_⟩
  · exact cleanTail_eq_self ((endsVisibly_iff hinner).mp hvisible)
      fun c hc => (hchars c (List.mem_cons_of_mem _ hc)).2
  · rw [hsplit, resolveDots_plain hkept, List.reverse_reverse]

theorem faithful_of_resolved {root ss : List (List Char)}
    (hinner : (Path.segments ts).chars = '/' :: inner) (hdenotes : List.Forall₂ Denotes ss ts)
    (hresolved : resolveDots root.reverse
      ((splitPath true ((cleanTail inner).takeWhile isPathText)).map (percentEncode inPath)) =
        root ++ ss) :
    (∀ t ∈ ts, IsFaithful t) ∧ EndsVisibly ts := by
  have hsub : ((cleanTail inner).takeWhile isPathText).Sublist inner :=
    (List.takeWhile_sublist isPathText).trans (cleanTail_sublist inner)
  have hlength : textOctets ts = (Utf8.encode inner).length + 1 := by
    have hone : (String.utf8EncodeChar '/').length = 1 := rfl
    rw [← length_encode_chars, hinner, Utf8.encode_cons, List.length_append, hone, Nat.add_comm]
  have hall := congrArg octets hresolved
  rw [octets_append, octets_of_denotes hdenotes, hlength] at hall
  obtain ⟨htext, hself, hkept⟩ := unchanged_of_octets hsub hall
  rw [htext] at hresolved hself hkept
  rw [resolveDots_plain hkept, List.reverse_reverse] at hresolved
  have hpieces : splitPath true inner = ts := by
    rw [← List.append_cancel_left hresolved] at hdenotes
    exact eq_of_denotes hself hdenotes
  have hclean : cleanTail inner = inner := by
    have hcut := List.takeWhile_sublist (l := cleanTail inner) isPathText
    rw [htext] at hcut
    exact (cleanTail_sublist inner).antisymm hcut
  have hmarks : ∀ c ∈ inner, isPathText c = true := by
    rw [hclean] at htext
    exact List.takeWhile_eq_self_iff.mp htext
  obtain ⟨hlast, hinside⟩ := kept_of_cleanTail hclean
  rw [hpieces] at hself hkept
  refine ⟨fun t ht => ⟨fun c hc => ?_, denotes_self_iff.mp (hself t ht), ?_, ?_⟩,
    (endsVisibly_iff hinner).mpr hlast⟩
  · have hmem : c ∈ '/' :: inner := by
      rw [← hinner]
      exact List.mem_flatMap.mpr ⟨t, ht, List.mem_cons_of_mem _ hc⟩
    have hslash : isSlash true c = false := noSlash_of_mem_splitPath (hpieces ▸ ht) c hc
    rcases List.mem_cons.mp hmem with rfl | hmem
    · cases hslash
    · exact isSegmentText_iff.mpr ⟨hslash, hmarks c hmem, hinside c hmem⟩
  · rintro rfl
    exact absurd (hkept _ (List.mem_map_of_mem ht)).2 (by decide)
  · rintro rfl
    exact absurd (hkept _ (List.mem_map_of_mem ht)).1 (by decide)

/-- Behind a root, texts are segments of the path that denote them exactly if they are faithful and
end visibly; then there is neither query nor fragment. -/
theorem IsRoot.parse_denotes {s : String} {u : Url} {root : List (List Char)}
    (h : IsRoot s u root) (hne : ts ≠ []) :
    ∃ v, Url.parse (s ++ String.ofList (Path.segments ts).chars) = .ok v ∧ v.front = u.front ∧
      ((∃ ss, v.path = .segments (root ++ ss) ∧ List.Forall₂ Denotes ss ts) ↔
        (∀ t ∈ ts, IsFaithful t) ∧ EndsVisibly ts) ∧
      ((∀ t ∈ ts, IsFaithful t) ∧ EndsVisibly ts → v.query = none ∧ v.fragment = none) := by
  obtain ⟨inner, hinner⟩ : ∃ inner, (Path.segments ts).chars = '/' :: inner := by
    obtain ⟨t, ts, rfl⟩ := List.exists_cons_of_ne_nil hne
    exact ⟨_, chars_cons t ts⟩
  obtain ⟨v, hparse, hfront, hpath, hnone⟩ := h.parse_behind inner
  rw [hinner]
  refine ⟨v, hparse, hfront, ⟨?_, ?_⟩, ?_⟩
  · rintro ⟨ss, hss, hdenotes⟩
    rw [hpath] at hss
    exact faithful_of_resolved hinner hdenotes (Path.segments.inj hss)
  · rintro ⟨hfaithful, hvisible⟩
    obtain ⟨hclean, hmarks, hresolved⟩ := resolved_of_faithful root hinner hfaithful hvisible
    rw [hclean, (split_of_noMarks hmarks).1, hresolved] at hpath
    refine ⟨_, hpath, List.forall₂_map_left_iff.mpr (List.forall₂_same.mpr fun t ht => ?_)⟩
    rw [Denotes, percentDecode_percentEncode]
    exact denotes_self_iff.mpr (hfaithful t ht).lacksOctets
  · rintro ⟨hfaithful, hvisible⟩
    obtain ⟨hclean, hmarks, -⟩ := resolved_of_faithful root hinner hfaithful hvisible
    exact hnone (hclean.symm ▸ hmarks)

end Root
end Url
end PullDecoration
