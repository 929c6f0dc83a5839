import PullDecoration.Proofs.Url.Origin

/-! Plain segments behind a URL that ends in a slash: they stand in its path as they are written,
and nothing else in the URL is different. -/
namespace PullDecoration
namespace Url

def isUnreserved (c : Char) : Bool := c.isAlphanum || c = '-' || c = '.' || c = '_' || c = '~'

/-- A segment of unreserved characters that does not lead to another place. -/
structure IsPlain (s : List Char) : Prop where
  unreserved : ∀ c ∈ s, isUnreserved c = true
  notDot : s ≠ ['.']
  notDots : s ≠ ['.', '.']

instance (s : List Char) : Decidable (IsPlain s) :=
  decidable_of_iff (s.all isUnreserved = true ∧ s ≠ ['.'] ∧ s ≠ ['.', '.'])
    ⟨fun h => ⟨List.all_eq_true.mp h.1, h.2.1, h.2.2⟩,
      fun h => ⟨List.all_eq_true.mpr h.unreserved, h.notDot, h.notDots⟩⟩

theorem isUnreserved_lt {c : Char} (h : isUnreserved c = true) : c.toNat < 128 := by
  simp only [isUnreserved, Bool.or_eq_true, decide_eq_true_eq, or_assoc] at h
  rcases h with h | rfl | rfl | rfl | rfl
  · delta Char.isAlphanum Char.isAlpha Char.isUpper Char.isLower Char.isDigit at h
    simp only [Bool.or_eq_true, Bool.and_eq_true, decide_eq_true_eq,
      UInt32.le_iff_toNat_le, ge_iff_le] at h
    have hval : c.toNat = c.val.toNat := rfl
    have hupper : 'Z'.val.toNat = 90 := rfl
    have hlower : 'z'.val.toNat = 122 := rfl
    have hdigit : '9'.val.toNat = 57 := rfl
    omega
  all_goals decide

theorem forall_unreserved {P : Char → Prop}
    (h : ∀ n < 128, isUnreserved (Char.ofNat n) = true → P (Char.ofNat n)) {c : Char}
    (hc : isUnreserved c = true) : P c := by
  have hn := h c.toNat (isUnreserved_lt hc)
  rw [Char.ofNat_toNat] at hn
  exact hn hc

theorem unreserved_kept {c : Char} (hc : isUnreserved c = true) :
    ' ' < c ∧ isSlash true c = false ∧ c ≠ '?' ∧ c ≠ '#' ∧ c ≠ '%' ∧
    (inPath c || 0x7F ≤ c.toNat) = false :=
  forall_unreserved (P := fun c => ' ' < c ∧ isSlash true c = false ∧ c ≠ '?' ∧ c ≠ '#' ∧ c ≠ '%' ∧
    (inPath c || 0x7F ≤ c.toNat) = false) (by decide +kernel) hc

theorem splitPath_ne_nil (special : Bool) (cs : List Char) : splitPath special cs ≠ [] := by
  cases cs with
  | nil => simp [splitPath]
  | cons c cs =>
    rw [splitPath]
    split
    · exact List.cons_ne_nil _ _
    · split <;> exact List.cons_ne_nil _ _

theorem splitPath_append_slash (special : Bool) (cs ds : List Char) :
    splitPath special (cs ++ '/' :: ds) = splitPath special cs ++ splitPath special ds := by
  induction cs with
  | nil => simp [splitPath, isSlash]
  | cons c cs ih =>
    simp only [List.cons_append, splitPath, ih]
    split
    · rfl
    · cases h : splitPath special cs with
      | nil => exact absurd h (splitPath_ne_nil special cs)
      | cons s ss => rfl

theorem splitPath_of_noSlash {special : Bool} {s : List Char}
    (h : ∀ c ∈ s, isSlash special c = false) :
    splitPath special s = [s] := by
  induction s with
  | nil => rfl
  | cons c s ih =>
    obtain ⟨hc, hs⟩ := List.forall_mem_cons.mp h
    simp [splitPath, hc, ih hs]

theorem IsPlain.noSlash {s : List Char} (h : IsPlain s) : ∀ c ∈ s, isSlash true c = false :=
  fun c hc => (unreserved_kept (h.unreserved c hc)).2.1

theorem splitPath_segments {s : List Char} {ss : List (List Char)}
    (hs : ∀ c ∈ s, isSlash true c = false) (hss : ∀ t ∈ ss, ∀ c ∈ t, isSlash true c = false) :
    splitPath true (s ++ (Path.segments ss).chars) = s :: ss := by
  induction ss generalizing s with
  | nil => simpa [Path.chars] using splitPath_of_noSlash hs
  | cons t ss ih =>
    obtain ⟨ht, hss⟩ := List.forall_mem_cons.mp hss
    have hchars : (Path.segments (t :: ss)).chars =
      '/' :: (t ++ (Path.segments ss).chars) := by simp [Path.chars]
    rw [hchars, splitPath_append_slash, splitPath_of_noSlash hs, ih ht hss]
    rfl

theorem IsPlain.percentEncode {s : List Char} (h : IsPlain s) : percentEncode inPath s = s := by
  have hsame : ∀ c ∈ s, (if inPath c || 0x7F ≤ c.toNat then percentChar c else [c]) = [c] := by
    intro c hc
    obtain ⟨-, -, -, -, -, hkept⟩ := unreserved_kept (h.unreserved c hc)
    rw [if_neg]
    simpa using hkept
  rw [Url.percentEncode, List.flatMap_congr hsame]
  exact List.flatMap_singleton' s

theorem dots_of_noPercent {s : List Char} (h : '%' ∉ s) : dots s = s := by
  induction s with
  | nil => rfl
  | cons c s ih =>
    obtain ⟨hc, hs⟩ : '%' ≠ c ∧ '%' ∉ s := by simpa using h
    unfold dots
    split
    · rename_i heq
      cases heq
      exact absurd rfl hc
    · rename_i heq
      cases heq
      rw [ih hs]
    · rfl

theorem IsPlain.kept {s : List Char} (h : IsPlain s) :
    isDoubleDot s = false ∧ isSingleDot s = false := by
  have hpercent : '%' ∉ s := fun hmem => (unreserved_kept (h.unreserved _ hmem)).2.2.2.2.1 rfl
  simp [isDoubleDot, isSingleDot, dots_of_noPercent hpercent, h.notDot, h.notDots]

theorem resolveDots_plain {ss : List (List Char)}
    (h : ∀ s ∈ ss, isDoubleDot s = false ∧ isSingleDot s = false) (acc : List (List Char)) :
    resolveDots acc ss = acc.reverse ++ ss := by
  induction ss generalizing acc with
  | nil => simp [resolveDots]
  | cons s ss ih =>
    obtain ⟨⟨hdouble, hsingle⟩, hss⟩ := List.forall_mem_cons.mp h
    rw [resolveDots, hdouble, hsingle]
    simp [ih hss]

theorem resolveDots_append (before acc : List (List Char)) :
    ∃ acc', ∀ ss, ss ≠ [] → resolveDots acc (before ++ ss) = resolveDots acc' ss := by
  induction before generalizing acc with
  | nil => exact ⟨acc, fun ss _ => rfl⟩
  | cons s before ih =>
    cases hdouble : isDoubleDot s with
    | true =>
      obtain ⟨acc', h⟩ := ih acc.tail
      exact ⟨acc', fun ss hss => by simp [resolveDots, hdouble, hss, h ss hss]⟩
    | false =>
      cases hsingle : isSingleDot s with
      | true =>
        obtain ⟨acc', h⟩ := ih acc
        exact ⟨acc', fun ss hss => by simp [resolveDots, hdouble, hsingle, hss, h ss hss]⟩
      | false =>
        obtain ⟨acc', h⟩ := ih (s :: acc)
        exact ⟨acc', fun ss hss => by simp [resolveDots, hdouble, hsingle, h ss hss]⟩

/-- The part of a path that is split: it lacks the slash at the start. -/
def insidePath (cs : List Char) : List Char :=
  match cs with
  | c :: rest => if isSlash true c then rest else cs
  | [] => []

theorem pathSegments_eq (cs : List Char) :
    pathSegments true cs =
      resolveDots [] ((splitPath true (insidePath cs)).map (percentEncode inPath)) := rfl

theorem pathSegments_behind {cs : List Char} {root : List (List Char)}
    (hroot : pathSegments true (cs ++ ['/']) = root ++ [[]]) (tail : List Char) :
    pathSegments true (cs ++ '/' :: tail) =
      resolveDots root.reverse ((splitPath true tail).map (percentEncode inPath)) := by
  obtain ⟨before, hbefore⟩ : ∃ before, ∀ ds,
      splitPath true (insidePath (cs ++ '/' :: ds)) = before ++ splitPath true ds := by
    cases cs with
    | nil => exact ⟨[], fun ds => rfl⟩
    | cons c cs =>
      cases hc : isSlash true c with
      | true =>
        exact ⟨splitPath true cs, fun ds => by simp [insidePath, hc, splitPath_append_slash]⟩
      | false =>
        refine ⟨splitPath true (c :: cs), fun ds => ?_⟩
        rw [List.cons_append, insidePath, hc, ← splitPath_append_slash]
        rfl
  obtain ⟨acc, hacc⟩ := resolveDots_append (before.map (percentEncode inPath)) []
  have hend : root = acc.reverse := by
    have hempty : (splitPath true []).map (percentEncode inPath) = [[]] := rfl
    rw [pathSegments_eq, hbefore, List.map_append, hempty, hacc _ (List.cons_ne_nil _ _),
      resolveDots_plain (by decide)] at hroot
    exact (List.append_cancel_right hroot).symm
  have hne : (splitPath true tail).map (percentEncode inPath) ≠ [] :=
    fun h => splitPath_ne_nil true tail (List.map_eq_nil_iff.mp h)
  rw [pathSegments_eq, hbefore, List.map_append, hacc _ hne, hend, List.reverse_reverse]

def isPathText (c : Char) : Bool := c ≠ '?' && c ≠ '#'

theorem withRest_eq (u : Url) (cs : List Char) :
    u.withRest true cs =
      { u with
        path := .segments (pathSegments true (cs.takeWhile isPathText))
        query := (parseTail true (cs.dropWhile isPathText)).1
        fragment := (parseTail true (cs.dropWhile isPathText)).2 } := by
  have hall : cs.takeWhile isPathText ++ cs.dropWhile isPathText = cs :=
    List.takeWhile_append_dropWhile
  have hdrop : cs.drop (cs.takeWhile isPathText).length = cs.dropWhile isPathText := by
    have h : (cs.takeWhile isPathText ++ cs.dropWhile isPathText).drop
      (cs.takeWhile isPathText).length =
      cs.dropWhile isPathText := List.drop_left
    rwa [hall] at h
  rw [← hdrop]
  rfl

/-- A URL without query and fragment was read from a text without the marks of these. -/
theorem noMarks_of_withRest {u : Url} {cs : List Char} (hquery : (u.withRest true cs).query = none)
    (hfragment : (u.withRest true cs).fragment = none) : ∀ c ∈ cs, isPathText c = true := by
  rw [withRest_eq] at hquery hfragment
  cases hrest : cs.dropWhile isPathText with
  | nil =>
    intro c hc
    rw [← List.takeWhile_append_dropWhile (p := isPathText) (l := cs), hrest, List.append_nil] at hc
    exact List.mem_takeWhile_imp hc
  | cons c rest =>
    have hmark := List.head?_dropWhile_not isPathText cs
    simp only [hrest, List.head?_cons, isPathText, Bool.and_eq_false_imp,
      decide_eq_true_eq, ne_eq] at hmark
    rw [hrest] at hquery hfragment
    by_cases hc : c = '?'
    · subst hc
      simp [parseTail] at hquery
    · have hfragmentMark : c = '#' := by simpa [hc] using hmark
      subst hfragmentMark
      simp [parseTail] at hfragment

theorem split_of_noMarks {cs : List Char} (h : ∀ c ∈ cs, isPathText c = true) :
    cs.takeWhile isPathText = cs ∧ cs.dropWhile isPathText = [] :=
  ⟨List.takeWhile_eq_self_iff.mpr h, List.dropWhile_eq_nil_iff.mpr h⟩

/-- What is left of a text at the end of a URL once that is cleaned. -/
def cleanTail (cs : List Char) : List Char := (cs.reverse.dropWhile isOuter).reverse.filter isKept

theorem clean_behind (cs : List Char) :
    ∃ front, ∀ tail, clean (cs ++ '/' :: tail) = front ++ '/' :: cleanTail tail := by
  refine ⟨(cs.dropWhile isOuter).filter isKept, fun tail => ?_⟩
  have hstart : (cs ++ '/' :: tail).dropWhile isOuter = cs.dropWhile isOuter ++ '/' :: tail := by
    rw [List.dropWhile_append]
    split
    · rename_i hempty
      rw [List.isEmpty_iff.mp hempty]
      rfl
    · rfl
  rw [clean_eq, hstart, trimmed_append (by decide), List.filter_append,
    List.filter_cons_of_pos (by decide)]
  rfl

theorem cleanTail_eq_self {cs : List Char} (hend : ∀ c ∈ cs.getLast?, ' ' < c)
    (hkept : ∀ c ∈ cs, isKept c = true) :
    cleanTail cs = cs := by
  have htrimmed : (cs.reverse.dropWhile isOuter).reverse = cs := by
    rcases List.eq_nil_or_concat cs with rfl | ⟨front, c, rfl⟩
    · rfl
    · have hc : ' ' < c := hend c (by simp)
      have hinner : ¬ isOuter c = true := by simpa [isOuter] using hc
      simp [List.dropWhile_cons_of_neg hinner]
  rw [cleanTail, htrimmed]
  exact List.filter_eq_self.mpr hkept

theorem isKept_of_visible {c : Char} (hc : ' ' < c) : isKept c = true := by
  have htab : c ≠ '\t' := fun h => absurd (h ▸ hc) (by decide)
  have hline : c ≠ '\n' := fun h => absurd (h ▸ hc) (by decide)
  have hreturn : c ≠ '\r' := fun h => absurd (h ▸ hc) (by decide)
  simp [isKept, htab, hline, hreturn]

/-- The scheme of a text that ends in a slash does not depend on what comes behind the slash. -/
theorem cutScheme_append_slash {cs rest scheme : List Char}
    (h : cutScheme (cs ++ ['/']) = some (scheme, rest)) :
    ∃ inner, rest = inner ++ ['/'] ∧ ∀ tail, cutScheme (cs ++ '/' :: tail) =
      some (scheme, inner ++ '/' :: tail) := by
  obtain ⟨name, hsplit, hname, hhead, rfl⟩ := cutScheme_eq_some.mp h
  rcases List.eq_nil_or_concat rest with rfl | ⟨inner, c, rfl⟩
  · have hlast := List.append_inj_right' hsplit rfl
    cases hlast
  · have hsame : cs ++ ['/'] = (name ++ ':' :: inner) ++ [c] := by simpa using hsplit
    have hlast := List.append_inj_right' hsame rfl
    have hfront := List.append_inj_left' hsame rfl
    cases hlast
    refine ⟨inner, List.concat_eq_append, fun tail => ?_⟩
    rw [hfront]
    exact cutScheme_eq_some.mpr ⟨name, by simp, hname, hhead, rfl⟩

theorem dropSlashes_append_slash {cs : List Char} (h : (cs ++ ['/']).dropWhile (isSlash true) ≠ [])
    (tail : List Char) :
    (cs ++ '/' :: tail).dropWhile (isSlash true) = cs.dropWhile (isSlash true) ++ '/' :: tail := by
  rw [List.dropWhile_append] at h ⊢
  split at h
  · exact absurd rfl h
  · rename_i hempty
    rw [if_neg hempty]

def withPath (u : Url) (ss : List (List Char)) : Url := { u with path := .segments ss }

theorem eq_withPath {u v : Url} {ss : List (List Char)} (hfront : v.front = u.front)
    (hpath : v.path = .segments ss) (hquery : v.query = u.query)
    (hfragment : v.fragment = u.fragment) : v = u.withPath ss := by
  cases u
  cases v
  simp_all [front, withPath]

/-- The text stands for a place on the web under which there are others: with a slash behind it, it
is a URL with this path and nothing after it. -/
structure IsRoot (s : String) (u : Url) (root : List (List Char)) : Prop where
  parse : parse (s ++ "/") = .ok u
  web : u.isWeb
  path : u.path = .segments (root ++ [[]])
  query : u.query = none
  fragment : u.fragment = none

/-- What is read of a text that ends in a slash goes on in the same way behind the slash. -/
theorem ofAuthority_slash {scheme : List Char} {info : List Char × List Char}
    {text rest : List Char} {u : Url} (h : ofAuthority scheme (info, text, rest ++ ['/']) = .ok u) :
    ∃ (w : Url) (cs : List Char), u = w.withRest true (cs ++ ['/']) ∧
      ∀ tail, ofAuthority scheme (info, text, rest ++ '/' :: tail) =
        .ok (w.withRest true (cs ++ '/' :: tail)) := by
  obtain ⟨htext, host, port, behind, hhost, hport, rfl⟩ := ofAuthority_eq_ok.mp h
  rw [parsePort_append_slash] at hport
  cases hshort : parsePort scheme rest with
  | error e =>
    rw [hshort] at hport
    cases hport
  | ok found =>
    rw [hshort] at hport
    cases hport
    refine ⟨_, found.2, rfl,
      fun tail => ofAuthority_eq_ok.mpr ⟨htext, host, found.1, _, hhost, ?_, rfl⟩⟩
    rw [parsePort_append_slash, hshort]
    rfl

/-- Whatever comes behind the slash of a root is cleaned and read as the rest of the same URL. -/
theorem IsRoot.parse_append {s : String} {u : Url} {root : List (List Char)} (h : IsRoot s u root) :
    ∃ (w : Url) (cs : List Char), u = w.withRest true (cs ++ ['/']) ∧
      ∀ tail, Url.parse (s ++ String.ofList ('/' :: tail)) =
        .ok (w.withRest true (cs ++ '/' :: cleanTail tail)) := by
  have hspecial : isSpecial u.scheme = true := by rcases h.web with h | h <;> rw [h] <;> decide
  have hfile : u.scheme ≠ file := by rcases h.web with h | h <;> rw [h] <;> decide
  have hchars (tail : List Char) : (s ++ String.ofList ('/' :: tail)).toList =
    s.toList ++ '/' :: tail := by simp
  have hshort := h.parse
  obtain ⟨front, hfront⟩ := clean_behind s.toList
  obtain ⟨rest, hcut⟩ := parse_scheme hshort
  have hroot : s ++ "/" = s ++ String.ofList ['/'] := rfl
  have hempty : cleanTail [] = [] := rfl
  rw [hroot, hchars, hfront [], hempty] at hcut
  obtain ⟨inner, rfl, hscheme⟩ := cutScheme_append_slash hcut
  have hclean : clean (s ++ "/").toList = front ++ ['/'] := by rw [hroot, hchars, hfront, hempty]
  rw [parse_special (hclean ▸ hcut) hspecial hfile] at hshort
  have hleft : (inner ++ ['/']).dropWhile (isSlash true) ≠ [] := by
    intro hnil
    rw [hnil] at hshort
    cases hshort
  rw [dropSlashes_append_slash hleft, splitAuthority_append_slash] at hshort
  obtain ⟨w, cs, hu, hlong⟩ := ofAuthority_slash hshort
  refine ⟨w, cs, hu, fun tail => ?_⟩
  have hcut' : cutScheme (clean (s ++ String.ofList ('/' :: tail)).toList) =
      some (u.scheme, inner ++ '/' :: cleanTail tail) := by
    rw [hchars, hfront tail, hscheme]
  rw [parse_special hcut' hspecial hfile, dropSlashes_append_slash hleft,
    splitAuthority_append_slash]
  exact hlong (cleanTail tail)

/-- What is read behind a root: its path, and a query and a fragment only behind a mark of these. -/
theorem IsRoot.parse_behind {s : String} {u : Url} {root : List (List Char)} (h : IsRoot s u root)
    (tail : List Char) :
    ∃ v, Url.parse (s ++ String.ofList ('/' :: tail)) = .ok v ∧ v.front = u.front ∧
      v.path = .segments (resolveDots root.reverse
        ((splitPath true ((cleanTail tail).takeWhile isPathText)).map (percentEncode inPath))) ∧
      ((∀ c ∈ cleanTail tail, isPathText c = true) → v.query = none ∧ v.fragment = none) := by
  obtain ⟨w, cs, hu, hparse⟩ := h.parse_append
  have hquery := h.query
  have hfragment := h.fragment
  have hpath := h.path
  rw [hu] at hquery hfragment hpath
  have hmarks := noMarks_of_withRest hquery hfragment
  have hdirectory : pathSegments true (cs ++ ['/']) = root ++ [[]] := by
    rw [withRest_eq, (split_of_noMarks hmarks).1] at hpath
    exact Path.segments.inj hpath
  have hcs := (List.forall_mem_append.mp hmarks).1
  refine ⟨_, hparse tail, by rw [hu]; rfl, ?_, fun hplain => ?_⟩
  · rw [withRest_eq, List.takeWhile_append_of_pos hcs, List.takeWhile_cons_of_pos (by decide),
      pathSegments_behind hdirectory]
  · have hall : ∀ c ∈ cs ++ '/' :: cleanTail tail, isPathText c = true :=
      List.forall_mem_append.mpr ⟨hcs, List.forall_mem_cons.mpr ⟨by decide, hplain⟩⟩
    rw [withRest_eq, (split_of_noMarks hall).2]
    exact ⟨rfl, rfl⟩

theorem visible_segments {ss : List (List Char)} (hss : ∀ t ∈ ss, IsPlain t) :
    ∀ c ∈ (Path.segments ss).chars, ' ' < c ∧ isPathText c = true := by
  intro c hc
  obtain ⟨t, ht, hmem⟩ := List.mem_flatMap.mp hc
  rcases List.mem_cons.mp hmem with rfl | hmem
  · decide
  · obtain ⟨hvisible, -, hquery, hfragment, -⟩ := unreserved_kept ((hss t ht).unreserved c hmem)
    exact ⟨hvisible, by simp [isPathText, hquery, hfragment]⟩

theorem IsRoot.parse_segments {s : String} {u : Url} {root ss : List (List Char)}
    (h : IsRoot s u root) (hss : ∀ t ∈ ss, IsPlain t) (hne : ss ≠ []) :
    Url.parse (s ++ String.ofList (Path.segments ss).chars) = .ok (u.withPath (root ++ ss)) := by
  obtain ⟨t, ts, rfl⟩ := List.exists_cons_of_ne_nil hne
  obtain ⟨ht, hts⟩ := List.forall_mem_cons.mp hss
  have hchars : (Path.segments (t :: ts)).chars =
    '/' :: (t ++ (Path.segments ts).chars) := by simp [Path.chars]
  have hvisible := visible_segments hss
  rw [hchars] at hvisible
  obtain ⟨-, hvisible⟩ := List.forall_mem_cons.mp hvisible
  have hclean : cleanTail (t ++ (Path.segments ts).chars) = t ++ (Path.segments ts).chars :=
    cleanTail_eq_self (fun c hc => (hvisible c (List.mem_of_getLast? hc)).1)
      fun c hc => isKept_of_visible (hvisible c hc).1
  have htext : (t ++ (Path.segments ts).chars).takeWhile isPathText =
      t ++ (Path.segments ts).chars :=
    List.takeWhile_eq_self_iff.mpr fun c hc => (hvisible c hc).2
  have hencode : (t :: ts).map (percentEncode inPath) = t :: ts :=
    (List.map_congr_left fun s hs => (hss s hs).percentEncode).trans (List.map_id _)
  obtain ⟨v, hparse, hfront, hpath, hnone⟩ := h.parse_behind (t ++ (Path.segments ts).chars)
  rw [hclean, htext, splitPath_segments ht.noSlash fun s hs => (hts s hs).noSlash, hencode,
    resolveDots_plain (fun s hs => (hss s hs).kept), List.reverse_reverse] at hpath
  rw [hclean] at hnone
  obtain ⟨hquery, hfragment⟩ := hnone fun c hc => (hvisible c hc).2
  rw [hchars, hparse]
  exact congrArg _ (eq_withPath hfront hpath (hquery.trans h.query.symm)
    (hfragment.trans h.fragment.symm))

end Url
end PullDecoration
