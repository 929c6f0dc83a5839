import PullDecoration.Proofs.Except
import PullDecoration.Url.Basic
import Mathlib.Data.List.TakeWhile

/-! URLs below a URL. What is put behind a slash at the end of a URL goes into the path or what
follows it: scheme, user, host and port stay the same. -/
namespace PullDecoration
namespace Url

def front (u : Url) : Url := { u with path := .segments [], query := none, fragment := none }

section Slash

variable (cs tail : List Char)

theorem takeWhile_append_slash {p : Char → Bool} (hp : p '/' = false) :
    (cs ++ '/' :: tail).takeWhile p = cs.takeWhile p := by
  induction cs with
  | nil => simp [hp]
  | cons c cs ih =>
    cases hc : p c with
    | true => simp [hc, ih]
    | false => simp [hc]

theorem hostText_append_slash (special inside : Bool) :
    hostText special inside (cs ++ '/' :: tail) = hostText special inside cs := by
  induction cs generalizing inside with
  | nil => simp [hostText, endsAuthority, isSlash]
  | cons c cs ih => simp only [List.cons_append, hostText, ih]

theorem hostText_length_le (special inside : Bool) :
    (hostText special inside cs).length ≤ cs.length := by
  induction cs generalizing inside with
  | nil => simp [hostText]
  | cons c cs ih =>
    rw [hostText]
    split
    · simp
    · simpa using ih _

theorem cutUserinfo_append_slash :
    cutUserinfo true (cs ++ '/' :: tail) =
      (cutUserinfo true cs).map fun p => (p.1, p.2 ++ '/' :: tail) := by
  have hauthority : (cs ++ '/' :: tail).takeWhile (fun c => !endsAuthority true c) =
      cs.takeWhile fun c => !endsAuthority true c := takeWhile_append_slash cs tail (by decide)
  have hlength : (cs.takeWhile fun c => !endsAuthority true c).length ≤ cs.length :=
    (List.takeWhile_prefix _).length_le
  simp only [cutUserinfo, hauthority]
  split
  · rw [Option.map_some, List.take_append_of_le_length (by omega),
      List.drop_append_of_le_length (by omega)]
  · rfl

theorem parsePort_append_slash (scheme : List Char) :
    parsePort scheme (cs ++ '/' :: tail) = (parsePort scheme cs).map fun p =>
      (p.1, p.2 ++ '/' :: tail) := by
  cases cs with
  | nil => rfl
  | cons c cs =>
    by_cases hc : c = ':'
    · subst hc
      have hlength : (cs.takeWhile Char.isDigit).length ≤ cs.length :=
        (List.takeWhile_prefix _).length_le
      have hdigits : (cs ++ '/' :: tail).takeWhile Char.isDigit = cs.takeWhile Char.isDigit :=
        takeWhile_append_slash cs tail (by decide)
      have hrest : ((cs ++ '/' :: tail).drop (cs.takeWhile Char.isDigit).length) =
          cs.drop (cs.takeWhile Char.isDigit).length ++ '/' :: tail :=
            List.drop_append_of_le_length hlength
      have hhead : ((cs.drop (cs.takeWhile Char.isDigit).length ++ '/' :: tail).head?.any fun c =>
            !(isSlash true c || c = '?' || c = '#')) =
          (cs.drop (cs.takeWhile Char.isDigit).length).head?.any fun c =>
            !(isSlash true c || c = '?' || c = '#') := by
        cases cs.drop (cs.takeWhile Char.isDigit).length with
        | nil => simp [isSlash]
        | cons d ds => rfl
      simp only [List.cons_append, parsePort, hdigits, hrest, hhead]
      split
      · rfl
      · split <;> rfl
    · have hother (cs : List Char) : parsePort scheme (c :: cs) = .ok (none, c :: cs) := by
        simp [parsePort, hc]
      rw [List.cons_append, hother, hother]
      rfl

end Slash

/-- The authority of a URL of a special scheme: its user, its host's text and the text behind the
host. -/
def splitAuthority (cs : List Char) : (List Char × List Char) × List Char × List Char :=
  let (user, rest) := (cutUserinfo true cs).getD ([], cs)
  let text := hostText true false rest
  (userinfo user, text, rest.drop text.length)

def ofAuthority (scheme : List Char) :
    (List Char × List Char) × List Char × List Char → Except UrlError Url
  | ((username, password), text, rest) => do
    if text.isEmpty then throw .emptyHost
    let host ← Host.parse text
    let (port, rest) ← parsePort scheme rest
    let u : Url := ⟨scheme, username, password, some host, port, .segments [], none, none⟩
    return u.withRest true rest

theorem parseAuthority_eq {scheme : List Char}
    (hscheme : isSpecial scheme = true) (cs : List Char) :
    parseAuthority scheme cs = ofAuthority scheme (splitAuthority cs) := by
  simp [parseAuthority, ofAuthority, splitAuthority, hscheme]

theorem splitAuthority_append_slash (cs tail : List Char) :
    splitAuthority (cs ++ '/' :: tail) =
      ((splitAuthority cs).1, (splitAuthority cs).2.1, (splitAuthority cs).2.2 ++ '/' :: tail) := by
  cases huser : cutUserinfo true cs with
  | none =>
    simp [splitAuthority, cutUserinfo_append_slash, huser, hostText_append_slash,
      List.drop_append_of_le_length (hostText_length_le cs true false)]
  | some p =>
    simp [splitAuthority, cutUserinfo_append_slash, huser, hostText_append_slash,
      List.drop_append_of_le_length (hostText_length_le p.2 true false)]

theorem ofAuthority_eq_ok {scheme : List Char} {info : List Char × List Char}
    {text rest : List Char} {u : Url} : ofAuthority scheme (info, text, rest) = .ok u ↔
      text.isEmpty = false ∧ ∃ host port rest', Host.parse text = .ok host ∧
        parsePort scheme rest = .ok (port, rest') ∧
        withRest ⟨scheme, info.1, info.2, some host, port, .segments [], none, none⟩ true rest' =
          u := by
  cases htext : text.isEmpty with
  | true => simp [ofAuthority, htext, bind_eq_ok, throw, throwThe, MonadExceptOf.throw]
  | false => simp [ofAuthority, htext, bind_eq_ok, pure, Except.pure]

theorem ofAuthority_append_slash {scheme : List Char} {info : List Char × List Char}
    {text rest : List Char} {u : Url} (h : ofAuthority scheme (info, text, rest) = .ok u)
    (tail : List Char) :
    ∃ v, ofAuthority scheme (info, text, rest ++ '/' :: tail) = .ok v ∧ v.front = u.front := by
  obtain ⟨htext, host, port, rest', hhost, hport, rfl⟩ := ofAuthority_eq_ok.mp h
  have hlong : parsePort scheme (rest ++ '/' :: tail) = .ok (port, rest' ++ '/' :: tail) := by
    rw [parsePort_append_slash, hport]
    rfl
  exact ⟨_, ofAuthority_eq_ok.mpr ⟨htext, host, port, _, hhost, hlong, rfl⟩, rfl⟩

theorem trimmed_append {p : Char → Bool} {c : Char} (hc : p c = false) (cs tail : List Char) :
    ((cs ++ c :: tail).reverse.dropWhile p).reverse =
      cs ++ c :: (tail.reverse.dropWhile p).reverse := by
  simp only [List.reverse_append, List.reverse_cons, List.append_assoc, List.dropWhile_append]
  split
  · rename_i hempty
    have hnil : tail.reverse.dropWhile p = [] := by simpa using hempty
    simp [hnil, hc]
  · simp

/-- Behind a character that is kept at the end of a text, a slash and what follows it are cleaned
apart. -/
theorem clean_append_slash {c : Char} (hc : ' ' < c) (cs tail : List Char) :
    ∃ tail', clean (cs ++ [c] ++ '/' :: tail) = clean (cs ++ [c]) ++ '/' :: tail' := by
  have hkept : decide (c ≤ ' ') = false := by simpa using hc
  obtain ⟨mid, hmid⟩ : ∃ mid, (cs ++ [c]).dropWhile (fun d => decide (d ≤ ' ')) = mid ++ [c] := by
    rw [List.dropWhile_append]
    split
    · exact ⟨[], by simp [hkept]⟩
    · exact ⟨_, rfl⟩
  have hlong : (cs ++ [c] ++ '/' :: tail).dropWhile (fun d => decide (d ≤ ' ')) =
      mid ++ [c] ++ '/' :: tail := by
    rw [List.dropWhile_append, hmid]
    simp
  refine ⟨((tail.reverse.dropWhile fun d => decide (d ≤ ' ')).reverse).filter fun d =>
    d ≠ '\t' && d ≠ '\n' && d ≠ '\r', ?_⟩
  simp only [clean, hmid, hlong,
    trimmed_append (p := fun d => decide (d ≤ ' ')) (c := '/') (by decide)]
  rw [trimmed_append (p := fun d => decide (d ≤ ' ')) hkept mid [], List.filter_append,
    List.filter_cons_of_pos (by decide)]
  rfl

/-- A scheme: its characters, of which the first is a letter, and the text behind the colon. -/
theorem cutScheme_eq_some {cs rest scheme : List Char} :
    cutScheme cs = some (scheme, rest) ↔ ∃ name, cs = name ++ ':' :: rest ∧
      (∀ c ∈ name, isSchemeChar c = true) ∧ name.head?.any Char.isAlpha = true ∧
      scheme = name.map Char.toLower := by
  constructor
  · intro h
    cases cs with
    | nil => cases h
    | cons c cs =>
      simp only [cutScheme] at h
      split at h
      · rename_i rest' hdrop
        split at h
        · rename_i halpha
          obtain ⟨rfl, rfl⟩ := Prod.mk.inj (Option.some.inj h)
          refine ⟨(c :: cs).takeWhile isSchemeChar, ?_,
            fun d hd => List.mem_takeWhile_imp hd, ?_, rfl⟩
          · have hname := List.prefix_iff_eq_take.mp
              (List.takeWhile_prefix isSchemeChar : (c :: cs).takeWhile isSchemeChar <+: c :: cs)
            calc c :: cs
              _ = _ ++ _ := (List.take_append_drop _ _).symm
              _ = (c :: cs).takeWhile isSchemeChar ++ ':' :: rest' := by rw [hdrop, ← hname]
          · simp [isSchemeChar, Char.isAlphanum, halpha]
        · cases h
      · cases h
  · rintro ⟨name, rfl, hname, hhead, rfl⟩
    have htake : (name ++ ':' :: rest).takeWhile isSchemeChar = name := by
      rw [List.takeWhile_append_of_pos hname]
      simp [isSchemeChar]
    cases name with
    | nil => simp at hhead
    | cons c name =>
      have halpha : c.isAlpha = true := by simpa using hhead
      rw [List.cons_append] at htake ⊢
      simp only [cutScheme, htake, List.length_cons, List.drop_succ_cons,
        List.drop_left, halpha, if_true]

theorem cutScheme_append {cs rest scheme : List Char} (h : cutScheme cs = some (scheme, rest))
    (tail : List Char) : cutScheme (cs ++ tail) = some (scheme, rest ++ tail) := by
  obtain ⟨name, rfl, hname, hhead, rfl⟩ := cutScheme_eq_some.mp h
  exact cutScheme_eq_some.mpr ⟨name, by simp, hname, hhead, rfl⟩

theorem parseFile_scheme {cs : List Char} {u : Url} (h : parseFile cs = .ok u) :
    u.scheme = file := by
  simp only [parseFile] at h
  split at h
  · split at h <;> obtain ⟨host, -, h⟩ := bind_eq_ok.mp h <;> cases h <;> rfl
  · cases h
    rfl

theorem parseAuthority_scheme {scheme cs : List Char} {u : Url}
    (h : parseAuthority scheme cs = .ok u) :
    u.scheme = scheme := by
  simp only [parseAuthority] at h
  split at h
  · cases h
  · split at h <;> obtain ⟨host, -, h⟩ := bind_eq_ok.mp h <;>
      obtain ⟨port, -, h⟩ := bind_eq_ok.mp h <;> cases h <;> rfl

theorem parseOther_scheme {scheme cs : List Char} {u : Url} (h : parseOther scheme cs = .ok u) :
    u.scheme = scheme := by
  unfold parseOther at h
  split at h
  · exact parseAuthority_scheme h
  · cases h
    rfl
  · cases h
    rfl

theorem parse_scheme {s : String} {u : Url} (h : parse s = .ok u) :
    ∃ rest, cutScheme (clean s.toList) = some (u.scheme, rest) := by
  unfold parse at h
  split at h
  · cases h
  · rename_i scheme rest hcut
    refine ⟨rest, ?_⟩
    split at h
    · rename_i hfile
      rw [parseFile_scheme h, hcut, hfile]
    · split at h
      · rw [parseAuthority_scheme h, hcut]
      · rw [parseOther_scheme h, hcut]

theorem parse_special {s : String} {scheme rest : List Char}
    (hcut : cutScheme (clean s.toList) = some (scheme, rest)) (hspecial : isSpecial scheme = true)
    (hfile : scheme ≠ file) :
    parse s = ofAuthority scheme (splitAuthority (rest.dropWhile (isSlash true))) := by
  simp [parse, hcut, hspecial, hfile, parseAuthority_eq hspecial]

def isWeb (u : Url) : Prop := u.scheme = http ∨ u.scheme = https

theorem scheme_host_of_front {u v : Url} (h : v.front = u.front) :
    v.scheme = u.scheme ∧ v.host = u.host :=
  ⟨(congrArg scheme h : v.front.scheme = u.front.scheme),
    (congrArg host h : v.front.host = u.front.host)⟩

theorem parse_below {s : String} {c : Char} {u : Url}
    (hend : s.toList.getLast? = some c) (hc : ' ' < c) (hs : parse s = .ok u)
    (hweb : u.isWeb) (tail : String) :
    ∃ v, parse (s ++ "/" ++ tail) = .ok v ∧ v.front = u.front := by
  obtain ⟨cs, hcs⟩ := List.getLast?_eq_some_iff.mp hend
  have hspecial : isSpecial u.scheme = true := by rcases hweb with h | h <;> rw [h] <;> decide
  have hfile : u.scheme ≠ file := by rcases hweb with h | h <;> rw [h] <;> decide
  obtain ⟨rest, hcut⟩ := parse_scheme hs
  obtain ⟨tail', hclean⟩ := clean_append_slash hc cs tail.toList
  have hlong : cutScheme (clean (s ++ "/" ++ tail).toList) =
      some (u.scheme, rest ++ '/' :: tail') := by
    have hchars : (s ++ "/" ++ tail).toList = cs ++ [c] ++ '/' :: tail.toList := by simp [hcs]
    rw [hchars, hclean, ← hcs]
    exact cutScheme_append hcut _
  rw [parse_special hcut hspecial hfile] at hs
  rw [parse_special hlong hspecial hfile, List.dropWhile_append]
  split
  · rename_i hempty
    have hnil : rest.dropWhile (isSlash true) = [] := by simpa using hempty
    rw [hnil] at hs
    cases hs
  · rw [splitAuthority_append_slash]
    exact ofAuthority_append_slash hs tail'

end Url
end PullDecoration
