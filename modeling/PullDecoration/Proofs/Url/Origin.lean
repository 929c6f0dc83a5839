import PullDecoration.Proofs.Text.Utf8
import PullDecoration.Proofs.Url.Below

/-! Origins of URLs: scheme, host and port, where a port that is left out is the scheme's own.
Whatever is put behind a slash at the end of a URL keeps its origin, if what comes of it is a URL at
all; blanks and controls at the end of the URL, which are dropped where it stands alone, then come
to lie inside and never are part of a host. -/
namespace PullDecoration
namespace Url

theorem isDigit_control {k : Char} (hk : k ≤ ' ') : k.isDigit = false := by
  have hnat : k.toNat ≤ 32 := hk
  have hlow : ¬ '0' ≤ k := fun h => by
    have : 48 ≤ k.toNat := h
    omega
  simp only [Char.isDigit, Bool.and_eq_false_iff, decide_eq_false_iff_not]
  exact .inl hlow

theorem hexValue?_control {k : Char} (hk : k ≤ ' ') : Text.hexValue? k = none := by
  have hnat : k.toNat ≤ 32 := hk
  have hsmall : ¬ 'a' ≤ k := fun h => by
    have : 97 ≤ k.toNat := h
    omega
  have hlarge : ¬ 'A' ≤ k := fun h => by
    have : 65 ≤ k.toNat := h
    omega
  simp [Text.hexValue?, isDigit_control hk, hsmall, hlarge]

theorem mem_percentDecode {k : Char} {cs : List Char} (hk : k ≤ ' ') (h : k ∈ cs) :
    UInt8.ofNat k.toNat ∈ percentDecode cs := by
  have hnat : k.toNat ≤ 32 := hk
  have hpercent : k ≠ '%' := by
    rintro rfl
    revert hk
    decide
  have hself : String.utf8EncodeChar k = [UInt8.ofNat k.toNat] := by
    have hvalue : k.val.toNat = k.toNat := rfl
    have hascii : k.toNat ≤ 127 := by omega
    simp [String.utf8EncodeChar, hvalue, hascii]
  induction cs using percentDecode.induct with
  | case1 a b cs m n hb ha ih =>
    have hmem : k ∈ cs := by
      have hka : k ≠ a := fun h => by simp [← h, hexValue?_control hk] at ha
      have hkb : k ≠ b := fun h => by simp [← h, hexValue?_control hk] at hb
      simpa [hpercent, hka, hkb] using h
    rw [percentDecode]
    simp [ha, hb, ih hmem]
  | case2 a b cs hno ih =>
    have hmem : k ∈ a :: b :: cs := (List.mem_cons.mp h).resolve_left hpercent
    rw [percentDecode]
    split
    · rename_i hm hn
      exact absurd hn (hno _ _ hm)
    · exact List.mem_cons_of_mem _ (ih hmem)
  | case3 c cs hno ih =>
    rw [percentDecode]
    · rcases List.mem_cons.mp h with rfl | hmem
      · simp [hself]
      · exact List.mem_append_right _ (ih hmem)
    · exact hno
  | case4 => cases h

theorem domain_control {k : Char} {cs : List Char} (hk : k ≤ ' ') (h : k ∈ cs) :
    domain cs = .error .idna := by
  have hnat : k.toNat ≤ 32 := hk
  have hsmall : small k = k := by
    have hupper : ¬ 'A' ≤ k := fun h => by
      have : 65 ≤ k.toNat := h
      omega
    have hlower : k.toLower = k := dif_neg fun h => hupper h.1
    rw [small, if_pos (by omega), hlower]
  have hne {c : Char} (hc : 32 < c.toNat) : k ≠ c := by
    rintro rfl
    omega
  have hdot : isDot k = false := by
    simp [isDot, hne (c := '.') (by decide), hne (c := '\u3002') (by decide),
      hne (c := '\uff0e') (by decide), hne (c := '\uff61') (by decide)]
  have hkept : k ∈ (cs.map fun c => if isDot c then '.' else small c).filter (· ≠ '\u00ad') := by
    refine List.mem_filter.mpr ⟨List.mem_map.mpr ⟨k, h, by simp [hdot, hsmall]⟩, ?_⟩
    simpa using hne (c := '\u00ad') (by decide)
  have hforbidden : ((cs.map fun c => if isDot c then '.' else small c).filter (· ≠ '\u00ad')).any
      (fun c => isForbidden c) = true :=
    List.any_eq_true.mpr ⟨k, hkept, by simp [isForbidden, hk]⟩
  rw [domain]
  simp only [hforbidden, if_true]

/-- A text with a control at its end is no host, whether the control is written out or is read
inside brackets. -/
theorem Host.parse_control {k : Char} {cs : List Char} (hk : k ≤ ' ') (hlast : cs.getLast? = some k)
    (host : Host) : Host.parse cs ≠ .ok host := by
  have hbracket : k ≠ ']' := by
    rintro rfl
    revert hk
    decide
  intro h
  unfold Host.parse at h
  split at h
  · rename_i rest
    have hrest : rest.getLast? ≠ some ']' := by
      intro hend
      rw [List.getLast?_cons, hend] at hlast
      exact hbracket (Option.some.inj hlast).symm
    rw [if_neg hrest] at h
    cases h
  · split at h
    · cases h
    · rename_i text hdecode
      have hmem : k ∈ text.toList := by
        have hoctet := mem_percentDecode hk (List.mem_of_getLast? hlast)
        rw [← Utf8.encode_of_decode? hdecode] at hoctet
        obtain ⟨c, hc, hoctet⟩ := List.mem_flatMap.mp hoctet
        have hnat : k.toNat ≤ 32 := hk
        have hascii : (UInt8.ofNat k.toNat).toNat = k.toNat := by
          rw [UInt8.toNat_ofNat']
          omega
        have hsame : c.toNat = k.toNat := by
          rw [← hascii]
          exact Utf8.toNat_of_mem_encodeChar hoctet (by omega)
        rwa [← Char.toNat_inj.mp hsame]
      rw [domain_control hk hmem] at h
      cases h

section Controls

variable {ks : List Char} (hks : ∀ k ∈ ks, k ≤ ' ')
include hks

theorem not_endsAuthority_control (special : Bool) {k : Char} (hk : k ∈ ks) :
    endsAuthority special k = false ∧ k ≠ ':' ∧ k ≠ '@' := by
  have hnat : k.toNat ≤ 32 := hks k hk
  have hne {c : Char} (hc : 32 < c.toNat) : k ≠ c := by
    rintro rfl
    omega
  refine ⟨?_, hne (by decide), hne (by decide)⟩
  simp [endsAuthority, isSlash, hne (c := '/') (by decide), hne (c := '\\') (by decide),
    hne (c := '?') (by decide), hne (c := '#') (by decide)]

theorem hostText_append_controls (inside : Bool) (cs : List Char) :
    hostText true inside (cs ++ ks) = hostText true inside cs ∨
      hostText true inside cs = cs ∧ hostText true inside (cs ++ ks) = cs ++ ks := by
  have hall (inside : Bool) : hostText true inside ks = ks := by
    clear * - hks
    induction ks generalizing inside with
    | nil => rfl
    | cons k ks ih =>
      obtain ⟨hends, hcolon, -⟩ := not_endsAuthority_control hks true List.mem_cons_self
      have hrest : ∀ k ∈ ks, k ≤ ' ' := fun j hj => hks j (List.mem_cons_of_mem _ hj)
      rw [hostText, if_neg (by simp [hends, hcolon]), ih hrest]
  induction cs generalizing inside with
  | nil => exact .inr ⟨rfl, hall inside⟩
  | cons c cs ih =>
    rw [List.cons_append, hostText, hostText]
    split
    · exact .inl rfl
    · rcases ih (c = '[' || (inside && c ≠ ']')) with h | ⟨hwhole, h⟩
      · exact .inl (congrArg _ h)
      · exact .inr ⟨congrArg _ hwhole, congrArg _ h⟩

theorem cutUserinfo_append_controls (cs : List Char) :
    cutUserinfo true (cs ++ ks) = (cutUserinfo true cs).map fun p => (p.1, p.2 ++ ks) := by
  have hinside : ∀ k ∈ ks, (!endsAuthority true k) = true := fun k hk => by
    simp [(not_endsAuthority_control hks true hk).1]
  have hat : ∀ k ∈ ks, decide (k ≠ '@') = true := fun k hk => by
    simpa using (not_endsAuthority_control hks true hk).2.2
  have hlength : (cs.takeWhile fun c => !endsAuthority true c).length ≤ cs.length :=
    (List.takeWhile_prefix _).length_le
  by_cases hwhole : (cs.takeWhile fun c => !endsAuthority true c).length = cs.length
  · have hcs : cs.takeWhile (fun c => !endsAuthority true c) = cs :=
      (List.takeWhile_prefix _).eq_of_length hwhole
    have hauthority : (cs ++ ks).takeWhile (fun c => !endsAuthority true c) = cs ++ ks := by
      rw [List.takeWhile_append, if_pos hwhole]
      congr
      simpa using hinside
    have hbehind : ((cs ++ ks).reverse.takeWhile (· ≠ '@')).length =
        ks.length + (cs.reverse.takeWhile (· ≠ '@')).length := by
      rw [List.reverse_append, List.takeWhile_append_of_pos (by simpa using hat)]
      simp
    have hmem : '@' ∈ cs ++ ks ↔ '@' ∈ cs := by
      have hnot : '@' ∉ ks := fun h => by simpa using hat _ h
      simp [hnot]
    simp only [cutUserinfo, hauthority, hcs, hbehind, hmem]
    split
    · have hbefore : (cs ++ ks).length - (ks.length + (cs.reverse.takeWhile (· ≠ '@')).length) =
          cs.length - (cs.reverse.takeWhile (· ≠ '@')).length := by
        rw [List.length_append]
        omega
      rw [hbefore, Option.map_some, List.take_append_of_le_length (by omega),
        List.drop_append_of_le_length (by omega)]
    · rfl
  · have hauthority : (cs ++ ks).takeWhile (fun c => !endsAuthority true c) =
        cs.takeWhile fun c => !endsAuthority true c := by
      rw [List.takeWhile_append, if_neg hwhole]
    simp only [cutUserinfo, hauthority]
    split
    · rw [Option.map_some, List.take_append_of_le_length (by omega),
        List.drop_append_of_le_length (by omega)]
    · rfl

/-- The port is the same behind a longer text, if it is followed by no further digit. -/
theorem parsePort_append_controls {scheme cs tail : List Char} {port port' : Option Nat}
    {rest rest' : List Char} (h : parsePort scheme cs = .ok (port, rest))
    (h' : parsePort scheme (cs ++ ks ++ '/' :: tail) = .ok (port', rest')) : port' = port := by
  obtain ⟨c, z, hz, hdigit, hcolon⟩ : ∃ c z, ks ++ '/' :: tail = c :: z ∧
      c.isDigit = false ∧ c ≠ ':' := by
    cases ks with
    | nil => exact ⟨'/', tail, rfl, by decide, by decide⟩
    | cons k ks =>
      have hk := hks k List.mem_cons_self
      exact ⟨k, _, rfl, isDigit_control hk,
        (not_endsAuthority_control hks true List.mem_cons_self).2.1⟩
  have hother {c : Char} (hc : c ≠ ':') (cs : List Char) :
      parsePort scheme (c :: cs) = .ok (none, c :: cs) := by
    simp [parsePort, hc]
  rw [List.append_assoc, hz] at h'
  cases cs with
  | nil =>
    rw [List.nil_append, hother hcolon] at h'
    cases h
    cases h'
    rfl
  | cons d cs =>
    by_cases hd : d = ':'
    · subst hd
      have hdigits : (cs ++ c :: z).takeWhile Char.isDigit = cs.takeWhile Char.isDigit := by
        rw [List.takeWhile_append]
        split
        · rename_i hlength
          simp [hdigit, (List.takeWhile_prefix Char.isDigit).eq_of_length hlength]
        · rfl
      simp only [parsePort, List.cons_append, hdigits] at h h'
      split at h
      · cases h
      · split at h
        · cases h
        · rename_i hport _
          rw [if_neg hport] at h'
          split at h'
          · cases h'
          · cases h
            cases h'
            rfl
    · rw [hother hd] at h
      rw [List.cons_append, hother hd] at h'
      cases h
      cases h'
      rfl

/-- A URL that goes on behind controls has the user, the host and the port of the URL before
them. -/
theorem ofAuthority_append_controls {scheme cs tail : List Char} {u v : Url}
    (h : ofAuthority scheme (splitAuthority cs) = .ok u)
    (h' : ofAuthority scheme (splitAuthority (cs ++ ks ++ '/' :: tail)) = .ok v) :
    v.front = u.front := by
  obtain ⟨user, rest, hsplit, hlong⟩ : ∃ user rest,
    (cutUserinfo true cs).getD ([], cs) = (user, rest) ∧
      (cutUserinfo true (cs ++ ks)).getD ([], cs ++ ks) = (user, rest ++ ks) := by
    rw [cutUserinfo_append_controls hks]
    cases cutUserinfo true cs with
    | none => exact ⟨[], cs, rfl, rfl⟩
    | some p => exact ⟨p.1, p.2, rfl, rfl⟩
  rw [splitAuthority_append_slash] at h'
  simp only [splitAuthority, hsplit, hlong] at h h'
  obtain ⟨-, host, port, behind, hhost, hport, rfl⟩ := ofAuthority_eq_ok.mp h
  obtain ⟨-, host', port', behind', hhost', hport', rfl⟩ := ofAuthority_eq_ok.mp h'
  have htext : hostText true false (rest ++ ks) = hostText true false rest := by
    rcases hostText_append_controls hks false rest with htext | ⟨hwhole, htext⟩
    · exact htext
    · rcases List.eq_nil_or_concat ks with rfl | ⟨ks', k, rfl⟩
      · rw [List.append_nil]
      · have hk : k ≤ ' ' := hks k (by simp)
        exact absurd (htext ▸ hhost') (Host.parse_control hk (by simp) host')
  rw [htext] at hhost' hport'
  rw [List.drop_append_of_le_length (hostText_length_le rest true false)] at hport'
  cases hhost.symm.trans hhost'
  cases parsePort_append_controls hks hport hport'
  rfl

end Controls

def isOuter (c : Char) : Bool := c ≤ ' '

def isKept (c : Char) : Bool := c ≠ '\t' && c ≠ '\n' && c ≠ '\r'

theorem clean_eq (cs : List Char) :
    clean cs = ((cs.dropWhile isOuter).reverse.dropWhile isOuter).reverse.filter isKept := rfl

/-- A slash and what follows it are cleaned apart from the text before them, up to controls at its
end. -/
theorem clean_append_slash_controls (cs tail : List Char) :
    ∃ ks tail', (∀ k ∈ ks, k ≤ ' ') ∧ clean (cs ++ '/' :: tail) =
      clean cs ++ ks ++ '/' :: tail' := by
  have hlead : (cs ++ '/' :: tail).dropWhile isOuter = cs.dropWhile isOuter ++ '/' :: tail := by
    rw [List.dropWhile_append]
    split
    · rename_i hempty
      rw [List.isEmpty_iff.mp hempty]
      rfl
    · rfl
  rw [clean_eq, clean_eq, hlead, trimmed_append (by decide)]
  generalize (cs.dropWhile isOuter) = inner
  have hinner : inner =
      (inner.reverse.dropWhile isOuter).reverse ++ (inner.reverse.takeWhile isOuter).reverse := by
    rw [← List.reverse_append, List.takeWhile_append_dropWhile, List.reverse_reverse]
  have hends : ∀ k ∈ ((inner.reverse.takeWhile isOuter).reverse).filter isKept, k ≤ ' ' := by
    intro k hk
    have hmem : k ∈ inner.reverse.takeWhile isOuter :=
      List.mem_reverse.mp (List.mem_of_mem_filter hk)
    exact of_decide_eq_true (List.mem_takeWhile_imp (p := isOuter) hmem)
  refine ⟨_, (tail.reverse.dropWhile isOuter).reverse.filter isKept, hends, ?_⟩
  rw [← List.filter_append, ← hinner, List.filter_append, List.filter_cons_of_pos (by decide)]

/-- A URL that begins with another one and a slash has its scheme, user, host and port. -/
theorem parse_below_front {s : String} {u v : Url} (hs : parse s = .ok u)
    (hweb : u.isWeb) (tail : String) (hv : parse (s ++ "/" ++ tail) = .ok v) :
    v.front = u.front := by
  have hspecial : isSpecial u.scheme = true := by rcases hweb with h | h <;> rw [h] <;> decide
  have hfile : u.scheme ≠ file := by rcases hweb with h | h <;> rw [h] <;> decide
  obtain ⟨rest, hcut⟩ := parse_scheme hs
  obtain ⟨ks, tail', hks, hclean⟩ := clean_append_slash_controls s.toList tail.toList
  have hlong : cutScheme (clean (s ++ "/" ++ tail).toList) =
      some (u.scheme, rest ++ (ks ++ '/' :: tail')) := by
    have hchars : (s ++ "/" ++ tail).toList = s.toList ++ '/' :: tail.toList := by simp
    rw [hchars, hclean, List.append_assoc]
    exact cutScheme_append hcut _
  rw [parse_special hcut hspecial hfile] at hs
  rw [parse_special hlong hspecial hfile, List.dropWhile_append] at hv
  split at hv
  · rename_i hempty
    have hnil : rest.dropWhile (isSlash true) = [] := by simpa using hempty
    rw [hnil] at hs
    cases hs
  · rw [← List.append_assoc] at hv
    exact ofAuthority_append_controls hks hs hv

/-- The port that is used: the one that is written, or that of the scheme. -/
def effectivePort (u : Url) : Option Nat := u.port.or (defaultPort? u.scheme)

/-- The URLs have the same scheme, host and port. -/
structure SharesOrigin (u v : Url) : Prop where
  scheme : u.scheme = v.scheme
  host : u.host = v.host
  port : u.effectivePort = v.effectivePort

theorem SharesOrigin.of_front {u v : Url} (h : u.front = v.front) : u.SharesOrigin v := by
  have hport : u.port = v.port := (congrArg Url.port h : u.front.port = v.front.port)
  obtain ⟨hscheme, hhost⟩ := scheme_host_of_front h
  exact ⟨hscheme, hhost, by rw [effectivePort, effectivePort, hscheme, hport]⟩

theorem isWeb.origin?_eq {u : Url} (h : u.isWeb) :
    u.origin? = some ⟨u.scheme, u.host, u.effectivePort⟩ := by
  rcases h with h | h <;> cases hport : u.port <;>
    simp [origin?, tupleOrigin?, effectivePort, h, hport, defaultPort?, http, https, blob, ws, wss]

/-- For web URLs an equal origin is all that origins compare. A URL of another scheme may have the
origin of a URL inside it. -/
theorem sharesOrigin_of_sameOrigin {u v : Url} (hu : u.isWeb) (hv : v.isWeb)
    (h : u.sameOrigin v = true) : u.SharesOrigin v := by
  simp only [sameOrigin, hu.origin?_eq, hv.origin?_eq, decide_eq_true_eq, Origin.mk.injEq] at h
  exact ⟨h.1, h.2.1, h.2.2⟩

end Url
end PullDecoration
