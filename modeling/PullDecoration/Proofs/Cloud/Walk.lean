import Mathlib.Data.Finset.Card
import Mathlib.Data.List.Chain
import PullDecoration.Cloud.Page
import PullDecoration.Proofs.Transcript

/-! Walks along the links of pages, whatever the source of the pages, which may answer a link
differently each time. A walk goes on exactly as long as pages name new links, and so it comes to an
end where there are only finitely many to name. -/
namespace PullDecoration
namespace Cloud
namespace Page

variable {α β ε σ : Type}

abbrev Source (ε α σ : Type) : Type := Partner (fun _ : Link => Except ε (Page α)) σ

abbrev Fetch (ε α : Type) : Type := Turn fun _ : Link => Except ε (Page α)

def Fetch.values : Fetch ε α → List α
  | ⟨_, .ok page⟩ => page.values
  | ⟨_, .error _⟩ => []

/-- The link of the later fetch is the one that the page of the earlier fetch names, to the
letter. -/
def Leads (earlier later : Fetch ε α) : Prop :=
  ∃ page text, earlier.2 = .ok page ∧ page.next = some text ∧ Text.isBlank text = false ∧
    later.1 = .next text

def LeadsOn (links : List Link) (page : Page α) : Prop :=
  ∃ text, page.next = some text ∧ Text.isBlank text = false ∧ .next text ∉ links

def Named (fetches : List (Fetch ε α)) (text : String) : Prop :=
  ∃ t ∈ fetches, ∃ page, t.2 = .ok page ∧ page.next = some text

/-- How a walk over these fetches ends, where these links were followed before it: at a page that
leads no further, at a failure, or at the limit. -/
inductive Ends (before : List Link) (limit : Nat) (fetches : List (Fetch ε α)) :
    Option (Except ε (List α)) → Prop
  | last {link : Link} {page : Page α} (hlast : fetches.getLast? = some ⟨link, .ok page⟩)
      (hend : ¬ page.LeadsOn (before ++ fetches.map (·.1))) :
      Ends before limit fetches (some (.ok (fetches.flatMap Fetch.values)))
  | failed {link : Link} {e : ε} (hlast : fetches.getLast? = some ⟨link, .error e⟩) :
      Ends before limit fetches (some (.error e))
  | cut (hlimit : fetches.length = limit)
      (hmore : ∀ t ∈ fetches.getLast?, ∃ page, t.2 = .ok page ∧
        page.LeadsOn (before ++ fetches.map (·.1))) :
      Ends before limit fetches none

structure IsWalk (limit : Nat) (fetches : List (Fetch ε α))
    (result : Option (Except ε (List α))) : Prop where
  first : ∀ t ∈ fetches.head?, t.1 = .first
  leads : fetches.IsChain Leads
  once : (fetches.map (·.1)).Nodup
  ends : Ends [] limit fetches result

theorem onward?_eq_some {page : Page α} {followed : List String} {text : String} :
    page.onward? followed = some text ↔
      page.next = some text ∧ Text.isBlank text = false ∧ text ∉ followed := by
  simp [onward?, Option.filter_eq_some_iff]

theorem onward?_eq_none {page : Page α} {followed : List String} :
    page.onward? followed = none ↔
      ∀ text, page.next = some text → Text.isBlank text = true ∨ text ∈ followed := by
  simp [onward?, Option.filter_eq_none_iff, or_iff_not_imp_left]

theorem leadsOn_iff {page : Page α} {links : List Link} {followed : List String}
    (h : ∀ text, .next text ∈ links ↔ text ∈ followed) :
    page.LeadsOn links ↔ ∃ text, page.onward? followed = some text := by
  simp [LeadsOn, onward?_eq_some, h]

/-- A walk that goes on from a link, page by page; what has been followed before is not followed
again. -/
inductive Walked : Nat → List String → Link → List (Fetch ε α) → Option (Except ε (List α)) → Prop
  | cut {followed : List String} {link : Link} : Walked 0 followed link [] none
  | failed {limit : Nat} {followed : List String} {link : Link} {e : ε} :
      Walked (limit + 1) followed link [⟨link, .error e⟩] (some (.error e))
  | last {limit : Nat} {followed : List String} {link : Link} {page : Page α}
      (h : page.onward? followed = none) :
      Walked (limit + 1) followed link [⟨link, .ok page⟩] (some (.ok page.values))
  | more {limit : Nat} {followed : List String} {link : Link} {page : Page α} {text : String}
      {fetches : List (Fetch ε α)} {result : Option (Except ε (List α))}
      (h : page.onward? followed = some text)
      (hrest : Walked limit (text :: followed) (.next text) fetches result) :
      Walked (limit + 1) followed link (⟨link, .ok page⟩ :: fetches)
        (result.map fun r => r.map (page.values ++ ·))

theorem walk_walked (p : Source ε α σ) (limit : Nat) (followed : List String)
    (link : Link) (s : σ) :
    Walked limit followed link (p.transcript (walk limit followed link) s)
      (p.run (walk limit followed link) s).1 := by
  induction limit generalizing followed link s with
  | zero => exact .cut
  | succ limit ih =>
    rw [walk, Partner.transcript_ask, Partner.run_ask]
    cases hanswer : (p.answer link s).1 with
    | error e => exact .failed
    | ok page =>
      cases honward : page.onward? followed with
      | none => simpa [honward] using Walked.last honward
      | some text =>
        have hrest := ih (text :: followed) (.next text) (p.answer link s).2
        simpa [honward, Partner.transcript_bind, Partner.run_bind] using Walked.more honward hrest

namespace Walked

variable {limit : Nat} {followed : List String} {link : Link} {fetches : List (Fetch ε α)}
variable {result : Option (Except ε (List α))}

theorem head (h : Walked limit followed link fetches result) : ∀ t ∈ fetches.head?, t.1 = link := by
  cases h <;> simp

theorem leads (h : Walked limit followed link fetches result) : fetches.IsChain Leads := by
  induction h with
  | cut => exact .nil
  | failed => exact .singleton _
  | last => exact .singleton _
  | @more _ _ _ page text _ _ honward hrest ih =>
    obtain ⟨hnext, hblank, -⟩ := onward?_eq_some.mp honward
    refine .cons ih fun t ht => ?_
    exact ⟨page, text, rfl, hnext, hblank, hrest.head t ht⟩

/-- The links that pages of the walk lead on by are new, each of them; they are the links followed,
but for the first one, and one more if the walk is cut. -/
theorem texts (h : Walked limit followed link fetches result) :
    ∃ texts : List String, fetches.tail.map (·.1) <+: texts.map .next ∧ texts.Nodup ∧
      (∀ text ∈ texts, text ∉ followed) ∧ (∀ text ∈ texts, Named fetches text) ∧
      (result = none → texts.length = limit) := by
  induction h with
  | cut => exact ⟨[], by simp⟩
  | failed => exact ⟨[], by simp⟩
  | last => exact ⟨[], by simp⟩
  | @more _ followed link page text fetches _ honward hrest ih =>
    obtain ⟨hnext, -, hfresh⟩ := onward?_eq_some.mp honward
    obtain ⟨texts, htail, hnodup, hnew, hnamed, hcut⟩ := ih
    refine ⟨text :: texts, ?_, ?_, ?_, ?_, ?_⟩
    · cases fetches with
      | nil => exact List.nil_prefix
      | cons t fetches => simpa [show t.1 = .next text from hrest.head t rfl] using htail
    · exact List.nodup_cons.mpr ⟨fun hmem => hnew text hmem List.mem_cons_self, hnodup⟩
    · exact List.forall_mem_cons.mpr ⟨hfresh, fun other hother hmem =>
        hnew other hother (List.mem_cons_of_mem _ hmem)⟩
    · refine List.forall_mem_cons.mpr
        ⟨⟨_, List.mem_cons_self, page, rfl, hnext⟩, fun other hother => ?_⟩
      obtain ⟨t, hmem, hpage⟩ := hnamed other hother
      exact ⟨t, List.mem_cons_of_mem _ hmem, hpage⟩
    · intro hnone
      rw [List.length_cons, hcut (Option.map_eq_none_iff.mp hnone)]

theorem once (h : Walked limit followed .first fetches result) : (fetches.map (·.1)).Nodup := by
  obtain ⟨texts, htail, hnodup, -⟩ := h.texts
  cases fetches with
  | nil => exact .nil
  | cons t fetches =>
    have ht : t.1 = .first := h.head t rfl
    have hnexts : (texts.map Link.next).Nodup := hnodup.map fun _ _ heq => by injection heq
    refine List.nodup_cons.mpr ⟨fun hmem => ?_, hnexts.sublist htail.sublist⟩
    obtain ⟨text, -, hfirst⟩ := List.mem_map.mp (htail.mem hmem)
    cases hfirst.trans ht

theorem ends {before : List Link} (h : Walked limit followed link fetches result)
    (hseen : ∀ text, .next text ∈ before ++ [link] ↔ text ∈ followed) :
    Ends before limit fetches result := by
  induction h generalizing before with
  | cut => exact .cut rfl (by simp)
  | failed => exact .failed rfl
  | @last limit followed link page honward =>
    have hend : ¬ page.LeadsOn (before ++ [link]) := by simp [leadsOn_iff hseen, honward]
    have hends : Ends before (limit + 1) [(⟨link, .ok page⟩ : Fetch ε α)] _ := .last rfl hend
    simpa [Fetch.values] using hends
  | @more limit followed link page text fetches result honward hrest ih =>
    have hmore : page.LeadsOn (before ++ [link]) := by simp [leadsOn_iff hseen, honward]
    have hends := @ih (before ++ [link]) fun other => by
      rw [List.mem_append, hseen]
      simp [or_comm]
    have hlast (t) (ht : fetches.getLast? = some t) :
        ((⟨link, .ok page⟩ : Fetch ε α) :: fetches).getLast? = some t := by
          simp [List.getLast?_cons, ht]
    have hlinks : before ++ [link] ++ fetches.map (·.1) =
        before ++ ((⟨link, .ok page⟩ : Fetch ε α) :: fetches).map (·.1) := by simp
    cases hends with
    | last hlater hend => exact .last (hlast _ hlater) (hlinks ▸ hend)
    | failed hlater => exact .failed (hlast _ hlater)
    | cut hlimit hleft =>
      refine .cut (by simp [hlimit]) ?_
      rw [← hlinks]
      cases hlater : fetches.getLast? with
      | none =>
        rw [List.getLast?_eq_none_iff] at hlater
        simpa [hlater] using hmore
      | some t =>
        rw [hlast t hlater, ← hlater]
        exact hleft

end Walked

/-- A walk with a higher limit begins as the one with the lower limit does, and is the same walk if
that one came to its end. -/
theorem walk_add (p : Source ε α σ) (limit more : Nat) (followed : List String)
    (link : Link) (s : σ) :
    p.transcript (walk limit followed link) s <+:
      p.transcript (walk (limit + more) followed link) s ∧
      ((p.run (walk limit followed link) s).1 ≠ none →
        p.transcript (walk (limit + more) followed link) s =
          p.transcript (walk limit followed link) s ∧
          p.run (walk (limit + more) followed link) s = p.run (walk limit followed link) s) := by
  induction limit generalizing followed link s with
  | zero => exact ⟨List.nil_prefix, fun h => absurd rfl h⟩
  | succ limit ih =>
    rw [Nat.add_right_comm, walk, walk]
    simp only [Partner.transcript_ask, Partner.run_ask]
    cases (p.answer link s).1 with
    | error e => exact ⟨List.prefix_rfl, fun _ => ⟨rfl, rfl⟩⟩
    | ok page =>
      cases honward : page.onward? followed with
      | none => simp [honward]
      | some text =>
        obtain ⟨hbegins, hsame⟩ := ih (text :: followed) (.next text) (p.answer link s).2
        simp only [honward, Partner.transcript_bind, Partner.run_bind, Partner.transcript_done,
          Partner.run_done, List.append_nil]
        refine ⟨(List.prefix_cons_inj _).mpr hbegins, fun hends => ?_⟩
        obtain ⟨htranscript, hrun⟩ := hsame fun hnone => hends (by rw [hnone]; rfl)
        rw [htranscript, hrun]
        exact ⟨rfl, rfl⟩

def OffersOnly (p : Source ε α σ) (offered : Finset String) : Prop :=
  ∀ link state page text, (p.answer link state).1 = .ok page →
  page.next = some text → text ∈ offered

theorem OffersOnly.length_le {p : Source ε α σ} {offered : Finset String} (h : OffersOnly p offered)
    {d : Dialogue (fun _ : Link => Except ε (Page α)) β} {s : σ} {texts : List String}
    (hnodup : texts.Nodup) (hnamed : ∀ text ∈ texts, Named (p.transcript d s) text) :
    texts.length ≤ offered.card := by
  have hoffered : texts.toFinset ⊆ offered := fun text htext => by
    obtain ⟨t, ht, page, hpage, hnext⟩ := hnamed text (List.mem_toFinset.mp htext)
    obtain ⟨state, hanswer⟩ := p.transcript_answers d s t ht
    exact h t.1 state page text (hanswer.symm.trans hpage) hnext
  rw [← List.toFinset_card_of_nodup hnodup]
  exact Finset.card_le_card hoffered

/-- A walk from the first page asks for that page and then for the links that the pages name, none
of them twice, and ends where it has to; with a higher limit it only goes further, if it has not
ended. The links that the source can name bound the number of its fetches, whatever circles they
form, and a limit beyond that bound is never reached. -/
theorem collect_isWalk (p : Source ε α σ) (limit : Nat) (s : σ) :
    let fetches := p.transcript (collect limit) s
    let result := (p.run (collect limit) s).1
    IsWalk limit fetches result ∧
      (∀ more, fetches <+: p.transcript (collect (limit + more)) s ∧
        (result ≠ none → p.transcript (collect (limit + more)) s = fetches ∧
          (p.run (collect (limit + more)) s).1 = result)) ∧
      ∀ offered, OffersOnly p offered →
        fetches.length ≤ offered.card + 1 ∧ (offered.card < limit → result ≠ none) := by
  intro fetches result
  have hwalked : Walked limit [] .first fetches result := walk_walked p limit [] .first s
  have hends : Ends [] limit fetches result := hwalked.ends (by simp)
  refine ⟨⟨hwalked.head, hwalked.leads, hwalked.once, hends⟩, fun more => ?_,
    fun offered hoffered => ?_⟩
  · obtain ⟨hbegins, hsame⟩ := walk_add p limit more [] .first s
    exact ⟨hbegins, fun hresult => ⟨(hsame hresult).1, congrArg Prod.fst (hsame hresult).2⟩⟩
  · obtain ⟨texts, htail, hnodup, -, hnamed, hcut⟩ := hwalked.texts
    have htexts : texts.length ≤ offered.card := hoffered.length_le hnodup hnamed
    have hlength := htail.length_le
    simp only [List.length_map, List.length_tail] at hlength
    refine ⟨by omega, fun hlimit hnone => ?_⟩
    have := hcut hnone
    omega

def circle : Source String Nat Unit where
  answer link s := (.ok (if link = .next "two" then ⟨[2], some "one"⟩ else ⟨[1], some "two"⟩), s)

theorem circle_offersOnly : OffersOnly circle {"one", "two"} := by
  intro link state page text hpage hnext
  simp only [circle, Except.ok.injEq] at hpage
  subst hpage
  split at hnext <;> simp_all

theorem circle_walked :
    OffersOnly circle {"one", "two"} ∧
      IsWalk 5 (circle.transcript (collect 5) ()) (circle.run (collect 5) ()).1 ∧
      (circle.transcript (collect 5) ()).length ≤ 3 ∧ (circle.run (collect 5) ()).1 ≠ none :=
  let ⟨hwalk, _, hbound⟩ := collect_isWalk circle 5 ()
  let ⟨hlength, hends⟩ := hbound {"one", "two"} circle_offersOnly
  ⟨circle_offersOnly, hwalk, hlength, hends (by decide)⟩

end Page
end Cloud
end PullDecoration
