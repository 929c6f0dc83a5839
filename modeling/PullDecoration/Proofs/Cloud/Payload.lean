import PullDecoration.Proofs.Cloud.Failure
import PullDecoration.Proofs.Cloud.Service
import PullDecoration.Proofs.Provider.Discipline

/-! What is sent for a new comment: a JSON object with its text and its place, and nothing else. A
pass sends such a body for the summary and for each open issue, and what it sends counts as a
decoration when it is listed. -/
namespace PullDecoration

theorem forall₂_append {α β : Type} {R : α → β → Prop} {as as' : List α} {bs : List β}
    (h : List.Forall₂ R (as ++ as') bs) :
    ∃ front back, bs = front ++ back ∧ List.Forall₂ R as front ∧ List.Forall₂ R as' back := by
  refine ⟨bs.take as.length, bs.drop as.length, (List.take_append_drop _ _).symm, ?_, ?_⟩
  · exact (List.forall₂_take_append _ _ _ h.flip).flip
  · exact (List.forall₂_drop_append _ _ _ h.flip).flip

theorem exists_of_forall₂ {α β : Type} {R : α → β → Prop} {as : List α} {bs : List β}
    (h : List.Forall₂ R as bs) {b : β} (hb : b ∈ bs) : ∃ a ∈ as, R a b := by
  induction h with
  | nil => cases hb
  | @cons a' b' as bs hR _ ih =>
    rcases List.mem_cons.mp hb with rfl | hb
    · exact ⟨a', List.mem_cons_self, hR⟩
    · obtain ⟨a, ha, hab⟩ := ih hb
      exact ⟨a, List.mem_cons_of_mem _ ha, hab⟩

abbrev Pass.IsUncreating {α : Type} (d : Pass α) : Prop := d.Puts fun call => ¬ call.IsPosting

theorem Sweep.deleteAll_uncreating (ids : List CommentId) : (deleteAll ids).IsUncreating := by
  induction ids with
  | nil => exact .done _
  | cons id ids ih => exact .ask not_false fun reply => ih.bind fun result => .done _

theorem Decoration.clearStep_uncreating : clearStep.IsUncreating := by
  have hpass : Sweep.pass.IsUncreating := by
    refine .ask not_false fun reply => ?_
    cases reply with
    | error err => exact .done _
    | ok ids => exact (Sweep.deleteAll_uncreating ids).bind fun result => .done _
  exact hpass.bind fun result => .done _

namespace Cloud

open Http Json Decoration

/-- The members of an object for a place: the path, and the line if there is one. -/
structure IsPlace (ms : List (String × Value)) (path : SourcePath)
    (line : Option UInt32) : Prop where
  names : (ms.map Prod.fst).Perm ("path" :: if line.isSome then ["to"] else [])
  path : ("path", .string path.text) ∈ ms
  line : ∀ n, line = some n → ("to", .number n.toNat) ∈ ms

/-- The members of an object for a comment: the text, and the place if there is one. -/
structure IsPayload (ms : List (String × Value)) (text : String) (path : Option SourcePath)
    (line : Option UInt32) : Prop where
  names : (ms.map Prod.fst).Perm ("content" :: if path.isSome then ["inline"] else [])
  content : ("content", .object [("raw", .string text)]) ∈ ms
  inline : ∀ p, path = some p → ∃ place, ("inline", .object place) ∈ ms ∧ IsPlace place p line

/-- The body is a JSON text of one value, and this is an object for the comment. -/
def Conveys (body text : String) (path : Option SourcePath) (line : Option UInt32) : Prop :=
  ∃ ms, (∀ v, IsTextOf body v ↔ v = .object ms) ∧ IsPayload ms text path line

section Bodies

variable {text : String} {path : Option SourcePath} {line : Option UInt32}

theorem IsPayload.inline_iff {ms : List (String × Value)} (h : IsPayload ms text path line) :
    "inline" ∈ ms.map Prod.fst ↔ path.isSome = true := by
  rw [h.names.mem_iff]
  cases path <;> simp

theorem Conveys.members {body : String} {ms : List (String × Value)}
    (h : Conveys body text path line) (hbody : IsTextOf body (.object ms)) :
    IsPayload ms text path line := by
  obtain ⟨ms', hvalue, hms⟩ := h
  have hsame : ms = ms' := by simpa using (hvalue _).mp hbody
  rw [hsame]
  exact hms

theorem isPlace_write (path : SourcePath) (line : Option UInt32) :
    ∃ ms, Anchor.codec.write ⟨line, path⟩ = .object ms ∧ IsPlace ms path line := by
  cases line with
  | none =>
    refine ⟨_, rfl, ⟨List.Perm.refl _, List.mem_cons_self, ?_⟩⟩
    intro n hn
    cases hn
  | some n =>
    refine ⟨_, rfl, ⟨List.Perm.swap .., List.mem_cons_of_mem _ List.mem_cons_self, ?_⟩⟩
    rintro _ ⟨⟩
    exact List.mem_cons_self

theorem isPayload_write (text : String) (path : Option SourcePath) (line : Option UInt32) :
    ∃ ms, NewComment.codec.write (.of text path line) = .object ms ∧
    IsPayload ms text path line := by
  cases path with
  | none =>
    refine ⟨_, rfl, ⟨List.Perm.refl _, List.mem_cons_self, ?_⟩⟩
    intro p hp
    cases hp
  | some p =>
    obtain ⟨place, hwrite, hplace⟩ := isPlace_write p line
    refine ⟨_, rfl, ⟨List.Perm.refl _, List.mem_cons_self, ?_⟩⟩
    rintro _ ⟨⟩
    refine ⟨place, ?_, hplace⟩
    rw [← hwrite]
    exact List.mem_cons_of_mem _ List.mem_cons_self

namespace Endpoint

variable {e : Endpoint} {r : Request}

theorem Creates.conveys (h : e.Creates (.of text path line) r) : Conveys r.body text path line := by
  obtain ⟨ms, hwrite, hms⟩ := isPayload_write text path line
  refine ⟨ms, ?_, hms⟩
  have htext : IsTextOf r.body (.object ms) := by
    rw [h.body, hwrite]
    exact Value.isTextOf_text _
  intro v
  constructor
  · intro hv
    exact hv.unique htext
  · rintro rfl
    exact htext

theorem Creates.decode {c : NewComment} (h : e.Creates c r) :
    NewComment.codec.decode r.body = .ok c := by
  rw [h.body]
  exact (NewComment.represented_write c).decode (Value.isTextOf_text _)

end Endpoint

end Bodies

namespace Endpoint

variable {σ : Type} {server : Server σ} {e : Endpoint} {limit : Nat} {s : σ}

def posts {α : Type} (server : Server σ) (d : Exchange α) (s : σ) : List Request :=
  (server.requests d s).filter (·.method = .post)

theorem posts_bind {α β : Type} (server : Server σ) (d : Exchange α) (f : α → Exchange β) (s : σ) :
    posts server (d.bind f) s =
      posts server d s ++ posts server (f (server.run d s).1) (server.run d s).2 := by
  rw [posts, requests_bind, List.filter_append]
  rfl

theorem posts_of_uncreating {α : Type} {d : Pass α} (hd : d.IsUncreating)
    (server : Server σ) (e : Endpoint) (limit : Nat) (s : σ) :
    posts server (e.perform limit d) s = [] := by
  have hputs : (e.perform limit d).Puts fun r => r.method ≠ .post := by
    refine puts_of_calls (fun call hcall => ?_) hd
    cases call with
    | list =>
      refine (entries_puts (fun link r hr => ?_) limit).bind fun found => .done _
      rw [get_of_listRequest hr]
      decide
    | create text path line => exact absurd trivial hcall
    | delete id =>
      refine (send_puts fun r hr => ?_).bind fun reply => .done _
      rw [(deletes_of_deleteRequest hr).method]
      decide
  refine List.filter_eq_nil_iff.mpr fun r hr => ?_
  simpa using requests_puts server hputs s r hr

theorem posts_of_creates {cs : List NewComment} {requests : List Request}
    (h : List.Forall₂ e.Creates cs requests) : requests.filter (·.method = .post) = requests := by
  refine List.filter_eq_self.mpr ?_
  induction h with
  | nil => exact List.forall_mem_nil _
  | cons hc _ ih => exact List.forall_mem_cons.mpr ⟨by simpa using hc.method, ih⟩

/-- The exchange posts these comments. Where a listing without end leaves it without a result, it
posts nothing. -/
def PostsOnce {α : Type} (server : Server σ) (e : Endpoint) (cs : List NewComment)
    (d : Exchange (Option α)) (s : σ) : Prop :=
  match (server.run d s).1 with
  | none => posts server d s = []
  | some _ => List.Forall₂ e.Creates cs (posts server d s)

section

variable {α β : Type} {cs : List NewComment}

theorem PostsOnce.creates {d : Exchange (Option α)} {result : α} (h : PostsOnce server e cs d s)
    (hresult : (server.run d s).1 = some result) :
    List.Forall₂ e.Creates cs (posts server d s) := by
  rwa [PostsOnce, hresult] at h

theorem PostsOnce.eq_nil {d : Exchange (Option α)} (h : PostsOnce server e cs d s)
    (hresult : (server.run d s).1 = none) : posts server d s = [] := by
  rwa [PostsOnce, hresult] at h

theorem PostsOnce.exists_creates {d : Exchange (Option α)} {r : Request}
    (h : PostsOnce server e cs d s) (hr : r ∈ posts server d s) : ∃ c ∈ cs, e.Creates c r := by
  cases hresult : (server.run d s).1 with
  | none =>
    rw [h.eq_nil hresult] at hr
    cases hr
  | some result => exact exists_of_forall₂ (h.creates hresult) hr

theorem PostsOnce.map {d : Exchange (Option α)} (h : PostsOnce server e cs d s) (f : α → β) :
    PostsOnce server e cs (d.bind fun r => .done (r.map f)) s := by
  have hsame : posts server (d.bind fun r => .done (r.map f)) s = posts server d s := by
    rw [posts_bind]
    exact List.append_nil _
  rw [PostsOnce] at h ⊢
  rw [hsame, Partner.run_bind, Partner.run_done]
  cases hrun : (server.run d s).1 with
  | none =>
    rw [hrun] at h
    exact h
  | some result =>
    rw [hrun] at h
    exact h

theorem perform_done (e : Endpoint) (limit : Nat) (d : Pass α) (f : α → β) :
    e.perform limit (d.bind fun a => .done (f a)) = (e.perform limit d).bind fun r =>
      .done (r.map f) := by
  rw [perform_bind]
  congr
  funext r
  cases r with
  | none => rfl
  | some a => rfl

theorem postsOnce_behind {d : Pass α} {f : α → Pass β} (hd : d.IsUncreating)
    (hf : ∀ a s, PostsOnce server e cs (e.perform limit (f a)) s) :
    PostsOnce server e cs (e.perform limit (d.bind f)) s := by
  have hsilent := posts_of_uncreating hd server e limit s
  rw [perform_bind, PostsOnce, posts_bind, Partner.run_bind, hsilent, List.nil_append]
  cases (server.run (e.perform limit d) s).1 with
  | none => rfl
  | some a => exact hf a _

end

theorem steps_postsOnce (toggles : Toggles) (a : Analysis) (s : σ) :
    PostsOnce server e (if e.isPostable then postedComments toggles a else [])
    (e.perform limit (steps toggles a))
      s := by
  have hunswept {toggles : Toggles} (hclear : toggles.clear = false) (s : σ) :
      PostsOnce server e (if e.isPostable then postedComments toggles a else [])
        (e.perform limit (steps toggles a)) s := by
    obtain ⟨⟨outcomes, hrun⟩, hposts⟩ := steps_posts hclear server e limit a s
    rw [PostsOnce, hrun, posts, posts_of_creates hposts]
    exact hposts
  cases hclear : toggles.clear with
  | false => exact hunswept hclear s
  | true =>
    rw [steps_of_clear hclear]
    refine postsOnce_behind clearStep_uncreating fun o s => ?_
    rw [perform_done]
    exact (hunswept rfl s).map _

theorem decorate_postsOnce {settings : Settings} {key : PullRequestKey} {d : Descriptor}
    (hkey : d.key = some key) (he : ofSettings settings key = .ok e) (server : Server σ)
    (limit : Nat) (o : Occasion) (a : Analysis) (s : σ) :
    PostsOnce server e (if e.isPostable then postedComments settings.toggles a else [])
      (decorate limit o settings a d) s := by
  have hdecorate : decorate limit o settings a d =
      (e.perform limit (Decoration.pass o settings.toggles a d)).bind fun r =>
        .done (r.map .ok) := by
    simp only [decorate, hkey, he]
  rw [hdecorate, pass_of_key o settings.toggles a hkey, perform_done]
  exact ((steps_postsOnce settings.toggles a s).map _).map _

end Endpoint

theorem EntryId.exists_commentId {id : EntryId}
    (h : ∀ text, id = .text text → Text.isBlank text = false) :
    ∃ comment, id.commentId? = some comment := by
  have hsome (s : String) (hs : s ≠ "") : ∃ comment : CommentId,
      Identifier.ofString? s = some comment :=
    Option.ne_none_iff_exists'.mp (mt Identifier.ofString?_eq_none.mp hs)
  cases id with
  | number n =>
    refine hsome _ fun hempty => ?_
    exact Text.decimal_ne_nil n (String.ofList_eq_empty_iff.mp hempty)
  | text s =>
    refine hsome _ fun hempty => ?_
    have hblank := h s rfl
    rw [Text.trim_eq_empty_iff.mp hempty] at hblank
    cases hblank

/-- Wherever a page lists the text as the body of a comment that is there and has an id, the page is
read, and the comment counts as a decoration under this id. -/
def IsRecognised (raw : String) : Prop :=
  ∀ (page : Page Entry) (v : Value) (s : String), page.Represented v → IsTextOf s v →
    (Page.codec Entry.codec).decode s = .ok page ∧
      ∀ entry ∈ page.values, entry.body = some raw → entry.deleted = false →
        (∀ text, entry.id = .text text → Text.isBlank text = false) →
        entry.isDecoration = true ∧
          ∃ id, entry.id.commentId? = some id ∧ id ∈ Entry.decorationIds page.values

theorem isRecognised_of_isIn {raw : String} (h : Marker.isIn raw = true) : IsRecognised raw := by
  intro page v s hpage hs
  refine ⟨hpage.decode hs, ?_⟩
  intro entry hentry hbody hdeleted hid
  have hdecoration : entry.isDecoration = true := by
    rw [Entry.isDecoration, hdeleted, hbody]
    exact h
  obtain ⟨id, hsome⟩ := EntryId.exists_commentId hid
  refine ⟨hdecoration, id, hsome, ?_⟩
  exact List.mem_filterMap.mpr ⟨entry, List.mem_filter.mpr ⟨hentry, hdecoration⟩, hsome⟩

def HasRaw (body raw : String) : Prop :=
  ∃ ms inner, IsTextOf body (.object ms) ∧ ("content", .object inner) ∈ ms ∧
  ("raw", .string raw) ∈ inner

theorem Conveys.raw_eq {body text raw : String} {path : Option SourcePath} {line : Option UInt32}
    (h : Conveys body text path line) (hraw : HasRaw body raw) : raw = text := by
  obtain ⟨ms, inner, hbody, hcontent, hinner⟩ := hraw
  have hms := h.members hbody
  have hnodup : (ms.map Prod.fst).Nodup := by
    rw [hms.names.nodup_iff]
    cases path <;> simp
  have honly : ("content", Value.object inner) =
      ("content", Value.object [("raw", .string text)]) :=
    List.inj_on_of_nodup_map hnodup hcontent hms.content rfl
  simp only [Prod.mk.injEq, Value.object.injEq, true_and] at honly
  subst honly
  simpa using hinner

theorem Conveys.hasRaw {body text : String} {path : Option SourcePath} {line : Option UInt32}
    (h : Conveys body text path line) : HasRaw body text := by
  obtain ⟨ms, hvalue, hms⟩ := h
  exact ⟨ms, _, (hvalue _).mpr rfl, hms.content, List.mem_singleton.mpr rfl⟩

theorem NewComment.eq_of (c : NewComment) :
    c = .of c.text (c.anchor.map (·.path)) (c.anchor.bind (·.line)) := by
  obtain ⟨text, anchor⟩ := c
  cases anchor <;> rfl

theorem isRecognised_of_creates {e : Endpoint} {c : NewComment} {r : Request} (h : e.Creates c r)
    (hmark : Marker.isIn c.text = true) :
    (∃ raw, HasRaw r.body raw) ∧ ∀ raw, HasRaw r.body raw → IsRecognised raw := by
  rw [c.eq_of] at h
  refine ⟨⟨c.text, h.conveys.hasRaw⟩, ?_⟩
  intro raw hraw
  rw [h.conveys.raw_eq hraw]
  exact isRecognised_of_isIn hmark

/-- The comments are those on the summary, if one is posted, and those on the issues. -/
theorem postedComments_eq (postable : Bool) (toggles : Toggles) (a : Analysis) :
    (if postable then postedComments toggles a else []) =
      (if postable && toggles.summary then [a.summary] else []).map
        (fun text => .of (Marker.put text) none none) ++
        (if postable && toggles.issues then a.openIssues else []).map fun i =>
          .of (Marker.put i.text) i.sourcePath i.anchoredLine := by
  rw [postedComments]
  cases postable <;> cases toggles.summary <;> cases toggles.issues <;> simp

open Endpoint in
/-- A request for a new comment conveys exactly the comment. A decoration sends such requests for
its summary and for each open issue in turn, the latter with a place exactly if the issue has a
path, and every text that is sent with one counts as a decoration when it is listed. -/
theorem posts_convey_comments :
    (∀ (e : Endpoint) (text : String) (path : Option SourcePath) (line : Option UInt32),
      (e.createRequest (.of text path line)).isOk = e.isPostable ∧
        ∀ r, e.createRequest (.of text path line) = .ok r → r.method = .post ∧
        Conveys r.body text path line ∧
          NewComment.codec.decode r.body = .ok (.of text path line)) ∧
      ∀ {σ : Type} (server : Server σ) (limit : Nat) (o : Occasion)
      (settings : Settings) (a : Analysis)
        (d : Descriptor) (s : σ) (key : PullRequestKey) (e : Endpoint), d.key = some key →
        Endpoint.ofSettings settings key = .ok e →
        let sent := posts server (decorate limit o settings a d) s
        ((server.run (decorate limit o settings a d) s).1 = none → sent = []) ∧
        (∀ result, (server.run (decorate limit o settings a d) s).1 = some result →
          ∃ summaries findings, sent = summaries ++ findings ∧
            List.Forall₂ (fun text r => Conveys r.body (Marker.put text) none none)
              (if e.isPostable && settings.toggles.summary then [a.summary] else []) summaries ∧
            List.Forall₂ (fun i r => Conveys r.body
              (Marker.put i.text) i.sourcePath i.anchoredLine ∧
                ∀ ms, IsTextOf r.body (.object ms) →
                ("inline" ∈ ms.map Prod.fst ↔ i.sourcePath.isSome = true))
              (if e.isPostable && settings.toggles.issues then a.openIssues else []) findings) ∧
          ∀ r ∈ sent, (∃ raw, HasRaw r.body raw) ∧ ∀ raw, HasRaw r.body raw → IsRecognised raw := by
  refine ⟨?_, ?_⟩
  · intro e text path line
    refine ⟨createRequest_isOk e _, ?_⟩
    intro r hr
    have hcreates := creates_of_createRequest hr
    exact ⟨hcreates.method, hcreates.conveys, hcreates.decode⟩
  · intro σ server limit o settings a d s key e hkey he sent
    have honce := decorate_postsOnce hkey he server limit o a s
    rw [postedComments_eq] at honce
    refine ⟨honce.eq_nil, ?_, ?_⟩
    · intro result hresult
      obtain ⟨summaries, findings, hsent, hsummaries, hfindings⟩ :=
        forall₂_append (honce.creates hresult)
      refine ⟨summaries, findings, hsent, ?_, ?_⟩
      · refine (List.forall₂_map_left_iff.mp hsummaries).imp ?_
        intro text r hcreates
        exact hcreates.conveys
      · refine (List.forall₂_map_left_iff.mp hfindings).imp ?_
        intro i r hcreates
        refine ⟨hcreates.conveys, ?_⟩
        intro ms hbody
        exact (hcreates.conveys.members hbody).inline_iff
    · intro r hr
      obtain ⟨c, hc, hcreates⟩ := honce.exists_creates hr
      apply isRecognised_of_creates hcreates
      rcases List.mem_append.mp hc with hc | hc
      · obtain ⟨text, -, rfl⟩ := List.mem_map.mp hc
        exact Marker.isIn_put text
      · obtain ⟨i, -, rfl⟩ := List.mem_map.mp hc
        exact Marker.isIn_put i.text

open Endpoint in
/-- The issue with a file is posted with its place, and the one without a file is not. What is sent
with it counts as a decoration, though nothing is known of what became of the request. -/
theorem sampleAnalysis_posts :
    let text := "a \"b\"\té"
    let path : SourcePath := ⟨"src/lib.rs", by decide⟩
    ∃ e r summary first second, ofSettings sampleSettings ⟨"99", by decide⟩ = .ok e ∧
      e.createRequest (.of text (some path) none) = .ok r ∧ Conveys r.body text (some path) none ∧
      posts Server.unreachable
          (decorate 1 .earliest sampleSettings sampleAnalysis samplePullRequest) () =
            [summary, first, second] ∧
      Conveys first.body (Marker.put "**MAJOR**: first") (some path) (some 12) ∧
      Conveys second.body (Marker.put "**INFO**: second") none none ∧
      ∃ raw, HasRaw second.body raw ∧ IsRecognised raw := by
  intro text path
  obtain ⟨hbody, hdecorate⟩ := posts_convey_comments
  have hsome : (ofSettings sampleSettings ⟨"99", by decide⟩).isOk = true := by decide +kernel
  have hall : (ofSettings sampleSettings ⟨"99", by decide⟩).toOption.all isPostable =
    true := by decide +kernel
  obtain ⟨e, he⟩ := isOk_iff.mp hsome
  have hpostable : e.isPostable = true := by
    rw [he] at hall
    exact hall
  have hends : (Server.unreachable.run
      (decorate 1 .earliest sampleSettings sampleAnalysis samplePullRequest)
      ()).1.isSome = true := by
    decide +kernel
  obtain ⟨result, hresult⟩ := Option.isSome_iff_exists.mp hends
  obtain ⟨hcreatable, hconveys⟩ := hbody e text (some path) none
  obtain ⟨r, hr⟩ := isOk_iff.mp (hcreatable.trans hpostable)
  obtain ⟨-, hposts, hrecognised⟩ :=
    hdecorate Server.unreachable 1 .earliest sampleSettings sampleAnalysis
    samplePullRequest () ⟨"99", by decide⟩ e rfl he
  obtain ⟨summaries, findings, hsent, hsummaries, hfindings⟩ := hposts result hresult
  have hsummary : (true && sampleSettings.toggles.summary) = true := rfl
  have hissues : (true && sampleSettings.toggles.issues) = true := rfl
  have hopen : sampleAnalysis.openIssues =
      [⟨"first", .major, .opened, none, some "./src\\lib.rs", some 12⟩,
        ⟨"second", .info, .reopened, none, none, some 7⟩] := by decide
  rw [hpostable, if_pos hsummary] at hsummaries
  rw [hpostable, if_pos hissues, hopen] at hfindings
  obtain ⟨summary, _, -, hnone, rfl⟩ := List.forall₂_cons_left_iff.mp hsummaries
  obtain ⟨first, _, ⟨hfirst, -⟩, hrest, rfl⟩ := List.forall₂_cons_left_iff.mp hfindings
  obtain ⟨second, _, ⟨hsecond, -⟩, hend, rfl⟩ := List.forall₂_cons_left_iff.mp hrest
  rw [List.forall₂_nil_left_iff.mp hnone, List.forall₂_nil_left_iff.mp hend] at hsent
  obtain ⟨⟨raw, hraw⟩, hread⟩ := hrecognised second (by rw [hsent]; simp)
  refine ⟨e, r, summary, first, second, he, hr, (hconveys r hr).2.1, hsent, ?_, ?_, raw,
    hraw, hread raw hraw⟩
  · exact hfirst
  · exact hsecond

end Cloud
end PullDecoration
