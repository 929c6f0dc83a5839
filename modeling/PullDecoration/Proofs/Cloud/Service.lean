import PullDecoration.Proofs.Cloud.Resource
import PullDecoration.Proofs.Json.RoundTrip
import PullDecoration.Proofs.Provider.Orderly

/-! A service that keeps the comments of a pull request as the store does: it shows all of them in
pages, posts what a payload says, and removes what a URL names. Each call through the service then
does to its comments what it does to those of the store. -/
namespace PullDecoration
namespace Cloud

open Http Json

/-- A place on the wire: an object with a path, and maybe a line. Other members may stand beside
these. -/
inductive Anchor.Represented : Value → Anchor → Prop
  | object {ms : List (String × Value)} {a : Anchor}
      (hpath : valuesOf "path" ms = [.string a.path.text])
      (hline : (∃ n, valuesOf "to" ms = [.number n.toNat] ∧ a.line = some n) ∨
        valuesOf "to" ms = [] ∧ a.line = none) : Represented (.object ms) a

/-- A new comment on the wire: an object with a text inside its content, and maybe a place. -/
inductive NewComment.Represented : Value → NewComment → Prop
  | object {ms inner : List (String × Value)} {c : NewComment}
      (hcontent : valuesOf "content" ms = [.object inner])
      (hraw : valuesOf "raw" inner = [.string c.text])
      (hanchor : (∃ v a, valuesOf "inline" ms = [v] ∧ Anchor.Represented v a ∧ c.anchor = some a) ∨
        valuesOf "inline" ms = [] ∧ c.anchor = none) : Represented (.object ms) c

theorem Anchor.represented_write (a : Anchor) : Represented (Anchor.codec.write a) a := by
  obtain ⟨line, path⟩ := a
  cases line with
  | none => exact .object rfl (.inr ⟨rfl, rfl⟩)
  | some n => exact .object rfl (.inl ⟨n, rfl, rfl⟩)

theorem NewComment.represented_write (c : NewComment) :
    Represented (NewComment.codec.write c) c := by
  obtain ⟨text, anchor⟩ := c
  cases anchor with
  | none => exact .object rfl rfl (.inr ⟨rfl, rfl⟩)
  | some a => exact .object rfl rfl (.inl ⟨_, a, rfl, a.represented_write, rfl⟩)

theorem Anchor.Represented.read {v : Value} {a : Anchor} (h : Represented v a) {level : Nat}
    (hlevel : level < readableLevels) : Anchor.codec.read (v.document level) = .ok a := by
  cases h with
  | @object ms a hpath hline =>
    have hpathField : (RecordField.required "path" Identifier.codec).Holds (level + 1) ms a.path :=
      RecordField.holds_of_member hpath a.path.keeps.read
    have hlineField : (RecordField.optional "to" Codec.u32).Holds (level + 1) ms a.line := by
      rcases hline with ⟨n, h, hn⟩ | ⟨h, hnone⟩
      · refine RecordField.holds_of_member h ?_
        have hkeeps : Codec.u32.option.Keeps (level + 1) (some n) :=
          Codec.keeps_option (fun _ => Value.noConfusion) fun n _ => Codec.keeps_u32 n
        rw [hn]
        exact hkeeps.read
      · exact RecordField.holds_of_absent h (by rw [hnone]; rfl)
    exact Codec.record_read (a.line, a.path, ()) hlevel (by decide)
      ⟨hlineField, hpathField, trivial⟩

namespace NewComment

theorem Represented.read {v : Value} {c : NewComment} (h : Represented v c) :
    NewComment.codec.read (v.document 0) = .ok c := by
  cases h with
  | @object ms inner c hcontent hraw hanchor =>
    have hrawField : (RecordField.required "raw" Codec.string).Holds 2 inner c.text :=
      RecordField.holds_of_member hraw rfl
    have htext : textCodec.read ((Value.object inner).document 1) = .ok c.text :=
      Codec.record_read (c.text, ()) (by decide) (by decide) ⟨hrawField, trivial⟩
    have hanchorField : (RecordField.optional "inline" Anchor.codec).Holds 1 ms c.anchor := by
      rcases hanchor with ⟨v, a, h, ha, hsome⟩ | ⟨h, hnone⟩
      · refine RecordField.holds_of_member h ?_
        have hread : Anchor.codec.read (v.document 1) = .ok a := ha.read (by decide)
        cases ha with
        | object =>
          rw [Value.document] at hread ⊢
          simp [RecordField.optional, Codec.option, readOption, hread, hsome, bind,
            Except.bind, pure, Except.pure]
      · exact RecordField.holds_of_absent h (by rw [hnone]; rfl)
    have hcontentField : (RecordField.required "content" textCodec).Holds 1 ms c.text :=
      RecordField.holds_of_member hcontent htext
    exact Codec.record_read (c.text, c.anchor, ()) (by decide) (by decide)
      ⟨hcontentField, hanchorField, trivial⟩

theorem Represented.decode {v : Value} {c : NewComment} {s : String} (h : Represented v c)
    (hs : IsTextOf s v) :
    NewComment.codec.decode s = .ok c := by
  simp [Codec.decode, hs.parse, h.read, bind, Except.bind, pure, Except.pure]

end NewComment

def Entry.Shows (entry : Entry) (c : Comment) : Prop :=
  ∃ n, c.id = .ofNat n ∧ entry = ⟨.number n, some c.body, false⟩

theorem Entry.decorationIds_of_shows {entries : List Entry} {s : Store}
    (h : List.Forall₂ Entry.Shows entries s.comments) : Entry.decorationIds entries = s.marked := by
  obtain ⟨comments, last⟩ := s
  simp only [Store.marked] at h ⊢
  induction h with
  | nil => rfl
  | @cons entry c entries comments hshows _ ih =>
    obtain ⟨n, hid, rfl⟩ := hshows
    have hnumber : (EntryId.number n).commentId? = some c.id := by
      rw [hid]
      exact Identifier.ofString?_text (CommentId.ofNat n)
    rw [Entry.decorationIds] at ih ⊢
    cases hmark : Marker.isIn c.body with
    | false =>
      rw [List.filter_cons_of_neg (by simp [Entry.isDecoration, hmark]),
        List.filter_cons_of_neg (by simp [hmark]), ih]
    | true =>
      rw [List.filter_cons_of_pos (by simp [Entry.isDecoration, hmark]),
        List.filter_cons_of_pos (by simp [hmark]), List.map_cons, ← ih]
      simp only [List.filterMap_cons, hnumber]

namespace Endpoint

variable {σ : Type}

def Leaves (server : Server σ) (view : σ → Store) (r : Request) (s : σ) (store : Store) : Prop :=
  ∃ reply, (server.answer r s).1 = some reply ∧ isSuccess reply.status = true ∧
    view (server.answer r s).2 = store

/-- The server keeps the comments in a store: it shows them in order, however they are cut into
pages and as long as their numbers have 64 bits; a new comment gets the next number; and what is
deleted by its number is gone. To be shown they must be asked for, so the URLs of the pages are no
longer than what can be sent. -/
structure Hosts (server : Server σ) (e : Endpoint) (path : List (List Char))
    (view : σ → Store) : Prop where
  listed : ∀ s, (view s).Numbered → (view s).lastNumber < UInt64.size →
    ∃ links pages s', e.Serves server .first s links pages s' ∧ links.Nodup ∧
      List.Forall₂ Entry.Shows (pages.flatMap (·.values)) (view s).comments ∧ view s' = view s
  posted : ∀ s r c, r.method = .post → e.IsAt path r.url →
    (∃ v, IsTextOf r.body v ∧ NewComment.Represented v c) →
      Leaves server view r s ((view s).post c.text (c.anchor.map (·.path)) (c.anchor.bind (·.line)))
  removed : ∀ s r n, r.method = .delete → e.IsAt (path ++ [Text.decimal n]) r.url →
    .ofNat n ∈ (view s).comments.map (·.id) → Leaves server view r s ((view s).remove (.ofNat n))

section Calls

variable {server : Server σ} {settings : Settings} {key : PullRequestKey} {e : Endpoint}
variable {root : List (List Char)} {view : σ → Store} {s : σ}

theorem run_send_of_leaves {r : Request} {store : Store} (h : Leaves server view r s store) :
    ∃ reply, server.run (send (.ok r)) s = (.ok reply, (server.answer r s).2) ∧
      view (server.answer r s).2 = store := by
  obtain ⟨reply, hreply, hstatus, hview⟩ := h
  exact ⟨reply, by simp [send, hreply, judge, hstatus], hview⟩

variable (he : ofSettings settings key = .ok e) (hroot : HasRoot settings root)
  (hplain : IsPlain settings key)
variable (hhosts : Hosts server e (root ++ commentsPath settings key) view)
include he hroot hplain hhosts

/-- An orderly call does to the comments of the service what it does to those of the store. -/
theorem reply_hosted {call : Call} (hcall : call.Orderly (view s)) (hnumbered : (view s).Numbered)
    (hsize : (view s).lastNumber < UInt64.size) :
    ∃ pages s', view s' = (Store.provider.answer call (view s)).2 ∧ ∀ limit, pages ≤ limit →
      server.run (e.reply limit call) s = (some (Store.provider.answer call (view s)).1, s') := by
  obtain ⟨links, pages, s', hserves, hdistinct, hshows, hview⟩ := hhosts.listed s hnumbered hsize
  obtain ⟨requests, followed, hreads, -⟩ := hserves.reads (List.forall_mem_nil _) hdistinct
  obtain ⟨r, hlist⟩ := hreads.first_sent
  cases call with
  | list =>
    refine ⟨pages.length, s', hview, fun limit hlimit => ?_⟩
    obtain ⟨hrun, -⟩ := entries_of_reads hreads hlimit
    rw [reply, Partner.run_bind, hrun]
    simp only [Option.map_some, Except.map, Entry.decorationIds_of_shows hshows]
    rfl
  | create text path line =>
    have hline : path.bind (fun _ => line) = line := by
      cases path with
      | none => exact (hcall rfl).symm
      | some path => rfl
    obtain ⟨r', hcreate⟩ : ∃ r', e.createRequest (.of text path line) = .ok r' := by
      refine isOk_iff.mp ?_
      rw [createRequest_isOk, isPostable_of_listRequest hlist]
    obtain ⟨hmethod, hat, hbody⟩ := createRequest_isAt he hroot hplain hcreate
    have hpayload : ∃ v, IsTextOf r'.body v ∧ NewComment.Represented v (.of text path line) :=
      ⟨_, hbody ▸ Value.isTextOf_text _, NewComment.represented_write _⟩
    obtain ⟨reply, hrun, hleft⟩ := run_send_of_leaves (hhosts.posted s r' _ hmethod hat hpayload)
    refine ⟨0, (server.answer r' s).2, ?_, fun limit _ => ?_⟩
    · have hpath : (NewComment.of text path line).anchor.map (·.path) = path := by
        cases path <;> rfl
      have hplace : (NewComment.of text path line).anchor.bind (·.line) =
          path.bind fun _ => line := by
        cases path <;> rfl
      rw [hleft, hpath, hplace, hline]
      rfl
    · rw [Endpoint.reply, Partner.run_bind, hcreate, hrun]
      rfl
  | delete id =>
    obtain ⟨c, hc, rfl⟩ := List.mem_map.mp hcall
    obtain ⟨n, hn, hid⟩ := hnumbered.bounded c hc
    have hthere : .ofNat n ∈ (view s).comments.map (·.id) := hid ▸ List.mem_map.mpr ⟨c, hc, rfl⟩
    obtain ⟨r', hdelete⟩ := deleteRequest_sent he hroot hplain hlist (Nat.lt_of_le_of_lt hn hsize)
    obtain ⟨hmethod, hat⟩ := deleteRequest_isAt he hroot hplain hdelete
    obtain ⟨reply, hrun, hleft⟩ := run_send_of_leaves (hhosts.removed s r' n hmethod hat hthere)
    refine ⟨0, (server.answer r' s).2, ?_, fun limit _ => ?_⟩
    · rw [hleft, hid]
      rfl
    · rw [Endpoint.reply, Partner.run_bind, hid, hdelete, hrun]
      rfl

end Calls
end Endpoint
end Cloud
end PullDecoration
