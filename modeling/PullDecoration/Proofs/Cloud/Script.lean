import PullDecoration.Proofs.Cloud.Listing

/-! Servers that answer from a script. A script has an end, and so has every pass against it: each
page of a listing uses up one of the answers that are left. -/
namespace PullDecoration

/-- Answers come from the script, and once it is used up there is always the same one. -/
def Http.Server.scripted (last : Http.Outcome) : Http.Server (List Http.Outcome) where
  answer
    | _, [] => (last, [])
    | _, outcome :: script => (outcome, script)

namespace Cloud
namespace Endpoint

open Http

variable {α : Type} {last : Outcome} {e : Endpoint} {limit : Nat} {script : List Outcome}

theorem scripted_length (last : Outcome) (d : Exchange α) (script : List Outcome) :
    ((Server.scripted last).run d script).2.length ≤ script.length := by
  refine (Server.scripted last).run_keeps (P := fun _ => True)
    (K := fun left => left.length ≤ script.length)
    ?_ d (fun _ _ => trivial) (Nat.le_refl _)
  intro r left _ hleft
  cases left with
  | nil => exact hleft
  | cons outcome left => exact Nat.le_of_succ_le hleft

/-- No page comes behind the end of the script if its last answer is no success. -/
theorem fetch_scripted (hlast : ∀ reply, last = some reply → isSuccess reply.status = false)
    {link : Link} {page : Page Entry}
    (h : ((Server.scripted last).run (e.fetch link) script).1 = .ok page) :
    ((Server.scripted last).run (e.fetch link) script).2.length < script.length := by
  obtain ⟨r, hrequest, hpage⟩ := fetch_eq_ok h
  rw [(fetch_sent hrequest script).1]
  cases script with
  | nil =>
    obtain ⟨reply, body, hreply, hstatus, -⟩ := hpage
    rw [hlast reply hreply] at hstatus
    cases hstatus
  | cons outcome script => exact Nat.lt_succ_self _

theorem rest_scripted (hlast : ∀ reply, last = some reply → isSuccess reply.status = false)
    {st : Standing (List Outcome)} (hlimit : st.state.length < limit) :
    ∃ found, ((Server.scripted last).run (e.rest limit st) st.state).1 = some found := by
  induction limit generalizing st with
  | zero => cases hlimit
  | succ limit ih =>
    obtain ⟨followed, link, script⟩ := st
    cases link with
    | none => exact ⟨_, rfl⟩
    | some link =>
      rw [rest_succ e limit followed link script
        ((Server.scripted last).run (e.fetch link) script).2, Partner.run_bind]
      cases hfetch : ((Server.scripted last).run (e.fetch link) script).1 with
      | error err => exact ⟨_, rfl⟩
      | ok page =>
        cases honward : page.onward? followed with
        | none => exact ⟨.ok page.values, by simp [honward]⟩
        | some text =>
          have hshorter := fetch_scripted hlast hfetch
          obtain ⟨found, hfound⟩ := @ih
            ⟨text :: followed, some (.next text),
              ((Server.scripted last).run (e.fetch link) script).2⟩
            (Nat.lt_of_lt_of_le hshorter (Nat.le_of_lt_succ hlimit))
          exact ⟨found.map (page.values ++ ·), by simp [honward, Partner.run_bind, hfound, behind]⟩

theorem reply_scripted (hlast : ∀ reply, last = some reply → isSuccess reply.status = false)
    (hlimit : script.length < limit) (call : Call) :
    ∃ r, ((Server.scripted last).run (e.reply limit call) script).1 = some r := by
  cases call with
  | list =>
    have hentries : ∃ found, ((Server.scripted last).run (e.entries limit) script).1 = some found :=
      @rest_scripted last e limit hlast (.start script) hlimit
    obtain ⟨found, hentries⟩ := hentries
    exact ⟨found.map Entry.decorationIds, by simp [reply, Partner.run_bind, hentries]⟩
  | create text path line => exact ⟨_, by rw [reply, Partner.run_bind]; rfl⟩
  | delete id => exact ⟨_, by rw [reply, Partner.run_bind]; rfl⟩

theorem perform_scripted (hlast : ∀ reply, last = some reply → isSuccess reply.status = false)
    (hlimit : script.length < limit) (d : Pass α) :
    ∃ result, ((Server.scripted last).run (e.perform limit d) script).1 = some result := by
  induction d generalizing script with
  | done a => exact ⟨a, rfl⟩
  | ask call next ih =>
    obtain ⟨r, hr⟩ := reply_scripted hlast hlimit call
    have hshorter := scripted_length last (e.reply limit call) script
    obtain ⟨result, hresult⟩ := ih r (Nat.lt_of_le_of_lt hshorter hlimit)
    exact ⟨result, by rw [perform, Partner.run_bind, hr]; exact hresult⟩

end Endpoint
end Cloud
end PullDecoration
