import PullDecoration.Proofs.Json.Layout

/-! The layout with a line for every item is a text of its value too: all that it adds to the layout
on one line are blanks between the parts. -/
namespace PullDecoration
namespace Json

theorem Spells.blanks {p : Phrase} {bs cs rest : List Char} (hbs : ∀ c ∈ bs, isJsonBlank c = true)
    (h : Spells p cs rest) : Spells p (bs ++ cs) rest := by
  induction bs with
  | nil => exact h
  | cons c bs ih =>
    have hc : isJsonBlank c = true := hbs c List.mem_cons_self
    exact .blank hc (ih fun d hd => hbs d (List.mem_cons_of_mem _ hd))

theorem Spells.spacedColon {v : Value} {cs rest : List Char} (h : Spells (.value v) cs rest) :
    Spells (.colon v) (':' :: ' ' :: cs) rest :=
  .colon (.blank (by decide) h)

namespace Value

theorem isJsonBlank_of_mem_newline {depth : Nat} {c : Char} (h : c ∈ newline depth) :
    isJsonBlank c = true := by
  simp only [newline, List.mem_cons, List.mem_replicate] at h
  rcases h with rfl | ⟨-, rfl⟩ <;> decide

theorem spells_newline {p : Phrase} (depth : Nat) {cs rest : List Char} (h : Spells p cs rest) :
    Spells p (newline depth ++ cs) rest :=
  h.blanks fun _ hc => isJsonBlank_of_mem_newline hc

theorem endsNumber_newline (depth : Nat) (rest : List Char) :
    EndsNumber (newline depth ++ rest) := by
  simp [EndsNumber, newline]

theorem endsNumber_prettyItems (depth : Nat) (vs : List Value) (rest : List Char) :
    EndsNumber (prettyItems depth vs ++ rest) := by
  cases vs with
  | nil =>
    rw [prettyItems, List.append_assoc]
    exact endsNumber_newline depth _
  | cons v vs => simp [EndsNumber, prettyItems]

theorem endsNumber_prettyMembers (depth : Nat) (ms : List (String × Value)) (rest : List Char) :
    EndsNumber (prettyMembers depth ms ++ rest) := by
  cases ms with
  | nil =>
    rw [prettyMembers, List.append_assoc]
    exact endsNumber_newline depth _
  | cons m ms => simp [EndsNumber, prettyMembers]

mutual

theorem spells_pretty (depth : Nat) : ∀ (v : Value) {rest : List Char}, EndsNumber rest →
    Spells (.value v) (v.pretty depth ++ rest) rest
  | .null, _, hrest => spells_compact .null hrest
  | .bool b, _, hrest => spells_compact (.bool b) hrest
  | .number n, _, hrest => spells_compact (.number n) hrest
  | .string s, _, hrest => spells_compact (.string s) hrest
  | .array [], _, _ => .array .closeItems
  | .array (v :: vs), rest, _ => by
    simp only [pretty, List.cons_append, List.append_assoc]
    have hv := spells_pretty (depth + 1) v (endsNumber_prettyItems depth vs rest)
    exact .array (.firstItem (.item (spells_newline _ hv) (spells_prettyItems depth vs rest)))
  | .object [], _, _ => .object .closeMembers
  | .object ((k, v) :: ms), rest, _ => by
    simp only [pretty, quote, List.cons_append, List.append_assoc, List.nil_append]
    have hv := spells_pretty (depth + 1) v (endsNumber_prettyMembers depth ms rest)
    have hmember := Spells.member (SpellsLiteral.escaped k.toList _) hv.spacedColon
      (spells_prettyMembers depth ms rest)
    exact .object (.firstMember (spells_newline _ hmember))

theorem spells_prettyItems (depth : Nat) : ∀ (vs : List Value) (rest : List Char),
    Spells (.items false vs) (prettyItems depth vs ++ rest) rest
  | [], rest => by
    rw [prettyItems, List.append_assoc]
    exact spells_newline depth .closeItems
  | v :: vs, rest => by
    simp only [prettyItems, List.cons_append, List.append_assoc]
    have hv := spells_pretty (depth + 1) v (endsNumber_prettyItems depth vs rest)
    exact .nextItem (.item (spells_newline _ hv) (spells_prettyItems depth vs rest))

theorem spells_prettyMembers (depth : Nat) : ∀ (ms : List (String × Value)) (rest : List Char),
    Spells (.members false ms) (prettyMembers depth ms ++ rest) rest
  | [], rest => by
    rw [prettyMembers, List.append_assoc]
    exact spells_newline depth .closeMembers
  | (k, v) :: ms, rest => by
    simp only [prettyMembers, quote, List.cons_append, List.append_assoc, List.nil_append]
    have hv := spells_pretty (depth + 1) v (endsNumber_prettyMembers depth ms rest)
    have hmember := Spells.member (SpellsLiteral.escaped k.toList _) hv.spacedColon
      (spells_prettyMembers depth ms rest)
    exact .nextMember (spells_newline _ hmember)

end

/-- The text of a value with a line for every item, and blanks behind it. -/
theorem isTextOf_pretty (v : Value) {blanks : List Char} (hends : EndsNumber blanks)
    (hblank : blanks.all isJsonBlank = true) :
    IsTextOf (String.ofList (v.pretty 0 ++ blanks)) v := by
  refine ⟨blanks, ?_, hblank⟩
  have h := v.spells_pretty 0 hends
  simpa using h

theorem isTextOf_prettyText (v : Value) : IsTextOf v.prettyText v := by
  have h := v.isTextOf_pretty (by simp [EndsNumber]) (List.all_nil)
  simpa [prettyText] using h

theorem isTextOf_prettyLine (v : Value) : IsTextOf (v.prettyText ++ "\n") v := by
  have h : IsTextOf (String.ofList (v.pretty 0 ++ ['\n'])) v :=
    v.isTextOf_pretty (by simp [EndsNumber]) (by decide)
  rwa [String.ofList_append] at h

end Value
end Json
end PullDecoration
