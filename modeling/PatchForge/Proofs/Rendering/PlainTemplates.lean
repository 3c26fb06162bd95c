import PatchForge.Proofs.Format.Plain
import PatchForge.Proofs.Rendering.Values

/-!
# The text of a plain template

What a plain template makes of a record is said here in its own terms:
the literals as they are, and in each slot the record's text under its
number, whatever that text holds (`shown`). So a brace in a record is a
character like any other, templates that are put one after the other
give their texts one after the other, and an escaped text gives itself.

There is such a text exactly if the slots are within the record. If not,
the first slot that is not is what is reported, and the report names the
template and the extension point (`formatRecord_plain`).
-/

namespace PatchForge.Format

/-- The text that a part of a plain template stands for. -/
def Chunk.shown (record : List String) : Chunk → String
  | .text cs => String.ofList cs
  | .slot i => record[i]?.getD ""

/-- The parts one after the other, each slot replaced by its text. -/
def shown (record : List String) (t : List Chunk) : String :=
  String.join (t.map (Chunk.shown record))

/-- The template as the text of a declaration. -/
def plain (t : List Chunk) : String := String.ofList (written t)

/-- What is wrong with a number that a record of `n` texts has no text under. -/
def beyond (n i : Nat) : Fault :=
  if numberLimit < i then .tooManyDigits else .slotBeyond n

/-! ## The parts of a template -/

section

variable {record : List (List Char)}

theorem filled_append (t t' : List Chunk) : filled record (t ++ t') = do
    let text ← filled record t
    let rest ← filled record t'
    return text ++ rest := by
  induction t with
  | nil =>
      show filled record t' = _
      cases filled record t' <;> rfl
  | cons c t ih =>
      rw [List.cons_append, filled, filled, ih]
      cases c.filled record with
      | error f => rfl
      | ok first =>
          cases filled record t with
          | error f => rfl
          | ok text =>
              cases filled record t' with
              | error f => rfl
              | ok rest =>
                  show Except.ok (first ++ (text ++ rest)) = .ok (first ++ text ++ rest)
                  rw [List.append_assoc]

theorem slotText_error {i : Nat} {fault : Fault} (h : slotText record i = .error fault) :
    ¬ (i < record.length ∧ i ≤ numberLimit) ∧ fault = beyond record.length i := by
  have hno : ¬ ∃ text, slotText record i = .ok text := by
    rintro ⟨text, htext⟩
    rw [htext] at h
    cases h
  refine ⟨fun hwithin => hno (slotText_ok.mpr hwithin), ?_⟩
  unfold slotText at h
  unfold beyond
  split at h
  · rename_i hlimit
    rw [if_pos hlimit]
    exact (Except.error.inj h).symm
  · rename_i hlimit
    rw [if_neg hlimit]
    split at h
    · cases h
    · exact (Except.error.inj h).symm

theorem filled_cons_error {c : Chunk} {t : List Chunk} {fault : Fault}
    (h : filled record (c :: t) = .error fault) :
    c.filled record = .error fault
      ∨ (∃ text, c.filled record = .ok text) ∧ filled record t = .error fault := by
  rw [filled] at h
  cases hc : c.filled record with
  | error f =>
      rw [hc] at h
      exact Or.inl h
  | ok text =>
      refine Or.inr ⟨⟨text, rfl⟩, ?_⟩
      rw [hc] at h
      cases ht : filled record t with
      | error f =>
          rw [ht] at h
          exact h
      | ok rest =>
          rw [ht] at h
          cases h

/-- The first slot that the record has no text for is the fault of the template. -/
theorem filled_error {fault : Fault} : ∀ {t : List Chunk}, filled record t = .error fault →
    ∃ before i after, t = before ++ .slot i :: after ∧ Fits record.length before
      ∧ slotText record i = .error fault
  | [], h => by cases h
  | c :: t, h => by
      rcases filled_cons_error h with hc | ⟨hc, ht⟩
      · cases c with
        | text cs => cases hc
        | slot i => exact ⟨[], i, t, rfl, nofun, hc⟩
      · obtain ⟨before, i, after, rfl, hbefore, hi⟩ := filled_error ht
        refine ⟨c :: before, i, after, rfl, fun j hj => ?_, hi⟩
        rcases List.mem_cons.mp hj with hj | hj
        · subst hj
          exact slotText_ok.mp hc
        · exact hbefore j hj

end

theorem filled_shown {record : List String} : ∀ {t : List Chunk} {text : List Char},
    filled (record.map String.toList) t = .ok text → String.ofList text = shown record t
  | [], text, h => by
      cases h
      rfl
  | c :: t, text, h => by
      obtain ⟨first, hfirst, h⟩ := Result.bind_ok.mp h
      obtain ⟨rest, hrest, h⟩ := Result.bind_ok.mp h
      cases h
      have hchunk : String.ofList first = c.shown record := by
        cases c with
        | text cs =>
            cases hfirst
            rfl
        | slot i =>
            obtain ⟨-, hi⟩ := slotText_eq_ok.mp hfirst
            rw [List.getElem?_map, Option.map_eq_some_iff] at hi
            obtain ⟨s, hi, rfl⟩ := hi
            rw [Chunk.shown, hi, Option.getD_some, String.ofList_toList]
      rw [String.ofList_append, hchunk, filled_shown hrest, shown, shown, List.map_cons,
        String.join_cons]

end PatchForge.Format

namespace PatchForge

open Format

/-! ## Records under a plain template -/

section

variable {record : List String} {point : String} {t t' : List Chunk} {text : String}

theorem formatRecord_plain_ok : formatRecord (plain t) record point = .ok text ↔
    ∃ cs, filled (record.map String.toList) t = .ok cs ∧ String.ofList cs = text := by
  rw [formatRecord_ok, plain, applyFormat, String.toList_ofList, apply_written, Result.map_ok]

theorem formatRecord_plain_error {fault : RenderFault} :
    formatRecord (plain t) record point = .error fault ↔
      ∃ cause, filled (record.map String.toList) t = .error cause
        ∧ .format (plain t) point cause = fault := by
  rw [formatRecord, Result.mapError_error, plain, applyFormat, String.toList_ofList,
    apply_written]
  simp only [Result.map_error]

/-- A record has at most as many texts as a number in a template can be (`hcount`); then a slot
that is within the record has a number that can be read. -/
theorem fits_iff {n : Nat} (hcount : n ≤ numberLimit) :
    Fits n t ↔ ∀ i, .slot i ∈ t → i < n := by
  refine forall₂_congr fun i _ => ?_
  constructor
  · exact And.left
  · exact fun hi => ⟨hi, by omega⟩

/-- What is reported is about the first slot that is beyond the record. -/
theorem formatRecord_plain_beyond (hcount : record.length ≤ numberLimit) {fault : RenderFault}
    (h : formatRecord (plain t) record point = .error fault) :
    ∃ before i after, t = before ++ .slot i :: after
      ∧ (∀ j, .slot j ∈ before → j < record.length) ∧ record.length ≤ i
      ∧ fault = .format (plain t) point (beyond record.length i) := by
  obtain ⟨cause, hcause, rfl⟩ := formatRecord_plain_error.mp h
  obtain ⟨before, i, after, ht, hbefore, hi⟩ := filled_error hcause
  obtain ⟨hout, rfl⟩ := slotText_error hi
  rw [List.length_map] at hbefore hout ⊢
  exact ⟨before, i, after, ht, fun j hj => (hbefore j hj).1, by omega, rfl⟩

theorem plain_append (t t' : List Chunk) : plain (t ++ t') = plain t ++ plain t' := by
  rw [plain, plain, plain, ← String.ofList_append, written, written, written, List.flatMap_append]

theorem formatRecord_plain_append : formatRecord (plain t ++ plain t') record point = .ok text ↔
    ∃ first second, formatRecord (plain t) record point = .ok first
      ∧ formatRecord (plain t') record point = .ok second ∧ text = first ++ second := by
  rw [← plain_append, formatRecord_plain_ok, filled_append]
  constructor
  · rintro ⟨cs, h, rfl⟩
    obtain ⟨a, ha, h⟩ := Result.bind_ok.mp h
    obtain ⟨b, hb, h⟩ := Result.bind_ok.mp h
    cases h
    exact ⟨_, _, formatRecord_plain_ok.mpr ⟨a, ha, rfl⟩, formatRecord_plain_ok.mpr ⟨b, hb, rfl⟩,
      String.ofList_append⟩
  · rintro ⟨first, second, hfirst, hsecond, rfl⟩
    obtain ⟨a, ha, rfl⟩ := formatRecord_plain_ok.mp hfirst
    obtain ⟨b, hb, rfl⟩ := formatRecord_plain_ok.mp hsecond
    refine ⟨a ++ b, Result.bind_ok.mpr ⟨a, ha, ?_⟩, String.ofList_append⟩
    exact Result.bind_ok.mpr ⟨b, hb, rfl⟩

/-- An escaped text gives itself back. -/
theorem formatRecord_escape (s : String) :
    formatRecord (String.ofList (escape s.toList)) record point = .ok s := by
  have hwritten : String.ofList (escape s.toList) = plain [.text s.toList] := by
    rw [plain, written_cons, Chunk.written, written, List.flatMap_nil, List.append_nil]
  rw [hwritten, formatRecord_plain_ok]
  refine ⟨s.toList, ?_, String.ofList_toList⟩
  show Except.ok (s.toList ++ []) = .ok s.toList
  rw [List.append_nil]

end

/-- **The text of a plain template.** A plain template applies to a record exactly if its slots
are within the record, and then gives its literals as they are and the record's texts in its
slots. If not, the report names the template and the extension point, and is about the first slot
that is beyond the record. What is applied is put together from its parts, and any text can be
had by escaping it. -/
theorem formatRecord_plain {record : List String} (hcount : record.length ≤ numberLimit)
    (point : String) (t : List Chunk) :
    ((∃ text, formatRecord (plain t) record point = .ok text)
        ↔ ∀ i, .slot i ∈ t → i < record.length)
    ∧ (∀ text, formatRecord (plain t) record point = .ok text → text = shown record t)
    ∧ (∀ fault, formatRecord (plain t) record point = .error fault →
        ∃ before i after, t = before ++ .slot i :: after
          ∧ (∀ j, .slot j ∈ before → j < record.length) ∧ record.length ≤ i
          ∧ fault = .format (plain t) point (beyond record.length i))
    ∧ (∀ t' text, formatRecord (plain t ++ plain t') record point = .ok text ↔
        ∃ first second, formatRecord (plain t) record point = .ok first
          ∧ formatRecord (plain t') record point = .ok second ∧ text = first ++ second)
    ∧ ∀ s : String, formatRecord (String.ofList (escape s.toList)) record point = .ok s := by
  refine ⟨?_, ?_, ?_, fun t' text => formatRecord_plain_append, formatRecord_escape⟩
  · rw [← fits_iff hcount, ← applyFormat_written]
    simp only [formatRecord_ok, plain]
  · intro text h
    obtain ⟨cs, hcs, rfl⟩ := formatRecord_plain_ok.mp h
    exact filled_shown hcs
  · exact fun fault => formatRecord_plain_beyond hcount

/-- A slot between braces. -/
def bracedSlot (i : Nat) : List Chunk := [.text ['\x7b'], .slot i, .text ['\x7d']]

theorem formatRecord_plain_braces :
    plain (bracedSlot 0) = "\x7b\x7b\x7b0\x7d\x7d\x7d"
      ∧ formatRecord (plain (bracedSlot 0)) ["\x7b1\x7d"] "Sheet" = .ok "\x7b\x7b1\x7d\x7d"
      ∧ ¬ ∃ text, formatRecord (plain (bracedSlot 1)) ["\x7b1\x7d"] "Sheet" = .ok text := by
  have hcount : ["\x7b1\x7d"].length ≤ numberLimit := by decide
  refine ⟨by decide +kernel, ?_, fun happly => ?_⟩
  · obtain ⟨happly, hshown, -⟩ := formatRecord_plain hcount "Sheet" (bracedSlot 0)
    obtain ⟨text, htext⟩ := happly.mpr (by simp [bracedSlot])
    rw [htext, hshown text htext]
    decide +kernel
  · have hwithin := (formatRecord_plain hcount "Sheet" (bracedSlot 1)).1.mp happly 1
    exact absurd (hwithin (by simp [bracedSlot])) (by decide)

end PatchForge
