import Mathlib.Data.List.TakeWhile
import PatchForge.Format.Apply
import PatchForge.Proofs.Basic

/-!
# Fields that look further

A field may look further than the text it stands for: at one of the
text's characters, or at a member that texts have. Whether there is such
a thing depends on the lookup and, for a character, on the length of the
text (`Finds`, `step_text`).

A template gives a text only if each of its fields denotes something, the
fields of its alignments included (`lookUp_of_applyAt`), so the first
lookup of each field has found what it asks for (`finds_of_apply`).
-/

namespace PatchForge.Format

/-! ## One lookup -/

/-- A text has what the lookup asks for. -/
def Finds (text : List Char) : Lookup → Prop
  | .member name => (Kind.text.member? (String.ofList name)).isSome
  | .index key => ∃ k, nameNumber? none key = .ok (some k) ∧ k < text.length

theorem exists_ofValue_text (text : List Char) (m : Member) :
    ∃ operand, (Operand.text text).ofValue m = .ok operand := by
  have hgot : ∃ operand, (Operand.text text).got m.name = .ok operand := by
    unfold Operand.got
    split
    · exact ⟨_, rfl⟩
    all_goals first | exact ⟨_, rfl⟩ | contradiction
  unfold Operand.ofValue
  split
  case h_6 | h_7 => exact hgot
  all_goals exact ⟨_, rfl⟩

/-- A lookup leads on from a text exactly if the text has what it asks for. -/
theorem step_text {count : Nat} {text : List Char} {l : Lookup} :
    (∃ operand, (Operand.text text).step count l = .ok operand) ↔ Finds text l := by
  cases l with
  | member name =>
      rw [Finds, Operand.step, Operand.memberAt, Operand.kindOf]
      · cases Kind.text.member? (String.ofList name) with
        | none => simp
        | some m => simp [exists_ofValue_text]
      all_goals simp
  | index key =>
      rw [Finds, Operand.step]
      cases nameNumber? none key with
      | error f => simp
      | ok number =>
          cases number with
          | none => simp [Operand.part]
          | some k =>
              by_cases hk : k < text.length
              · simp [Operand.part, hk]
              · simp [Operand.part, hk]

theorem follow_cons {count : Nat} {operand : Operand} {l : Lookup} {ls : List Lookup}
    {fault : Option Fault} : operand.follow count (l :: ls) fault
      = operand.step count l >>= fun o => o.follow count ls fault := by
  rw [Operand.follow]
  cases operand.step count l <;> rfl

/-! ## The lookups of a field -/

/-- What stands before the lookups of a field's name. -/
def startOf (name : List Char) : List Char := name.takeWhile (!beginsLookup ·)

/-- The lookups of a field's name, and the fault that ends them. -/
def lookupsOf (name : List Char) : List Lookup × Option Fault :=
  let after := name.drop (startOf name).length
  readLookups after.length after

/-- A field's name begins with this slot, or with none. -/
def Begins (name : List Char) (i : Nat) : Prop :=
  readStart (startOf name) = .ok (.slot i) ∨ readStart (startOf name) = .ok .next

theorem begins_of_slot {numbering numbering' : Numbering} {name : List Char} {start : Start}
    {i : Nat} (hstart : readStart (startOf name) = .ok start)
    (hslot : numbering.slot start = .ok (i, numbering')) : Begins name i := by
  cases start with
  | next => exact Or.inr hstart
  | word w => cases hslot
  | slot n =>
      refine Or.inl ?_
      cases numbering <;> cases hslot <;> exact hstart

section

variable {record : List (List Char)}

theorem lookUp_eq (numbering : Numbering) (name : List Char) : lookUp record numbering name
    = readStart (startOf name) >>= fun start => numbering.slot start >>= fun slot =>
        match record[slot.1]? with
        | none => .error (.slotBeyond record.length)
        | some text =>
          ((Operand.text text).follow record.length (lookupsOf name).1 (lookupsOf name).2).map
            (·, slot.2) := by
  unfold lookUp
  refine bind_congr fun start => bind_congr fun (i, numbering) => ?_
  dsimp only
  cases record[i]? with
  | none => rfl
  | some text =>
      change Operand.follow _ _ (lookupsOf name).1 (lookupsOf name).2 >>= _ = Except.map _ _
      cases (Operand.text text).follow record.length (lookupsOf name).1 (lookupsOf name).2 <;> rfl

/-- A field that denotes something stands for a text of the record that its lookups lead on
from. -/
theorem lookUp_ok {numbering numbering' : Numbering} {name : List Char} {operand : Operand}
    (h : lookUp record numbering name = .ok (operand, numbering')) :
    ∃ i text, Begins name i ∧ record[i]? = some text
      ∧ (Operand.text text).follow record.length (lookupsOf name).1 (lookupsOf name).2
        = .ok operand := by
  rw [lookUp_eq] at h
  obtain ⟨start, hstart, h⟩ := Result.bind_ok.mp h
  obtain ⟨⟨i, numbering₁⟩, hslot, h⟩ := Result.bind_ok.mp h
  cases htext : record[i]? with
  | none =>
      rw [htext] at h
      cases h
  | some text =>
      rw [htext] at h
      obtain ⟨operand', hfollow, h⟩ := Result.map_ok.mp h
      cases h
      exact ⟨i, text, begins_of_slot hstart hslot, htext, hfollow⟩

theorem drop_startOf (name : List Char) :
    name.drop (startOf name).length = name.dropWhile (!beginsLookup ·) := by
  have hname : startOf name ++ name.dropWhile (!beginsLookup ·) = name :=
    List.takeWhile_append_dropWhile
  conv_lhs =>
    arg 2
    rw [← hname]
  exact List.drop_left

/-- What stands after the start begins with a sign of a lookup. -/
theorem exists_sign_after {name : List Char} (h : ∃ c ∈ name, beginsLookup c = true) :
    ∃ d rest, name.drop (startOf name).length = d :: rest ∧ beginsLookup d = true := by
  obtain ⟨c, hc, hsign⟩ := h
  rw [drop_startOf]
  cases hrest : name.dropWhile (!beginsLookup ·) with
  | nil =>
      have hall := List.dropWhile_eq_nil_iff.mp hrest c hc
      rw [hsign] at hall
      cases hall
  | cons d rest =>
      refine ⟨d, rest, rfl, ?_⟩
      have hhead := List.head?_dropWhile_not (!beginsLookup ·) name
      rw [hrest] at hhead
      simpa using hhead

/-- A name with a sign of a lookup has a lookup or ends in a fault. -/
theorem lookupsOf_of_sign {name : List Char} (h : ∃ c ∈ name, beginsLookup c = true) :
    (∃ fault, lookupsOf name = ([], some fault))
      ∨ ∃ l ls, (lookupsOf name).1 = l :: ls := by
  obtain ⟨d, rest, hafter, hd⟩ := exists_sign_after h
  rw [lookupsOf, hafter]
  have hcases : d = '.' ∨ d = '[' := by simpa [beginsLookup] using hd
  rcases hcases with rfl | rfl
  · rw [List.length_cons, readLookups]
    dsimp only
    split
    · exact Or.inl ⟨_, rfl⟩
    · exact Or.inr ⟨_, _, rfl⟩
  · rw [List.length_cons, readLookups]
    dsimp only
    split
    · exact Or.inl ⟨_, rfl⟩
    · split
      · exact Or.inl ⟨_, rfl⟩
      · exact Or.inr ⟨_, _, rfl⟩

/-- The first lookup of a field that denotes something has found what it asks for. -/
theorem finds_of_lookUp {numbering : Numbering} {name : List Char} {result : Operand × Numbering}
    (hsign : ∃ c ∈ name, beginsLookup c = true) (h : lookUp record numbering name = .ok result) :
    ∃ i text l, Begins name i ∧ record[i]? = some text ∧ (lookupsOf name).1.head? = some l
      ∧ Finds text l := by
  obtain ⟨i, text, hbegins, htext, hfollow⟩ := lookUp_ok h
  rcases lookupsOf_of_sign hsign with ⟨fault, hnone⟩ | ⟨l, ls, hsome⟩
  · rw [hnone] at hfollow
    cases hfollow
  · rw [hsome, follow_cons] at hfollow
    obtain ⟨operand, hstep, -⟩ := Result.bind_ok.mp hfollow
    exact ⟨i, text, l, hbegins, htext, by rw [hsome]; rfl, step_text.mp ⟨operand, hstep⟩⟩

/-! ## The fields of a template -/

/-- The template holds the field, itself or in an alignment. -/
inductive Holds : List Char → Field → Prop
  | here {template : List Char} {f : Field} (h : .field f ∈ (read template).pieces) :
      Holds template f
  | nested {template : List Char} {f g : Field} (hg : .field g ∈ (read template).pieces)
      (hnested : g.nested = true) (h : Holds g.alignment f) : Holds template f

variable {expand : Numbering → List Char → Except Fault (List Char × Numbering)}

theorem fill_field (numbering : Numbering) (f : Field) (pieces : List Piece) :
    fill record expand numbering (.field f :: pieces)
      = lookUp record numbering f.name >>= fun found => convert found.1 f.conversion >>= fun operand =>
          (if f.nested then expand found.2 f.alignment else .ok (f.alignment, found.2)) >>=
            fun spec => operand.align spec.1 >>= fun text =>
              (fill record expand spec.2 pieces).map fun rest => (text ++ rest.1, rest.2) := by
  rw [fill]
  refine bind_congr fun found => bind_congr fun operand => ?_
  have hrest : ∀ spec : List Char × Numbering, (operand.align spec.1 >>= fun text =>
      fill record expand spec.2 pieces >>= fun rest => pure (text ++ rest.1, rest.2))
        = operand.align spec.1 >>= fun text =>
            (fill record expand spec.2 pieces).map fun rest => (text ++ rest.1, rest.2) := by
    refine fun spec => bind_congr fun text => ?_
    cases fill record expand spec.2 pieces <;> rfl
  cases f.nested with
  | true => exact bind_congr hrest
  | false => exact hrest (f.alignment, found.2)

theorem lookUp_of_fill {f : Field} : ∀ {pieces : List Piece} {numbering : Numbering}
    {result : List Char × Numbering}, fill record expand numbering pieces = .ok result →
      .field f ∈ pieces →
        (∃ numbering r, lookUp record numbering f.name = .ok r)
          ∧ (f.nested = true → ∃ numbering r, expand numbering f.alignment = .ok r)
  | .literal text :: pieces, numbering, result, h, hf => by
      obtain ⟨rest, hrest, -⟩ := Result.bind_ok.mp h
      exact lookUp_of_fill hrest ((List.mem_cons.mp hf).resolve_left nofun)
  | .field g :: pieces, numbering, result, h, hf => by
      rw [fill_field] at h
      obtain ⟨found, hlook, h⟩ := Result.bind_ok.mp h
      obtain ⟨operand, -, h⟩ := Result.bind_ok.mp h
      obtain ⟨spec, hspec, h⟩ := Result.bind_ok.mp h
      obtain ⟨text, -, h⟩ := Result.bind_ok.mp h
      obtain ⟨rest, hrest, -⟩ := Result.map_ok.mp h
      rcases List.mem_cons.mp hf with hf | hf
      · cases hf
        refine ⟨⟨numbering, found, hlook⟩, fun hnested => ⟨found.2, spec, ?_⟩⟩
        rwa [if_pos hnested] at hspec
      · exact lookUp_of_fill hrest hf

/-- A template that gives a text can be read to its end, and its pieces can be filled. -/
theorem fill_of_applyAt {depth : Nat} {numbering : Numbering} {template : List Char}
    {result : List Char × Numbering} (h : applyAt record depth numbering template = .ok result) :
    (read template).fault = none ∧ ∃ depth', depth = depth' + 1
      ∧ fill record (applyAt record depth') numbering (read template).pieces = .ok result := by
  cases depth with
  | zero => cases h
  | succ depth =>
      obtain ⟨filled, hfill, h⟩ := Result.bind_ok.mp h
      cases hfault : (read template).fault with
      | some fault =>
          rw [hfault] at h
          cases h
      | none =>
          rw [hfault] at h
          cases h
          exact ⟨rfl, depth, rfl, hfill⟩

/-- Where a template gives a text, each field that it holds denotes something. -/
theorem lookUp_of_applyAt {template : List Char} {f : Field} (hf : Holds template f) :
    ∀ {depth : Nat} {numbering : Numbering} {result : List Char × Numbering},
      applyAt record depth numbering template = .ok result →
        ∃ numbering r, lookUp record numbering f.name = .ok r := by
  induction hf with
  | here hf =>
      intro depth numbering result h
      obtain ⟨-, depth, rfl, hfill⟩ := fill_of_applyAt h
      exact (lookUp_of_fill hfill hf).1
  | nested hg hnested _ ih =>
      intro depth numbering result h
      obtain ⟨-, depth, rfl, hfill⟩ := fill_of_applyAt h
      obtain ⟨numbering', r, hexpand⟩ := (lookUp_of_fill hfill hg).2 hnested
      exact ih hexpand

/-- Where a template gives a text, the first lookup of each field has found what it asks for. -/
theorem finds_of_apply {template text : List Char} {f : Field} (hf : Holds template f)
    (hsign : ∃ c ∈ f.name, beginsLookup c = true) (h : apply template record = .ok text) :
    ∃ i s l, Begins f.name i ∧ record[i]? = some s ∧ (lookupsOf f.name).1.head? = some l
      ∧ Finds s l := by
  obtain ⟨result, hresult, -⟩ := Result.map_ok.mp h
  obtain ⟨numbering, r, hlook⟩ := lookUp_of_applyAt hf hresult
  exact finds_of_lookUp hsign hlook

end

end PatchForge.Format
