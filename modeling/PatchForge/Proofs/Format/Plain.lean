import PatchForge.Proofs.Format.Parts

/-!
# Plain templates

A plain template is made of literal texts and slots: its slots look no
further than the record's texts (`Chunk.part`). So what a plain template
makes of a record can be said without the reader: each literal as it is,
each slot replaced by the record's text under its number
(`apply_written`).

Whether it makes anything of a record depends on the number of the
record's texts and not on the texts (`Fits`).
-/

namespace PatchForge.Format

/-- A part of a plain template. -/
inductive Chunk where
  | text (cs : List Char)
  | slot (i : Nat)
  deriving DecidableEq, Repr

def Chunk.written : Chunk → List Char
  | .text cs => escape cs
  | .slot i => '\x7b' :: (Nat.toDigits 10 i ++ ['\x7d'])

/-- The template as it is written. -/
def written (t : List Chunk) : List Char := t.flatMap Chunk.written

theorem written_cons (c : Chunk) (t : List Chunk) : written (c :: t) = c.written ++ written t := rfl

def Chunk.filled (record : List (List Char)) : Chunk → Except Fault (List Char)
  | .text cs => .ok cs
  | .slot i => slotText record i

/-- What the template makes of a record. -/
def filled (record : List (List Char)) : List Chunk → Except Fault (List Char)
  | [] => .ok []
  | c :: t => do
    let text ← c.filled record
    let rest ← filled record t
    return text ++ rest

/-! ## Plain templates as templates -/

/-- A slot of a plain template looks no further. -/
def Chunk.part : Chunk → Part
  | .text cs => .text cs
  | .slot i => .slot i []

theorem written_eq (t : List Chunk) : written t = writtenParts (t.map Chunk.part) := by
  rw [written, writtenParts, List.flatMap_map]
  refine List.flatMap_congr fun c _ => ?_
  cases c with
  | text cs => rfl
  | slot i => simp [Chunk.written, Chunk.part, Part.written, fieldName]

theorem filled_eq (record : List (List Char)) : ∀ t : List Chunk,
    filled record t = filledParts record (t.map Chunk.part)
  | [] => rfl
  | c :: t => by
      have hchunk : c.filled record = c.part.filled record := by
        cases c with
        | text cs => rfl
        | slot i =>
            rw [Chunk.filled, Chunk.part, Part.filled, reached_nil]
            cases slotText record i <;> rfl
      rw [filled, List.map_cons, filledParts, hchunk, filled_eq record t]

/-- **Plain templates.** Written out and applied to a record, a plain template gives its literals
as they are and the record's texts in its slots. -/
theorem apply_written (t : List Chunk) (record : List (List Char)) :
    apply (written t) record = filled record t := by
  rw [written_eq, filled_eq]
  refine apply_writtenParts fun i ls hmem => ?_
  obtain ⟨c, -, hc⟩ := List.mem_map.mp hmem
  cases c with
  | text cs => cases hc
  | slot j =>
      cases hc
      exact nofun

/-! ## Records that a template applies to -/

/-- Every slot of the template is among the first `n` texts of a record. -/
def Fits (n : Nat) (t : List Chunk) : Prop := ∀ i, .slot i ∈ t → i < n ∧ i ≤ numberLimit

theorem slotText_ok {record : List (List Char)} {i : Nat} :
    (∃ text, slotText record i = .ok text) ↔ i < record.length ∧ i ≤ numberLimit := by
  simp only [slotText_eq_ok, exists_and_left, ← Option.isSome_iff_exists]
  simp [and_comm]

/-- A plain template applies to a record exactly if its slots are within it. -/
theorem filled_ok {record : List (List Char)} {t : List Chunk} :
    (∃ text, filled record t = .ok text) ↔ Fits record.length t := by
  have hslot : ∀ i, (∃ operand, reached record i [] = .ok operand)
      ↔ i < record.length ∧ i ≤ numberLimit := by
    intro i
    rw [reached_nil, ← slotText_ok]
    simp only [Result.map_ok, exists_comm (α := Operand), exists_and_left, exists_eq', and_true]
  rw [filled_eq, filledParts_ok]
  constructor
  · intro h i hi
    exact (hslot i).mp (h i [] (List.mem_map.mpr ⟨.slot i, hi, rfl⟩))
  · intro h i ls hmem
    obtain ⟨c, hc, hpart⟩ := List.mem_map.mp hmem
    cases c with
    | text cs => cases hpart
    | slot j =>
        cases hpart
        exact (hslot i).mpr (h i hc)

end PatchForge.Format

namespace PatchForge

open Format

/-- A plain template applies to the records that are long enough, whatever their texts. -/
theorem applyFormat_written {t : List Chunk} {record : List String} :
    (∃ text, applyFormat (String.ofList (written t)) record = .ok text)
      ↔ Fits record.length t := by
  have hlength : (record.map String.toList).length = record.length := List.length_map ..
  rw [applyFormat, String.toList_ofList, apply_written, ← hlength, ← filled_ok]
  simp only [Result.map_ok]
  constructor
  · rintro ⟨_, text, h, -⟩
    exact ⟨text, h⟩
  · rintro ⟨text, h⟩
    exact ⟨_, text, h, rfl⟩

end PatchForge
