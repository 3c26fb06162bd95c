import PatchForge.Proofs.Rendering.LoadOrder

/-!
# Extension points that no contributor can break

A format fails on a record because of the record's length or because of
the format itself, never because of the texts (`applyFormat_written`).
What reaches the formats of an extension point are records cut down to
its variables, so all of them have one length, whatever a contributor
brought: a missing field is an empty text, and a field that no variable
asks for is gone.

An extension point whose formats are plain and stay within its variables
is called sound. A sound one is rendered from any contributions of any
modules (`ExtensionPoint.Sound.renders`); the only refusal left is that
of two values for a placeholder that takes one.
-/

namespace PatchForge

open Format

/-- A plain template whose slots are among the first `n` texts of a record. -/
def PlainWithin (n : Nat) (format : String) : Prop :=
  ∃ t, format = String.ofList (written t) ∧ Fits n t

/-- Every format of the extension point is plain and stays within its variables. -/
structure ExtensionPoint.Sound (p : ExtensionPoint) : Prop where
  placeholders : ∀ q ∈ p.placeholders, PlainWithin p.slots.length q.format
  sources : ∀ s ∈ p.templateSources.getD [], PlainWithin p.slots.length s
  destinations : ∀ d ∈ p.templateDestinations.getD [], PlainWithin p.slots.length d

theorem PlainWithin.applies {format : String} {record : List String}
    (h : PlainWithin record.length format) : ∃ text, applyFormat format record = .ok text := by
  obtain ⟨t, rfl, hfits⟩ := h
  exact applyFormat_written.mpr hfits

theorem decisive_subset : ∀ placeholders : List Placeholder, decisive placeholders ⊆ placeholders
  | [] => List.Subset.refl _
  | p :: ps => by
      refine List.cons_subset_cons p fun q hq => ?_
      exact decisive_subset ps (List.mem_of_mem_filter hq)

/-! ## Values of records that have a text -/

section

variable {point : String} {records : List (List String)}

theorem exists_fixedLines {p : Placeholder}
    (happly : ∀ r ∈ records, ∃ text, applyFormat p.format r = .ok text) :
    ∃ lines, fixedLines point p records = .ok lines := by
  obtain ⟨texts, htexts⟩ := exists_recordTexts.mpr happly
  exact ⟨_, Result.map_ok.mpr ⟨texts, htexts, rfl⟩⟩

/-- Two records of the group have different texts under a placeholder that takes one value. -/
structure Disagree (q : Placeholder) (records : List (List String))
    (existing conflicting : String) : Prop where
  scalar : q.isList = false
  differ : existing ≠ conflicting
  first : ∃ r ∈ records, applyFormat q.format r = .ok existing
  second : ∃ r ∈ records, applyFormat q.format r = .ok conflicting

/-- Where every record has a text, the search for one value fails only by a second one. -/
theorem collectScalar_error {q : Placeholder} {fault : RenderFault} {found : Option String}
    (happly : ∀ r ∈ records, ∃ text, applyFormat q.format r = .ok text)
    (h : collectScalar point q found records = .error fault) :
    ∃ existing conflicting, fault = .conflict q point existing conflicting
      ∧ existing ≠ conflicting
      ∧ (found = some existing ∨ ∃ r ∈ records, applyFormat q.format r = .ok existing)
      ∧ ∃ r ∈ records, applyFormat q.format r = .ok conflicting := by
  induction records generalizing found with
  | nil => cases h
  | cons r rs ih =>
      obtain ⟨⟨text, htext⟩, hrest⟩ := List.forall_mem_cons.mp happly
      rw [collectScalar, formatRecord_ok.mpr htext] at h
      dsimp only at h
      -- What is found later on is found in the whole list, whoever was first.
      have later : ∀ {found : Option String}, collectScalar point q found rs = .error fault →
          ∃ existing conflicting, fault = .conflict q point existing conflicting
            ∧ existing ≠ conflicting
            ∧ (found = some existing ∨ ∃ s ∈ r :: rs, applyFormat q.format s = .ok existing)
            ∧ ∃ s ∈ r :: rs, applyFormat q.format s = .ok conflicting := by
        intro found hfound
        obtain ⟨existing, conflicting, hfault, hne, hfirst, s, hs, hconflicting⟩ := ih hrest hfound
        refine ⟨existing, conflicting, hfault, hne, hfirst.imp_right ?_,
          s, List.mem_cons_of_mem _ hs, hconflicting⟩
        rintro ⟨s', hs', hexisting⟩
        exact ⟨s', List.mem_cons_of_mem _ hs', hexisting⟩
      split at h
      · exact later h
      · split at h
        · obtain ⟨existing, conflicting, hfault, hne, hfirst, hsecond⟩ := later h
          refine ⟨existing, conflicting, hfault, hne, Or.inr ?_, hsecond⟩
          rcases hfirst with heq | hfirst
          · cases heq
            exact ⟨r, List.mem_cons_self .., htext⟩
          · exact hfirst
        · rename_i existing
          split at h
          · exact later h
          · rename_i hne
            cases h
            exact ⟨existing, text, rfl, Ne.symm hne, Or.inl rfl, r, List.mem_cons_self .., htext⟩

theorem groupValue_error {q : Placeholder} {fault : RenderFault}
    (happly : ∀ r ∈ records, ∃ text, applyFormat q.format r = .ok text)
    (h : groupValue point records q = .error fault) :
    ∃ existing conflicting, fault = .conflict q point existing conflicting
      ∧ Disagree q records existing conflicting := by
  rw [groupValue] at h
  split at h
  · obtain ⟨texts, htexts⟩ := exists_recordTexts.mpr happly
    rw [Result.map_error, htexts] at h
    cases h
  · rename_i hscalar
    obtain ⟨existing, conflicting, hfault, hne, hfirst, hsecond⟩ := collectScalar_error happly h
    refine ⟨existing, conflicting, hfault, eq_false_of_ne_true hscalar, hne, ?_, hsecond⟩
    exact hfirst.resolve_left (by simp)

theorem groupValues_error {placeholders : List Placeholder} {fault : RenderFault}
    (happly : ∀ q ∈ placeholders, ∀ r ∈ records, ∃ text, applyFormat q.format r = .ok text)
    (h : groupValues point placeholders records = .error fault) :
    ∃ q ∈ placeholders, ∃ existing conflicting, fault = .conflict q point existing conflicting
      ∧ Disagree q records existing conflicting := by
  obtain ⟨before, q, after, hsplit, -, hq⟩ := Result.mapM_error h
  have hmem : q ∈ placeholders := decisive_subset placeholders (by simp [hsplit])
  exact ⟨q, hmem, groupValue_error (happly q hmem) (Result.map_error.mp hq)⟩

end

/-! ## Contributions -/

namespace ExtensionPoint

variable {p : ExtensionPoint} {modules : List Module}

theorem applies_of_plain {format : String} {r : List String}
    (h : PlainWithin p.slots.length format)
    (hr : r ∈ (p.contributions modules).flatMap (·.records)) :
    ∃ text, applyFormat format r = .ok text := by
  rw [← p.length_of_contributions hr] at h
  exact h.applies

/-- **Soundness.** A sound extension point has a text in fixed mode and groups in templated
mode, whatever modules contribute and whatever they contribute. Where the values of a group are
refused, it is because two records of the group give different values to a placeholder that
takes one, and the refusal names both. -/
theorem Sound.renders (hsound : p.Sound) (modules : List Module) :
    (∀ text, ∃ output,
        renderFixed text p.name p.placeholders (p.contributions modules) = .ok output)
      ∧ ∃ gs, groups p.name p.formatPairs (p.contributions modules) = .ok gs
        ∧ ∀ g ∈ gs, (∃ values, groupValues p.name p.placeholders g.records = .ok values)
          ∨ ∃ q ∈ p.placeholders, ∃ existing conflicting,
            groupValues p.name p.placeholders g.records
              = .error (.conflict q p.name existing conflicting)
            ∧ Disagree q g.records existing conflicting := by
  have happly : ∀ q ∈ p.placeholders, ∀ r ∈ (p.contributions modules).flatMap (·.records),
      ∃ text, applyFormat q.format r = .ok text :=
    fun q hq r hr => applies_of_plain (hsound.placeholders q hq) hr
  refine ⟨fun text => ?_, ?_⟩
  · have hvalues : ∃ values,
        fixedValues p.name p.placeholders (p.contributions modules) = .ok values := by
      refine Result.exists_mapM_ok.mpr fun q hq => ?_
      obtain ⟨lines, hlines⟩ : ∃ lines, fixedLines p.name q
          ((p.contributions modules).flatMap (·.records)) = .ok lines :=
        exists_fixedLines (happly q (decisive_subset _ hq))
      exact ⟨_, Result.map_ok.mpr ⟨lines, hlines, rfl⟩⟩
    obtain ⟨values, hvalues⟩ := hvalues
    exact ⟨_, Result.map_ok.mpr ⟨values, hvalues, rfl⟩⟩
  · have hgroups : ∃ gs, groups p.name p.formatPairs (p.contributions modules) = .ok gs := by
      refine (exists_groups_iff fun r hr e he => ?_).mpr fun r hr e he => ?_
      · exact applies_of_plain (hsound.sources e.1 (List.of_mem_zip he).1) hr
      · exact applies_of_plain (hsound.destinations e.2 (List.of_mem_zip he).2) hr
    obtain ⟨gs, hgs⟩ := hgroups
    refine ⟨gs, hgs, fun g hg => ?_⟩
    cases hvalues : groupValues p.name p.placeholders g.records with
    | ok values => exact Or.inl ⟨values, rfl⟩
    | error fault =>
        -- A group has no records but those that were contributed.
        obtain ⟨q, hq, existing, conflicting, rfl, hdisagree⟩ := groupValues_error
          (fun q hq r hr => happly q hq r ((mem_records_of_groups hgs hg).mp hr).1) hvalues
        exact Or.inr ⟨q, hq, existing, conflicting, rfl, hdisagree⟩

/-! ### Notes that try to be templates -/

/-- A file for every subject, with its owner and a list of notes in braces. -/
def notePoint : ExtensionPoint :=
  { (default : ExtensionPoint) with
    name := "Note"
    templateSources := some ["Note.h"]
    templateDestinations := some ["codebuild/\x7b0\x7d.h"]
    slots := ["Subject", "Owner", "Text"]
    placeholders := [⟨"Owner", "\x7b1\x7d"⟩, ⟨"TextList", "\x7b\x7b\x7b2\x7d\x7d\x7d"⟩] }

/-- Notes with braces and tokens in them, with fields left out and with a field too many. -/
def noteTaker : Module :=
  { (default : Module) with
    name := "Taker"
    data := [("Note",
      [[("Subject", "A"), ("Owner", "\x7b9\x7d"), ("Text", "\x7b\x7bOwner\x7d\x7d")],
        [("Subject", "A"), ("Owner", "\x7b9\x7d"), ("Colour", "red")],
        [("Text", "\x7b")]])] }

/-- A note that gives the same subject to someone else. -/
def noteRival : Module :=
  { (default : Module) with
    name := "Rival"
    data := [("Note", [[("Subject", "A"), ("Owner", "")]])] }

theorem notePoint_sound : notePoint.Sound where
  placeholders q hq := by
    rcases List.mem_pair.mp hq with rfl | rfl
    · exact ⟨[.slot 1], by decide +kernel, by simp [Fits, notePoint, numberLimit]⟩
    · exact ⟨[.text ['\x7b'], .slot 2, .text ['\x7d']], by decide +kernel,
        by simp [Fits, notePoint, numberLimit]⟩
  sources s hs := by
    obtain rfl := List.mem_singleton.mp hs
    exact ⟨[.text "Note.h".toList], by decide +kernel, by simp [Fits]⟩
  destinations d hd := by
    obtain rfl := List.mem_singleton.mp hd
    exact ⟨[.text "codebuild/".toList, .slot 0, .text ".h".toList], by decide +kernel,
      by simp [Fits, notePoint, numberLimit]⟩

/-- With both modules the first file is refused for its two owners, and the second one, whose
subject is empty, has its values. -/
theorem Sound.renders_notes :
    (∃ output, renderFixed "\x7b\x7bTextList\x7d\x7d" "Note" notePoint.placeholders
        (notePoint.contributions [noteTaker, noteRival]) = .ok output)
      ∧ ∃ gs, groups "Note" notePoint.formatPairs
          (notePoint.contributions [noteTaker, noteRival]) = .ok gs
        ∧ gs.map (·.destination) = ["codebuild/A.h", "codebuild/.h"]
        ∧ ∃ existing conflicting,
            Disagree ⟨"Owner", "\x7b1\x7d"⟩ ((gs.map (·.records)).headD [])
              existing conflicting := by
  obtain ⟨hfixed, gs, hgs, hvalues⟩ := notePoint_sound.renders [noteTaker, noteRival]
  have hfound : groups "Note" notePoint.formatPairs
      (notePoint.contributions [noteTaker, noteRival])
        = .ok [⟨"codebuild/A.h", "Note.h",
            [["A", "\x7b9\x7d", "\x7b\x7bOwner\x7d\x7d"], ["A", "\x7b9\x7d", ""], ["A", "", ""]]⟩,
          ⟨"codebuild/.h", "Note.h", [["", "", "\x7b"]]⟩] := by
    decide +kernel
  obtain rfl := Except.ok.inj (hgs.symm.trans hfound)
  refine ⟨hfixed _, _, hgs, rfl, ?_⟩
  have hrefused : groupValues "Note" notePoint.placeholders
      [["A", "\x7b9\x7d", "\x7b\x7bOwner\x7d\x7d"], ["A", "\x7b9\x7d", ""], ["A", "", ""]]
        = .error (.conflict ⟨"Owner", "\x7b1\x7d"⟩ "Note" "\x7b9\x7d" "") := by
    decide +kernel
  rcases hvalues _ (List.mem_cons_self ..) with ⟨values, hok⟩ | ⟨q, -, a, b, herror, hdisagree⟩
  · cases hok.symm.trans hrefused
  · cases Except.error.inj (herror.symm.trans hrefused)
    exact ⟨_, _, hdisagree⟩

end ExtensionPoint

end PatchForge
