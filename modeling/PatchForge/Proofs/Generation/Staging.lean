import PatchForge.Generation
import PatchForge.Proofs.Work.Files

/-!
# One staged file

Both modes of generation make a file in the same way: the template is
staged at the target, what is granted is granted, and the staged text is
rendered in place. A `Staging` is one such piece of work as data, and a
`Site` is what it meets in a file tree: where its two paths lead, the
template's text and the rendered text.

Two statements describe it. If the work ends well, it was done at a site
(`Staging.perform_ok`), and the tree is changed there and otherwise only
by new folders. Conversely, in a tree that is ready for the site - the
template is there with the same text, the target's folder is there and
no folder is in the way - the work ends well and changes the target's
file only (`Staging.perform_of_ready`).
-/

namespace PatchForge

open Work Disk

/-- A file to make: the template, the place of the result, what is granted on the way and how
the template's text is rendered. -/
structure Staging where
  source : Path
  target : Path
  grants : IncludeTable → IncludeTable
  render : String → Except RenderFault String

namespace Staging

def perform (j : Staging) : Work Unit := do
  stageFile j.source j.target
  modify fun w => { w with grants := j.grants w.grants }
  renderInPlace j.target j.render

end Staging

/-- Where a staged file is made and what is put there. -/
structure Site where
  source : Place
  target : Place
  content : ByteArray
  text : String
  output : String

/-- What lies at the target in the end. -/
def Site.made (s : Site) : Entry := .file s.output.toUTF8

/-! ## Trees that are ready -/

/-- The tree `d` has the staging's template at the site, and nothing in the way of its target. -/
structure Ready (d : Disk) (here : Place) (j : Staging) (s : Site) : Prop where
  source_null : hasNull j.source = false
  target_null : hasNull j.target = false
  apart : s.source ≠ s.target
  source_leads : d.follow here j.source = .ok s.source
  target_leads : d.follow here j.target = .ok s.target
  parent_leads : LeadsToFolder d here j.target.parent
  source_file : d.get? s.source = some (.file s.content)
  target_free : d.get? s.target ≠ some .folder
  decoded : Text.decodeUtf8 s.content = .ok s.text
  rendered : j.render s.text = .ok s.output

/-- The tree `d'` is `d` with another entry at one place, and perhaps with new folders. -/
def ChangedAt (place : Place) (d d' : Disk) : Prop :=
  ∀ other, other ≠ place → d'.get? other = d.get? other
    ∨ d.get? other = none ∧ d'.get? other = some .folder

theorem Disk.Grows.changedAt {d d' : Disk} (h : Grows d d') (place : Place) :
    ChangedAt place d d' := fun other _ => h other

theorem ChangedAt.trans {place : Place} {d d' d'' : Disk} (h : ChangedAt place d d')
    (h' : ChangedAt place d' d'') : ChangedAt place d d'' := by
  intro other ho
  rcases h' other ho with heq' | ⟨hnone', hfolder'⟩
  · rw [heq']
    exact h other ho
  · rcases h other ho with heq | ⟨-, hfolder⟩
    · exact Or.inr ⟨heq ▸ hnone', hfolder'⟩
    · rw [hfolder] at hnone'
      cases hnone'

theorem changedAt_put {d : Disk} {place : Place} (entry : Entry)
    (h : d.get? place ≠ some .folder) : ChangedAt place d (d.put place entry) := by
  intro other ho
  rw [get?_put_place d other entry h, if_neg ho]
  exact Or.inl rfl

theorem changedAt_erase {d : Disk} {place : Place} (h : d.get? place ≠ some .folder) :
    ChangedAt place d (d.erase place) := by
  intro other ho
  rw [get?_erase d other h, if_neg ho]
  exact Or.inl rfl

/-- Files elsewhere are neither changed nor new. -/
theorem ChangedAt.file_iff {place other : Place} {d d' : Disk} (h : ChangedAt place d d')
    (ho : other ≠ place) (content : ByteArray) :
    d'.get? other = some (.file content) ↔ d.get? other = some (.file content) := by
  rcases h other ho with heq | ⟨hnone, hfolder⟩
  · rw [heq]
  · simp [hnone, hfolder]

theorem ChangedAt.keepsFolders {place : Place} {d d' : Disk} (h : ChangedAt place d d')
    (hp : d.get? place ≠ some .folder) : KeepsFolders d d' := by
  intro other hg
  have ho : other ≠ place := by
    rintro rfl
    exact hp hg
  rcases h other ho with heq | ⟨-, hfolder⟩
  · rw [heq, hg]
  · exact hfolder

/-! ## Copying -/

variable {w w' : Workshop} {source target : Path}

theorem copyFile_ok {u : Unit} (h : (copyFile source target).run w = (.ok u, w')) :
    ∃ a b content, hasNull source = false ∧ hasNull target = false ∧ a ≠ b
      ∧ w.disk.follow w.here source = .ok a ∧ w.disk.follow w.here target = .ok b
      ∧ w.disk.get? a = some (.file content) ∧ w.disk.get? b ≠ some .folder
      ∧ w' = w.onDisk (w.disk.put b (.file content)) := by
  unfold copyFile at h
  split at h
  · cases h
  obtain ⟨w₁, _, hget, h⟩ := bind_ok.mp h
  cases hget
  have hcopy : ∃ content w₂, (readBytes source).run w = (.ok content, w₂)
      ∧ (Work.write target content).run w₂ = (.ok u, w')
      ∧ ∀ a b e e', w.disk.find w.here source = .ok (a, e) →
          w.disk.find w.here target = .ok (b, e') → a ≠ b := by
    split at h
    · rename_i a e b e' ha hb
      split at h
      · cases h
      · rename_i hab
        obtain ⟨content, w₂, hr, hw⟩ := bind_ok.mp h
        refine ⟨content, w₂, hr, hw, fun a₁ b₁ e₁ e₁' h₁ h₁' => ?_⟩
        rw [ha] at h₁
        rw [hb] at h₁'
        cases h₁
        cases h₁'
        exact hab
    · rename_i hno
      obtain ⟨content, w₂, hr, hw⟩ := bind_ok.mp h
      exact ⟨content, w₂, hr, hw, fun a b e e' ha hb => (hno a e b e' ha hb).elim⟩
  obtain ⟨content, w₂, hr, hw, hapart⟩ := hcopy
  obtain ⟨hns, rfl, a, hfa, hga⟩ := readBytes_ok.mp hr
  obtain ⟨hnt, b, hfb, hgb, rfl⟩ := Work.write_ok.mp hw
  refine ⟨a, b, content, hns, hnt, ?_, hfa, hfb, hga, hgb, rfl⟩
  rintro rfl
  exact hapart a a _ _ (find_ok.mpr ⟨hfa, hga⟩) (find_ok.mpr ⟨hfb, hga⟩) rfl

/-- A file is copied to any other place where no folder is. -/
theorem copyFile_of_apart {a b : Place} {content : ByteArray} (hns : hasNull source = false)
    (hnt : hasNull target = false) (hfa : w.disk.follow w.here source = .ok a)
    (hfb : w.disk.follow w.here target = .ok b) (hga : w.disk.get? a = some (.file content))
    (hgb : w.disk.get? b ≠ some .folder) (hab : a ≠ b) :
    (copyFile source target).run w
      = (.ok (), w.onDisk (w.disk.put b (.file content))) := by
  have hr : (readBytes source).run w = (.ok content, w) :=
    readBytes_ok.mpr ⟨hns, rfl, a, hfa, hga⟩
  have hw : (Work.write target content).run w
      = (.ok (), w.onDisk (w.disk.put b (.file content))) :=
    Work.write_ok.mpr ⟨hnt, b, hfb, hgb, rfl⟩
  unfold copyFile
  simp only [hns, hnt, Bool.or_self, Bool.false_eq_true, if_false, run_bind, run_get,
    find_ok.mpr ⟨hfa, hga⟩]
  cases hget : w.disk.get? b with
  | none => simp only [find_missing hfb hget, run_bind, hr, hw]
  | some entry => simp only [find_ok.mpr ⟨hfb, hget⟩, hab, if_false, run_bind, hr, hw]

/-- A file is copied to a free place. -/
theorem copyFile_of_free {a b : Place} {content : ByteArray} (hns : hasNull source = false)
    (hnt : hasNull target = false) (hfa : w.disk.follow w.here source = .ok a)
    (hfb : w.disk.follow w.here target = .ok b) (hga : w.disk.get? a = some (.file content))
    (hgb : w.disk.get? b = none) :
    (copyFile source target).run w
      = (.ok (), w.onDisk (w.disk.put b (.file content))) := by
  refine copyFile_of_apart hns hnt hfa hfb hga (by simp [hgb]) ?_
  rintro rfl
  rw [hga] at hgb
  cases hgb

/-! ## Staging -/

/-- Staging begins with the old file out of the way, wherever the target leads from then on. -/
theorem stageFile_cleared {u : Unit} (h : (stageFile source target).run w = (.ok u, w')) :
    ∃ w₁, w₁ = w.onDisk w₁.disk ∧ KeepsFolders w.disk w₁.disk
      ∧ (∀ d b, KeepsFolders w₁.disk d → d.follow w.here target = .ok b →
          ChangedAt b w.disk w₁.disk)
      ∧ (do makeFolders target.parent; copyFile source target : Work Unit).run w₁
          = (.ok u, w') := by
  obtain ⟨there, w₁, he, hthen⟩ := bind_ok.mp h
  obtain ⟨entry, w₂, hentry, hthere⟩ := bind_ok.mp he
  cases hthere
  cases entry with
  | none =>
      obtain ⟨rfl, -⟩ := lookUp?_none hentry
      exact ⟨w₁, rfl, KeepsFolders.refl _, fun _ b _ _ => (Grows.refl _).changedAt b, hthen⟩
  | some e =>
      obtain ⟨rfl, -⟩ := lookUp?_some hentry
      obtain ⟨u₁, w₂, hu, hrest⟩ := bind_ok.mp hthen
      obtain ⟨-, b, content, hf, hg, rfl⟩ := Work.unlink_ok.mp hu
      have hne : w₁.disk.get? b ≠ some .folder := by simp [hg]
      have hkeep := keepsFolders_erase hne
      refine ⟨_, rfl, hkeep, fun d b' hd hb' => ?_, hrest⟩
      have hb := follow_of_keepsFolders (hkeep.trans hd) hf
      obtain rfl : b = b' := Except.ok.inj (hb.symm.trans hb')
      exact changedAt_erase hne

/-- The tree `d'` is `d` with a copy of the template, which is at `a`, put at `b`. -/
structure Copied (d : Disk) (here : Place) (source target : Path) (a b : Place)
    (content : ByteArray) (d' : Disk) : Prop where
  source_null : hasNull source = false
  target_null : hasNull target = false
  apart : a ≠ b
  source_leads : d'.follow here source = .ok a
  target_leads : d'.follow here target = .ok b
  parent_leads : LeadsToFolder d' here target.parent
  free : d.get? b ≠ some .folder
  changed : ChangedAt b d d'
  template : d'.get? a = some (.file content)
  copy : d'.get? b = some (.file content)

/-- What is found at the target is the copy. -/
theorem Copied.found {d d' : Disk} {here a b b' : Place} {content content' : ByteArray}
    (h : Copied d here source target a b content d') (hf : d'.follow here target = .ok b')
    (hg : d'.get? b' = some (.file content')) : b' = b ∧ content' = content := by
  obtain rfl : b' = b := Except.ok.inj (hf.symm.trans h.target_leads)
  exact ⟨rfl, Entry.file.inj (Option.some.inj (hg.symm.trans h.copy))⟩

/-- Staging ends well only by putting a copy of the template at the target. -/
theorem stageFile_ok {u : Unit} (h : (stageFile source target).run w = (.ok u, w')) :
    w' = w.onDisk w'.disk
      ∧ ∃ a b content, Copied w.disk w.here source target a b content w'.disk := by
  obtain ⟨w₁, hw₁, hkeep, hcleared, hthen⟩ := stageFile_cleared h
  obtain ⟨_, w₂, hfolders, hcopy⟩ := bind_ok.mp hthen
  obtain ⟨hgrown, hparent⟩ := makeFolders_ok hfolders
  obtain ⟨a, b, content, hns, hnt, hab, hfa, hfb, hga, hgb, rfl⟩ := copyFile_ok hcopy
  have hw₂ : w₂ = w.onDisk w₂.disk := by
    rw [hgrown.1, hw₁]
    rfl
  have hhere : w₂.here = w.here := by
    rw [hw₂]
    rfl
  rw [hhere] at hfa hfb hparent
  have hput := keepsFolders_put (.file content) hgb
  have hstill : KeepsFolders w₁.disk w₂.disk := hgrown.2.keepsFolders
  refine ⟨?_, a, b, content, ?_⟩
  · rw [hw₂]
    rfl
  · exact {
      source_null := hns
      target_null := hnt
      apart := hab
      source_leads := follow_of_keepsFolders hput hfa
      target_leads := follow_of_keepsFolders hput hfb
      parent_leads := hparent.mono hput
      free := fun hfolder => hgb (hstill b (hkeep b hfolder))
      changed := (hcleared w₂.disk b hstill hfb).trans
        ((hgrown.2.changedAt b).trans (changedAt_put _ hgb))
      template := (get?_put_place w₂.disk a _ hgb).trans ((if_neg hab).trans hga)
      copy := (get?_put_place w₂.disk b _ hgb).trans (if_pos rfl) }

/-- Where the template is there, the target's folder is there and no folder is in the way,
staging changes the target's file only. -/
theorem stageFile_of_ready {a b : Place} {content : ByteArray} (hns : hasNull source = false)
    (hnt : hasNull target = false) (hab : a ≠ b) (hfa : w.disk.follow w.here source = .ok a)
    (hfb : w.disk.follow w.here target = .ok b)
    (hparent : LeadsToFolder w.disk w.here target.parent)
    (hga : w.disk.get? a = some (.file content)) (hgb : w.disk.get? b ≠ some .folder) :
    ∃ d, (stageFile source target).run w = (.ok (), w.onDisk d)
      ∧ ∀ x, d.get? x = if x = b then some (.file content) else w.disk.get? x := by
  -- the tree without the old file
  obtain ⟨d₁, hclear, hd₁⟩ : ∃ d₁,
      (stageFile source target).run w
        = (do makeFolders target.parent; copyFile source target : Work Unit).run (w.onDisk d₁)
      ∧ ∀ x, d₁.get? x = if x = b then none else w.disk.get? x := by
    cases hg : w.disk.get? b with
    | none =>
        refine ⟨w.disk, ?_, fun x => ?_⟩
        · rw [stageFile, run_bind, exists?_of_follow hnt hfb, hg]
          rfl
        · split
          · rename_i hx
            rw [hx, hg]
          · rfl
    | some e =>
        obtain ⟨old, rfl⟩ : ∃ old, e = .file old := by
          cases e with
          | folder => exact (hgb hg).elim
          | file old => exact ⟨old, rfl⟩
        have hu : (Work.unlink target).run w = (.ok (), w.onDisk (w.disk.erase b)) :=
          Work.unlink_ok.mpr ⟨hnt, b, old, hfb, hg, rfl⟩
        refine ⟨w.disk.erase b, ?_, fun x => get?_erase w.disk x hgb⟩
        rw [stageFile, run_bind, exists?_of_follow hnt hfb, hg]
        simp only [Option.isSome_some, if_true, run_bind, hu]
  have hkeep : KeepsFolders w.disk d₁ := by
    intro x hx
    rw [hd₁ x, if_neg]
    · exact hx
    · rintro rfl
      exact hgb hx
  have hfolders : (makeFolders target.parent).run (w.onDisk d₁) = (.ok (), w.onDisk d₁) :=
    makeFolders_of_leadsToFolder (hasNull_parent hnt) (hparent.mono hkeep)
  have hfree : d₁.get? b = none := by rw [hd₁ b, if_pos rfl]
  have hcopy := copyFile_of_free (w := w.onDisk d₁) hns hnt (follow_of_keepsFolders hkeep hfa)
    (follow_of_keepsFolders hkeep hfb) (by rw [Workshop.onDisk_disk, hd₁ a, if_neg hab, hga])
    hfree
  refine ⟨d₁.put b (.file content), ?_, fun x => ?_⟩
  · rw [hclear, run_bind, hfolders]
    exact hcopy
  · rw [get?_put_place d₁ x _ (by simp [hfree]), hd₁ x]
    split <;> rfl

/-! ## Rendering in place -/

theorem renderInPlace_ok {file : Path} {render : String → Except RenderFault String} {u : Unit} :
    (renderInPlace file render).run w = (.ok u, w') ↔
      hasNull file = false ∧ ∃ place content text output,
        w.disk.follow w.here file = .ok place ∧ w.disk.get? place = some (.file content)
        ∧ Text.decodeUtf8 content = .ok text ∧ render text = .ok output
        ∧ w' = w.onDisk (w.disk.put place (.file output.toUTF8)) := by
  unfold renderInPlace writeText
  rw [bind_ok]
  constructor
  · rintro ⟨text, w₁, hr, h⟩
    obtain ⟨output, w₂, hrender, hw⟩ := bind_ok.mp h
    obtain ⟨hn, rfl, place, content, hf, hg, hd⟩ := readExact_ok.mp hr
    obtain ⟨ho, rfl⟩ := ofExcept_ok.mp hrender
    obtain ⟨-, place', hf', -, rfl⟩ := Work.write_ok.mp hw
    obtain rfl : place = place' := Except.ok.inj (hf.symm.trans hf')
    exact ⟨hn, place, content, text, output, hf, hg, hd, ho, rfl⟩
  · rintro ⟨hn, place, content, text, output, hf, hg, hd, ho, rfl⟩
    refine ⟨text, w, readExact_ok.mpr ⟨hn, rfl, place, content, hf, hg, hd⟩, ?_⟩
    rw [bind_ok]
    exact ⟨output, w, ofExcept_ok.mpr ⟨ho, rfl⟩,
      Work.write_ok.mpr ⟨hn, place, hf, by simp [hg], rfl⟩⟩

/-! ## The whole file -/

/-- The staging `j` was done at the site `s` and took one tree to the other. -/
structure Made (before : Disk) (here : Place) (j : Staging) (s : Site) (after : Disk) : Prop where
  ready : Ready after here j s
  changed : ChangedAt s.target before after
  free : before.get? s.target ≠ some .folder
  made : after.get? s.target = some s.made

theorem Made.keepsFolders {before after : Disk} {here : Place} {j : Staging} {s : Site}
    (h : Made before here j s after) : KeepsFolders before after :=
  h.changed.keepsFolders h.free

/-- The template was there before. -/
theorem Made.source_before {before after : Disk} {here : Place} {j : Staging} {s : Site}
    (h : Made before here j s after) : before.get? s.source = some (.file s.content) :=
  (h.changed.file_iff h.ready.apart s.content).mp h.ready.source_file

namespace Staging

variable {j : Staging}

/-- The workshop after the staging, the tree apart. -/
def granted (j : Staging) (w : Workshop) : Workshop := { w with grants := j.grants w.grants }

/-- Either the template cannot be staged, or all depends on rendering the copy. -/
theorem perform_staged {result : Except Failure Unit} (h : j.perform.run w = (result, w')) :
    (∃ f, result = .error f ∧ (stageFile j.source j.target).run w = (.error f, w'))
      ∨ ∃ w₁ a b content, w₁ = (j.granted w).onDisk w₁.disk
        ∧ Copied w.disk w.here j.source j.target a b content w₁.disk
        ∧ (renderInPlace j.target j.render).run w₁ = (result, w') := by
  rw [perform, run_bind] at h
  cases hstage : (stageFile j.source j.target).run w with
  | mk staged w₁ =>
      rw [hstage] at h
      cases staged with
      | error f =>
          cases h
          exact Or.inl ⟨f, rfl, rfl⟩
      | ok u =>
          obtain ⟨hw₁, a, b, content, hcopied⟩ := stageFile_ok hstage
          refine Or.inr ⟨j.granted w₁, a, b, content, ?_, hcopied, h⟩
          rw [hw₁]
          rfl

/-- A staging ends well only by being done at some site. -/
theorem perform_ok {u : Unit} (h : j.perform.run w = (.ok u, w')) :
    w' = (j.granted w).onDisk w'.disk ∧ ∃ s, Made w.disk w.here j s w'.disk := by
  rcases perform_staged h with ⟨_, hf, -⟩ | ⟨w₁, a, b, content, hw₁, hcopied, hrender⟩
  · cases hf
  obtain ⟨-, b', content', text, output, hf, hg, hd, ho, rfl⟩ := renderInPlace_ok.mp hrender
  have hhere : w₁.here = w.here := by
    rw [hw₁]
    rfl
  rw [hhere] at hf
  obtain ⟨rfl, rfl⟩ := hcopied.found hf hg
  have hne : w₁.disk.get? b' ≠ some .folder := by simp [hg]
  have hput := keepsFolders_put (.file output.toUTF8) hne
  have hmade : (w₁.disk.put b' (.file output.toUTF8)).get? b' = some (.file output.toUTF8) :=
    (get?_put_place w₁.disk b' _ hne).trans (if_pos rfl)
  refine ⟨?_, ⟨a, b', content', text, output⟩, ?_, ?_, hcopied.free, hmade⟩
  · rw [hw₁]
    rfl
  · exact {
      source_null := hcopied.source_null
      target_null := hcopied.target_null
      apart := hcopied.apart
      source_leads := follow_of_keepsFolders hput hcopied.source_leads
      target_leads := follow_of_keepsFolders hput hf
      parent_leads := hcopied.parent_leads.mono hput
      source_file := (get?_put_place w₁.disk a _ hne).trans
        ((if_neg hcopied.apart).trans hcopied.template)
      target_free := by
        rw [Workshop.onDisk_disk, hmade]
        simp
      decoded := hd
      rendered := ho }
  · exact hcopied.changed.trans (changedAt_put _ hne)

/-- In a tree that is ready a staging ends well and changes the target's file only. -/
theorem perform_of_ready {s : Site} (h : Ready w.disk w.here j s) :
    ∃ d, j.perform.run w = (.ok (), (j.granted w).onDisk d)
      ∧ ∀ x, d.get? x = if x = s.target then some s.made else w.disk.get? x := by
  obtain ⟨d₁, hstage, hd₁⟩ := stageFile_of_ready h.source_null h.target_null h.apart
    h.source_leads h.target_leads h.parent_leads h.source_file h.target_free
  have hkeep : KeepsFolders w.disk d₁ := by
    intro x hx
    rw [hd₁ x, if_neg]
    · exact hx
    · rintro rfl
      exact h.target_free hx
  have hcopied : d₁.get? s.target = some (.file s.content) := by rw [hd₁, if_pos rfl]
  have hrender : (renderInPlace j.target j.render).run ((j.granted w).onDisk d₁)
      = (.ok (), (j.granted w).onDisk (d₁.put s.target s.made)) :=
    renderInPlace_ok.mpr ⟨h.target_null, s.target, s.content, s.text, s.output,
      follow_of_keepsFolders hkeep h.target_leads, hcopied, h.decoded, h.rendered, rfl⟩
  refine ⟨d₁.put s.target s.made, ?_, fun x => ?_⟩
  · rw [perform, run_bind, hstage]
    exact hrender
  · rw [get?_put_place d₁ x _ (by simp [hcopied]), hd₁ x]
    split <;> rfl

end Staging

end PatchForge
