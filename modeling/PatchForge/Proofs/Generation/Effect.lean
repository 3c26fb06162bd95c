import PatchForge.Proofs.Generation.Chain
import PatchForge.Proofs.Rendering.Groups
import PatchForge.Proofs.Work.Touch

/-!
# What generation leaves behind

Generation is no transaction: when it fails, what was made stays. This
file says exactly what then lies in the tree. A run begins some files, in
the order of the acts, and fails at the last of them or between two
(`begun`). However it ends, the tree has changed at these files alone, but
for new folders on the way to them (`touched_begun`).

If what fails is a rendering, the files before are complete, the file at
hand is a copy of its template, and nothing that comes later was begun
(`generateAll_effect`). That needs the files to be distinct and none of
them to be a template, or a later one would take the place of an earlier
one.
-/

namespace PatchForge

open Work Disk

/-! ## The files that a run begins -/

/-- The files that acts begin to make, up to the act that fails. -/
def begun : List Act → Workshop → List Staging
  | [], _ => []
  | a :: acts, w =>
    a.staging?.toList
      ++ if (a.perform.run w).1.isOk then begun acts (a.perform.run w).2 else []

def Act.files (a : Act) : List Path := a.staging?.toList.map (·.target)

variable {acts : List Act} {w w' : Workshop}

theorem begun_cons_ok {a : Act} {u : Unit} {w₁ : Workshop} (h : a.perform.run w = (.ok u, w₁)) :
    begun (a :: acts) w = a.staging?.toList ++ begun acts w₁ := by
  rw [begun, h]
  rfl

theorem begun_cons_error {a : Act} {f : Failure} {w₁ : Workshop}
    (h : a.perform.run w = (.error f, w₁)) : begun (a :: acts) w = a.staging?.toList := by
  rw [begun, h]
  exact List.append_nil _

theorem touching_act (a : Act) : Meets (touching a.files) a.perform := by
  cases a with
  | say n => exact fun w => ⟨rfl, Touches.refl _⟩
  | grant g => exact fun w => ⟨rfl, Touches.refl _⟩
  | make j => exact touching_perform j
  | stop f => exact moving_fail f

/-- However a run ends, it touches the files that it began. -/
theorem touched_begun : ∀ (acts : List Act) (w : Workshop),
    Touched ((begun acts w).map (·.target)) w ((performAll acts).run w).2
  | [], w => Touched.refl w
  | a :: acts, w => by
      have ha := touching_act a w
      rw [performAll, run_bind]
      cases hrun : a.perform.run w with
      | mk result w₁ =>
          rw [hrun] at ha
          cases result with
          | error f =>
              rw [begun_cons_error hrun]
              exact ha
          | ok u =>
              rw [begun_cons_ok hrun, List.map_append]
              have hacts := touched_begun acts w₁
              exact (Touched.mono ha (List.subset_append_left ..)).trans
                (hacts.mono (List.subset_append_right ..))

/-- A run that ends well began all files. -/
theorem begun_of_ok {u : Unit} : ∀ {acts : List Act} {w : Workshop},
    (performAll acts).run w = (.ok u, w') → begun acts w = stagings acts
  | [], w, _ => rfl
  | a :: acts, w, h => by
      obtain ⟨_, w₁, ha, hacts⟩ := bind_ok.mp h
      rw [begun_cons_ok ha, begun_of_ok hacts, stagings_cons]

/-- A run that fails does so at one act, and all before it ended well. -/
theorem performAll_error {f : Failure} : ∀ {acts : List Act} {w : Workshop},
    (performAll acts).run w = (.error f, w') →
      ∃ before a after w₁, acts = before ++ a :: after
        ∧ (performAll before).run w = (.ok (), w₁) ∧ a.perform.run w₁ = (.error f, w')
        ∧ begun acts w = stagings before ++ a.staging?.toList
  | [], w, h => by
      cases h
  | a :: acts, w, h => by
      rcases bind_error.mp h with ha | ⟨_, w₁, ha, hacts⟩
      · exact ⟨[], a, acts, w, rfl, rfl, ha, begun_cons_error ha⟩
      · obtain ⟨before, b, after, w₂, rfl, hbefore, hb, hbegun⟩ := performAll_error hacts
        refine ⟨a :: before, b, after, w₂, rfl, bind_ok.mpr ⟨(), w₁, ha, hbefore⟩, hb, ?_⟩
        rw [begun_cons_ok ha, hbegun, stagings_cons, List.append_assoc]

/-! ## A file that is not rendered -/

/-- The file holds the template's bytes of the tree `d`, whose text does not render. -/
structure Unrendered (d d' : Disk) (here : Place) (j : Staging) (fault : RenderFault)
    (s : Site) : Prop where
  source_leads : d'.follow here j.source = .ok s.source
  target_leads : d'.follow here j.target = .ok s.target
  template : d.get? s.source = some (.file s.content)
  copied : d'.get? s.target = some (.file s.content)
  decoded : Text.decodeUtf8 s.content = .ok s.text
  fails : j.render s.text = .error fault

/-- A staging whose text does not render leaves a copy of the template. -/
theorem Staging.perform_unrendered {j : Staging} {fault : RenderFault}
    (h : j.perform.run w = (.error (.render fault), w')) :
    ∃ s, Unrendered w.disk w'.disk w.here j fault s := by
  have hfiles : ∀ {α : Type} {x : Work α} {w w' : Workshop}, Meets failingByFiles x →
      x.run w ≠ (.error (.render fault), w') := by
    intro α x w w' hx hrun
    cases hx.error hrun _ rfl
  have hstaging : Meets failingByFiles (stageFile j.source j.target) :=
    meets_stageFile byFiles _ (failing_unlink _) (failing_makeFolders _)
      fun _ => failing_change _ _
  rcases perform_staged h with ⟨f, hf, hstage⟩ | ⟨w₁, a, b, content, hw₁, hcopied, hrender⟩
  · cases hf
    exact (hfiles hstaging hstage).elim
  have hhere : w₁.here = w.here := by
    rw [hw₁]
    rfl
  rcases bind_error.mp hrender with hread | ⟨text, w₂, hread, hthen⟩
  · exact (hfiles (meets_readExact byFiles _) hread).elim
  obtain ⟨-, rfl, b', content', hf, hg, hdecoded⟩ := readExact_ok.mp hread
  rw [hhere] at hf
  obtain ⟨rfl, rfl⟩ := hcopied.found hf hg
  rcases bind_error.mp hthen with hfails | ⟨output, w₃, -, hwrite⟩
  · cases hr : j.render text with
    | ok output =>
        rw [hr] at hfails
        cases hfails
    | error fault' =>
        rw [hr] at hfails
        cases hfails
        exact ⟨⟨a, b', content', text, ""⟩, {
          source_leads := hcopied.source_leads
          target_leads := hf
          template := (hcopied.changed.file_iff hcopied.apart content').mp hcopied.template
          copied := hg
          decoded := hdecoded
          fails := hr }⟩
  · exact (hfiles (failing_writeText _ _) hwrite).elim

/-! ## Files that are complete -/

/-- The file holds the rendering of the template of the tree `d`. -/
structure Complete (d d' : Disk) (here : Place) (j : Staging) (s : Site) : Prop where
  source_leads : d'.follow here j.source = .ok s.source
  target_leads : d'.follow here j.target = .ok s.target
  template : d.get? s.source = some (.file s.content)
  decoded : Text.decodeUtf8 s.content = .ok s.text
  rendered : j.render s.text = .ok s.output
  made : d'.get? s.target = some s.made

section

variable {here : Place} {d d₁ d' : Disk} {l : List (Staging × Site)} {files : List Path}

/-- What is none of the chain's files lies apart from their places. -/
theorem MadeAll.apart (h : MadeAll here d l d₁) (hkeep : KeepsFolders d₁ d') {p : Path}
    {place : Place} (hf : d'.follow here p = .ok place)
    (hp : ∀ e ∈ l, ¬ SameFile d' here p e.1.target) : ∀ e ∈ l, place ≠ e.2.target := by
  rintro e he rfl
  exact hp e he ⟨_, hf, follow_of_keepsFolders hkeep (h.target_leads he)⟩

/-- The files of a chain are complete as long as they are distinct, none is a template, and what
is touched after the chain is none of them. -/
theorem MadeAll.complete (h : MadeAll here d l d₁) (hafter : Touches here files d₁ d')
    (hdistinct : l.Pairwise fun e e' => ¬ SameFile d' here e.1.target e'.1.target)
    (hsources : ∀ e ∈ l, ∀ e' ∈ l, ¬ SameFile d' here e.1.source e'.1.target)
    (hfiles : ∀ e ∈ l, ∀ p ∈ files, ¬ SameFile d' here e.1.target p) {e : Staging × Site}
    (he : e ∈ l) : Complete d d' here e.1 e.2 := by
  have hsource := follow_of_keepsFolders hafter.folders (h.source_leads he)
  have htarget := follow_of_keepsFolders hafter.folders (h.target_leads he)
  have hsep := h.apart hafter.folders hsource (hsources e he)
  obtain ⟨l₁, l₂, rfl⟩ := List.append_of_mem he
  obtain ⟨d₂, d₃, hbefore, hmade, hthen⟩ := h.split
  obtain ⟨-, hcons, -⟩ := List.pairwise_append.mp hdistinct
  obtain ⟨hlater, -⟩ := List.pairwise_cons.mp hcons
  refine ⟨hsource, htarget, ?_, hmade.ready.decoded, hmade.ready.rendered, ?_⟩
  · have hstays := hbefore.file_iff e.2.content fun x hx => hsep x (List.mem_append_left _ hx)
    exact hstays.mp hmade.source_before
  · have hthere : d₁.get? e.2.target = some e.2.made :=
      (hthen.file_iff _ (hthen.apart hafter.folders htarget hlater)).mpr hmade.made
    exact (hafter.file_iff (fun p hp hf => hfiles e he p hp ⟨_, htarget, hf⟩) _).mpr hthere

end

/-! ## Runs that fail at a rendering -/

/-- Acts that cannot render stop or make a file that is not rendered. -/
theorem Act.perform_unrendered {a : Act} {fault : RenderFault}
    (h : a.perform.run w = (.error (.render fault), w')) :
    a = .stop (.render fault)
      ∨ ∃ j, a = .make j ∧ ∃ s, Unrendered w.disk w'.disk w.here j fault s := by
  cases a with
  | say n => cases h
  | grant g => cases h
  | make j => exact Or.inr ⟨j, rfl, j.perform_unrendered h⟩
  | stop f =>
      cases h
      exact Or.inl rfl

section

variable {before : List Act} {a : Act} {w₁ : Workshop} {js : List Staging}
  {result : Except Failure Unit}

/-- The files made before an act are complete after it. -/
theorem complete_before (hbefore : (performAll before).run w = (.ok (), w₁))
    (ha : a.perform.run w₁ = (result, w')) (hjs : js = stagings before ++ a.staging?.toList)
    (hdistinct : js.Pairwise fun i j => ¬ SameFile w'.disk w.here i.target j.target)
    (hsources : ∀ i ∈ js, ∀ j ∈ js, ¬ SameFile w'.disk w.here i.source j.target) :
    ∀ j ∈ stagings before, ∃ s, Complete w.disk w'.disk w.here j s := by
  subst hjs
  obtain ⟨hhere, -, -, l, hl, hmade⟩ := performAll_ok hbefore
  have hafter := (touching_act a w₁).2
  rw [ha, hhere] at hafter
  obtain ⟨hdone, -, hlast⟩ := List.pairwise_append.mp hdistinct
  have hmem : ∀ e ∈ l, e.1 ∈ stagings before := fun e he => mem_stagings hl he
  intro j hj
  rw [← hl] at hj hdone
  obtain ⟨e, he, rfl⟩ := List.mem_map.mp hj
  refine ⟨e.2, hmade.complete hafter (List.pairwise_map.mp hdone) ?_ ?_ he⟩
  · intro x hx y hy
    exact hsources _ (List.mem_append_left _ (hmem x hx)) _ (List.mem_append_left _ (hmem y hy))
  · intro x hx p hp
    obtain ⟨i, hi, rfl⟩ := List.mem_map.mp hp
    exact hlast _ (hmem x hx) i hi

/-- A file that is not rendered holds its template as the whole run found it. -/
theorem unrendered_after {j : Staging} {fault : RenderFault} {s : Site}
    (hbefore : (performAll before).run w = (.ok (), w₁))
    (hfolders : KeepsFolders w₁.disk w'.disk)
    (hsources : ∀ i ∈ stagings before, ¬ SameFile w'.disk w.here j.source i.target)
    (h : Unrendered w₁.disk w'.disk w₁.here j fault s) :
    Unrendered w.disk w'.disk w.here j fault s := by
  obtain ⟨hhere, -, -, l, hl, hmade⟩ := performAll_ok hbefore
  rw [hhere] at h
  have hmem : ∀ e ∈ l, e.1 ∈ stagings before := fun e he => mem_stagings hl he
  have hapart := hmade.apart hfolders h.source_leads fun e he => hsources e.1 (hmem e he)
  exact { h with template := (hmade.file_iff _ hapart).mp h.template }

end

/-! ## Generation -/

/-- After a run that ends well all files are there. -/
theorem made_of_ok {u : Unit} (h : (performAll acts).run w = (.ok u, w')) {j : Staging}
    (hj : j ∈ stagings acts) : ∃ place content, w'.disk.follow w.here j.target = .ok place
      ∧ w'.disk.get? place = some (.file content) := by
  obtain ⟨-, -, -, l, hl, hmade⟩ := performAll_ok h
  rw [← hl] at hj
  obtain ⟨e, he, rfl⟩ := List.mem_map.mp hj
  obtain ⟨content, hfile⟩ := hmade.target_file he
  exact ⟨e.2.target, content, hmade.target_leads he, hfile⟩

section

variable {modules : List Module} {verbose : Bool}

/-- Generation that stops without a file at hand has records that cannot be grouped. -/
theorem ungrouped_of_stop {fault : RenderFault}
    (h : .stop (.render fault) ∈ generationActs modules verbose) :
    ∃ m ∈ modules, ∃ p ∈ m.extensionPoints, ∃ e ∈ p.formatPairs, ∃ template,
      (template = e.1 ∨ template = e.2) ∧ ∃ cause, fault = .format template p.name cause := by
  rcases stop_generationActs h with
    ⟨_, hf⟩ | ⟨_, -, _, -, _, _, -, -, -, hf⟩ | ⟨m, hm, p, hp, _, hf, hgroups⟩
  · cases hf
  · cases hf
  · cases hf
    exact ⟨m, hm, p, hp, groups_error hgroups⟩

theorem generateAll_leaves {result : Except Failure Generation}
    (h : (generateAll modules verbose).run w = (result, w')) :
    ((performAll (generationActs modules verbose)).run w).2 = w' := by
  cases result with
  | ok g => rw [(generateAll_ok.mp h).1]
  | error f => rw [generateAll_error.mp h]

/-- **What generation leaves behind.** Let `js` be the files that a run begins, in order.
However it ends, it touches these alone. If it ends well, they are the files it lists, and each
is there. If it cannot render, while they are distinct and none is a template of theirs, then
all are complete but the one at hand, that one is a copy of its template, and what is to come
later is left alone. No file is at hand if the records of an extension point could not even be
grouped. -/
theorem generateAll_effect {js : List Staging} {result : Except Failure Generation}
    (h : (generateAll modules verbose).run w = (result, w'))
    (hjs : begun (generationActs modules verbose) w = js) :
    Touches w.here (js.map (·.target)) w.disk w'.disk
    ∧ (∀ g, result = .ok g → g.files = js.map (·.target)
      ∧ ∀ j ∈ js, ∃ place content, w'.disk.follow w.here j.target = .ok place
        ∧ w'.disk.get? place = some (.file content))
    ∧ (js.Pairwise (fun i j => ¬ SameFile w'.disk w.here i.target j.target) →
      (∀ i ∈ js, ∀ j ∈ js, ¬ SameFile w'.disk w.here i.source j.target) →
      ∀ fault, result = .error (.render fault) →
        ∃ done rest later, js = done ++ rest
          ∧ stagings (generationActs modules verbose) = js ++ later
          ∧ (∀ j ∈ done, ∃ s, Complete w.disk w'.disk w.here j s)
          ∧ (∀ j ∈ later, (∀ i ∈ js, ¬ SameFile w'.disk w.here i.target j.target) →
            ∀ place, w'.disk.follow w.here j.target = .ok place →
              LeftAlone w.here (js.map (·.target)) w.disk w'.disk place)
          ∧ ((∃ j, rest = [j] ∧ ∃ s, Unrendered w.disk w'.disk w.here j fault s)
            ∨ rest = [] ∧ ∃ m ∈ modules, ∃ p ∈ m.extensionPoints, ∃ e ∈ p.formatPairs,
              ∃ template, (template = e.1 ∨ template = e.2)
                ∧ ∃ cause, fault = .format template p.name cause)) := by
  have htouched := touched_begun (generationActs modules verbose) w
  rw [generateAll_leaves h, hjs] at htouched
  obtain ⟨-, htouches⟩ := htouched
  refine ⟨htouches, ?_, ?_⟩
  · rintro g rfl
    obtain ⟨hacts, rfl⟩ := generateAll_ok.mp h
    obtain rfl : stagings (generationActs modules verbose) = js :=
      (begun_of_ok hacts).symm.trans hjs
    exact ⟨rfl, fun j hj => made_of_ok hacts hj⟩
  · rintro hdistinct hsources fault rfl
    obtain ⟨before, a, after, w₁, hsplit, hbefore, ha, hbegun⟩ :=
      performAll_error (generateAll_error.mp h)
    have hjs' : js = stagings before ++ a.staging?.toList := hjs.symm.trans hbegun
    refine ⟨stagings before, a.staging?.toList, stagings after, hjs', ?_,
      complete_before hbefore ha hjs' hdistinct hsources, ?_, ?_⟩
    · rw [hsplit, stagings_append, stagings_cons, hjs', List.append_assoc]
    · intro j _ hother place hf
      refine htouches.elsewhere place fun p hp hfp => ?_
      obtain ⟨i, hi, rfl⟩ := List.mem_map.mp hp
      exact hother i hi ⟨place, hfp, hf⟩
    · rcases Act.perform_unrendered ha with rfl | ⟨j, rfl, s, hs⟩
      · have hstop : .stop (.render fault) ∈ generationActs modules verbose := by
          rw [hsplit]
          exact List.mem_append_right _ (List.mem_cons_self ..)
        exact Or.inr ⟨rfl, ungrouped_of_stop hstop⟩
      · refine Or.inl ⟨j, rfl, s, unrendered_after hbefore ?_ ?_ hs⟩
        · have hafter := (touching_act (.make j) w₁).2.folders
          rw [ha] at hafter
          exact hafter
        · intro i hi
          subst hjs'
          exact hsources j (List.mem_append_right _ (List.mem_singleton_self _)) i
            (List.mem_append_left _ hi)

end

/-! ### A voice of two pitches -/

/-- What could not be rendered, if work failed for that. -/
def renderFault? {α : Type} : Except Failure α → Option RenderFault
  | .error (.render fault) => some fault
  | _ => none

theorem renderFault?_eq_some {α : Type} {fault : RenderFault} :
    ∀ {r : Except Failure α}, renderFault? r = some fault → r = .error (.render fault)
  | .error (.render _), h => by
      cases h
      rfl

theorem run_of_renderFault {α : Type} {x : Work α} {fault : RenderFault} {w : Workshop}
    (h : renderFault? (x.run w).1 = some fault) :
    x.run w = (.error (.render fault), (x.run w).2) :=
  Prod.ext (renderFault?_eq_some h) rfl

def soundModule : Module :=
  { (default : Module) with
    name := "Sound"
    folder := ⟨.top, ["Sound"]⟩
    extensionPoints := [
      { (default : ExtensionPoint) with
        name := "Voice"
        templateSources := some ["Voice.h"]
        templateDestinations := some ["voices/\x7b0\x7d.h"]
        slots := ["Name", "Pitch"]
        placeholders := [⟨"Pitch", "\x7b1\x7d"⟩] },
      { (default : ExtensionPoint) with
        name := "Index"
        source := .str "Index.h"
        destination := .str "Index.h" }]
    data := [("Voice", [[("Name", "Bass"), ("Pitch", "low")], [("Name", "Lead"), ("Pitch", "high")],
      [("Name", "Lead"), ("Pitch", "low")]])] }

def soundShop : Workshop :=
  { (default : Workshop) with
    disk := ⟨[(["Sound"], .folder), (["Sound", "codegen"], .folder),
      (["Sound", "codegen", "Voice.h"], .file "\x7b\x7bPitch\x7d\x7d".toUTF8),
      (["Sound", "codegen", "Index.h"], .file "new".toUTF8),
      (["Sound", "Index.h"], .file "old".toUTF8)]⟩ }

theorem generateAll_effect_voices :
    ∃ w' fault js, (generateAll [soundModule] false).run soundShop = (.error (.render fault), w')
      ∧ begun (generationActs [soundModule] false) soundShop = js
      ∧ js.Pairwise (fun i j => ¬ SameFile w'.disk soundShop.here i.target j.target)
      ∧ (∀ i ∈ js, ∀ j ∈ js, ¬ SameFile w'.disk soundShop.here i.source j.target)
      ∧ Touches soundShop.here (js.map (·.target)) soundShop.disk w'.disk
      ∧ ∃ first last index, js = [first, last]
        ∧ stagings (generationActs [soundModule] false) = [first, last, index]
        ∧ (∃ s, Complete soundShop.disk w'.disk soundShop.here first s)
        ∧ (∃ s, Unrendered soundShop.disk w'.disk soundShop.here last fault s)
        ∧ w'.disk.get? ["Sound", "voices", "Bass.h"] = some (.file "low".toUTF8)
        ∧ w'.disk.get? ["Sound", "voices", "Lead.h"]
          = some (.file "\x7b\x7bPitch\x7d\x7d".toUTF8)
        ∧ w'.disk.get? ["Sound", "Index.h"] = some (.file "old".toUTF8) := by
  have hfault : renderFault? ((generateAll [soundModule] false).run soundShop).1
      = some (.conflict ⟨"Pitch", "\x7b1\x7d"⟩ "Voice" "high" "low") := by
    decide +kernel
  have hrun := run_of_renderFault hfault
  generalize hw' : ((generateAll [soundModule] false).run soundShop).2 = w' at hrun
  have hdistinct : (begun (generationActs [soundModule] false) soundShop).Pairwise
      fun i j => ¬ SameFile w'.disk soundShop.here i.target j.target := by
    rw [← hw']
    decide +kernel
  have hsources : ∀ i ∈ begun (generationActs [soundModule] false) soundShop,
      ∀ j ∈ begun (generationActs [soundModule] false) soundShop,
        ¬ SameFile w'.disk soundShop.here i.source j.target := by
    rw [← hw']
    decide +kernel
  obtain ⟨htouches, -, hfailed⟩ := generateAll_effect hrun rfl
  obtain ⟨done, rest, later, hjs, hall, hdone, -, hlast⟩ :=
    hfailed hdistinct hsources _ rfl
  rcases hlast with ⟨last, rfl, hlast⟩ | ⟨-, _, -, _, -, _, -, _, -, cause, hcause⟩
  · have hbegun : (begun (generationActs [soundModule] false) soundShop).length = 2 := by
      decide +kernel
    have hstagings : (stagings (generationActs [soundModule] false)).length = 3 := by
      decide +kernel
    rw [hall, List.length_append, hbegun] at hstagings
    rw [hjs, List.length_append, List.length_singleton] at hbegun
    obtain ⟨first, rfl⟩ := List.length_eq_one_iff.mp (show done.length = 1 by omega)
    obtain ⟨index, rfl⟩ := List.length_eq_one_iff.mp (show later.length = 1 by omega)
    refine ⟨w', _, _, hrun, rfl, hdistinct, hsources, htouches, first, last, index, hjs, ?_,
      hdone first (List.mem_singleton_self _), hlast, ?_⟩
    · rw [hall, hjs]
      rfl
    · rw [← hw']
      decide +kernel
  · cases hcause

end PatchForge
