import PatchForge.Proofs.Generation.Regeneration
import PatchForge.Proofs.Grants.Table
import PatchForge.Proofs.Work.Frame

/-!
# What generation grants

Every act of generation either leaves the grants alone or makes the
grants of one extension point, and that extension point has a mode
(`grants_of_mem`). Conversely, where no act stops, each extension point
with a mode makes its grants (`exists_grant`). So after a run that ended
well the table holds the include folders of exactly the modules that
brought a header (`mem_grants_generateAfresh`).

A table that holds them is left as it is by every act, so generating
once more grants nothing new, however that ends (`keeps_grants`).
-/

namespace PatchForge

open Work

/-- It writes files, in one mode or both. -/
def ExtensionPoint.Generates (p : ExtensionPoint) : Prop :=
  p.isFixed = true ∨ p.isTemplated = true

instance (p : ExtensionPoint) : Decidable p.Generates :=
  inferInstanceAs (Decidable (_ ∨ _))

variable {modules : List Module} {m : Module} {p : ExtensionPoint} {a : Act}

/-! ## The grants of single acts -/

theorem grants_fixedActs (h : a ∈ fixedActs modules m p) :
    a.grants = id ∨ a.grants = p.grant modules := by
  unfold fixedActs at h
  split at h
  · split at h
    · obtain rfl := List.mem_singleton.mp h
      exact Or.inr rfl
    · obtain rfl := List.mem_singleton.mp h
      exact Or.inl rfl
  · obtain rfl := List.mem_singleton.mp h
    exact Or.inl rfl

theorem grants_groupActs {r : Except RenderFault (List Group)} (h : a ∈ groupActs m p r) :
    a.grants = id := by
  cases r with
  | ok gs =>
      obtain ⟨g, -, rfl⟩ := List.mem_map.mp h
      rfl
  | error f =>
      obtain rfl := List.mem_singleton.mp h
      rfl

theorem grants_templatedActs {sources destinations : List String}
    (h : a ∈ templatedActs modules m p sources destinations) :
    a.grants = id ∨ a.grants = p.grant modules := by
  unfold templatedActs at h
  split at h
  · obtain rfl := List.mem_singleton.mp h
    exact Or.inl rfl
  · rcases List.mem_cons.mp h with rfl | hgroup
    · exact Or.inr rfl
    · exact Or.inl (grants_groupActs hgroup)

theorem grants_pointActs (h : a ∈ pointActs modules m p) :
    a.grants = id ∨ p.Generates ∧ a.grants = p.grant modules := by
  rcases List.mem_append.mp h with htemplated | hfixed
  · split at htemplated
    · rename_i sources destinations hsources hdestinations
      have hmode : p.Generates := Or.inr (by simp [ExtensionPoint.isTemplated, *])
      exact (grants_templatedActs htemplated).imp_right fun hgrants => ⟨hmode, hgrants⟩
    · cases htemplated
  · split at hfixed
    · rename_i hmode
      exact (grants_fixedActs hfixed).imp_right fun hgrants => ⟨Or.inl hmode, hgrants⟩
    · cases hfixed

/-- An act of generation leaves the grants alone or makes those of an extension point. -/
theorem grants_of_mem {verbose : Bool} (h : a ∈ generationActs modules verbose) :
    a.grants = id ∨ ∃ m ∈ modules, ∃ p ∈ m.extensionPoints,
      p.Generates ∧ a.grants = p.grant modules := by
  obtain ⟨m, hm, ha⟩ := List.mem_flatMap.mp h
  rcases List.mem_append.mp ha with hsay | hpoints
  · cases verbose with
    | true =>
        obtain rfl := List.mem_singleton.mp hsay
        exact Or.inl rfl
    | false => cases hsay
  · obtain ⟨p, hp, hpoint⟩ := List.mem_flatMap.mp hpoints
    refine (grants_pointActs hpoint).imp_right fun hgrants => ?_
    exact ⟨m, List.mem_of_mem_filter hm, p, hp, hgrants⟩

/-! ## No extension point is passed over -/

theorem exists_grant_fixedActs (hstop : ∀ f, .stop f ∉ fixedActs modules m p) :
    ∃ a ∈ fixedActs modules m p, a.grants = p.grant modules := by
  unfold fixedActs at hstop ⊢
  split at hstop
  · split at hstop
    · exact ⟨_, List.mem_singleton.mpr rfl, rfl⟩
    · exact absurd (List.mem_singleton.mpr rfl) (hstop _)
  · exact absurd (List.mem_singleton.mpr rfl) (hstop _)

theorem exists_grant_templatedActs {sources destinations : List String}
    (hstop : ∀ f, .stop f ∉ templatedActs modules m p sources destinations) :
    ∃ a ∈ templatedActs modules m p sources destinations, a.grants = p.grant modules := by
  unfold templatedActs at hstop ⊢
  split at hstop
  · exact absurd (List.mem_singleton.mpr rfl) (hstop _)
  · rename_i hlength
    rw [if_neg hlength]
    exact ⟨_, List.mem_cons_self .., rfl⟩

theorem exists_grant_pointActs (hmode : p.Generates)
    (hstop : ∀ f, .stop f ∉ pointActs modules m p) :
    ∃ a ∈ pointActs modules m p, a.grants = p.grant modules := by
  unfold pointActs at hstop ⊢
  rcases hmode with hfixed | htemplated
  · rw [if_pos hfixed] at hstop ⊢
    obtain ⟨a, ha, hgrants⟩ :=
      exists_grant_fixedActs fun f hf => hstop f (List.mem_append_right _ hf)
    exact ⟨a, List.mem_append_right _ ha, hgrants⟩
  · obtain ⟨hsources, hdestinations⟩ := Bool.and_eq_true_iff.mp htemplated
    obtain ⟨sources, hs⟩ := Option.isSome_iff_exists.mp hsources
    obtain ⟨destinations, hd⟩ := Option.isSome_iff_exists.mp hdestinations
    rw [hs, hd] at hstop ⊢
    obtain ⟨a, ha, hgrants⟩ :=
      exists_grant_templatedActs fun f hf => hstop f (List.mem_append_left _ hf)
    exact ⟨a, List.mem_append_left _ ha, hgrants⟩

theorem exists_grant {verbose : Bool} (hstop : ∀ f, .stop f ∉ generationActs modules verbose)
    (hm : m ∈ modules) (hp : p ∈ m.extensionPoints) (hmode : p.Generates) :
    ∃ a ∈ generationActs modules verbose, a.grants = p.grant modules := by
  have howner : m ∈ modules.filter (·.hasExtensionPoints) := by
    refine List.mem_filter.mpr ⟨hm, ?_⟩
    rw [Module.hasExtensionPoints, List.isEmpty_eq_false_iff.mpr (List.ne_nil_of_mem hp)]
    rfl
  have hsub : pointActs modules m p ⊆ generationActs modules verbose := by
    intro b hb
    refine List.mem_flatMap.mpr ⟨m, howner, List.mem_append_right _ ?_⟩
    exact List.mem_flatMap.mpr ⟨p, hp, hb⟩
  obtain ⟨a, ha, hgrants⟩ := exists_grant_pointActs hmode fun f hf => hstop f (hsub hf)
  exact ⟨a, hsub ha, hgrants⟩

/-! ## The table afterwards -/

/-- The folder of a module that brings a header to the extension point `p`. -/
def Receives (modules : List Module) (p : ExtensionPoint) (name : String) (q : Path) : Prop :=
  name = p.name ∧ ∃ x ∈ modules, p.receivesHeader x = true ∧ x.includeDir = q

section

variable {acts : List Act} {P : ExtensionPoint → Prop}
  (hacts : ∀ a ∈ acts, a.grants = id ∨ ∃ p, P p ∧ a.grants = p.grant modules)

include hacts

theorem mem_grantsAfter {name : String} {q : Path} : ∀ {t : IncludeTable},
    q ∈ (grantsAfter acts t).get name ↔ q ∈ t.get name
      ∨ ∃ a ∈ acts, ∃ p, P p ∧ a.grants = p.grant modules ∧ Receives modules p name q := by
  induction acts with
  | nil => simp [grantsAfter]
  | cons a acts ih =>
      intro t
      obtain ⟨ha, hacts⟩ := List.forall_mem_cons.mp hacts
      have hcons : grantsAfter (a :: acts) t = grantsAfter acts (a.grants t) := rfl
      rw [hcons, ih hacts]
      simp only [List.mem_cons, exists_eq_or_imp]
      rw [← or_assoc]
      refine or_congr_left ?_
      constructor
      · intro h
        rcases ha with hid | ⟨p, hP, hgrants⟩
        · rw [hid] at h
          exact Or.inl h
        · rw [hgrants] at h
          rcases ExtensionPoint.mem_get_grant.mp h with h | h
          · exact Or.inl h
          · exact Or.inr ⟨p, hP, hgrants, h⟩
      · rintro (h | ⟨p, -, hgrants, h⟩)
        · rcases ha with hid | ⟨p, -, hgrants⟩
          · rw [hid]
            exact h
          · rw [hgrants]
            exact ExtensionPoint.mem_get_grant.mpr (Or.inl h)
        · rw [hgrants]
          exact ExtensionPoint.mem_get_grant.mpr (Or.inr h)

end

/-- After a run from no grants that ended well, an extension point has the include folders of
the modules that brought it a header, if it has a mode, and no others. -/
theorem mem_grants_generateAfresh {verbose : Bool} {w w' : Workshop} {g : Generation}
    (hrun : (generateAfresh modules verbose).run w = (.ok g, w')) {name : String} {q : Path} :
    q ∈ w'.grants.get name ↔ ∃ m ∈ modules, ∃ p ∈ m.extensionPoints,
      p.Generates ∧ Receives modules p name q := by
  obtain ⟨hperform, -⟩ := generateAfresh_ok.mp hrun
  obtain ⟨-, hgrants, hstop, -⟩ := performAll_ok hperform
  have hacts : ∀ a ∈ generationActs modules verbose, a.grants = id
      ∨ ∃ p, (∃ m ∈ modules, p ∈ m.extensionPoints ∧ p.Generates)
        ∧ a.grants = p.grant modules := by
    intro a ha
    refine (grants_of_mem ha).imp_right ?_
    rintro ⟨m, hm, p, hp, hmode, hgrants⟩
    exact ⟨p, ⟨m, hm, hp, hmode⟩, hgrants⟩
  rw [hgrants, mem_grantsAfter hacts]
  constructor
  · rintro (h | ⟨_, -, p, ⟨m, hm, hp, hmode⟩, -, h⟩)
    · cases h
    · exact ⟨m, hm, p, hp, hmode, h⟩
  · rintro ⟨m, hm, p, hp, hmode, h⟩
    obtain ⟨a, ha, hgrants⟩ := exists_grant hstop hm hp hmode
    exact Or.inr ⟨a, ha, p, ⟨m, hm, hp, hmode⟩, hgrants, h⟩

/-! ## Generating once more -/

/-- A table that holds what the modules bring is kept by a run that starts with it, however
the run ends. -/
theorem keeps_grants {t : IncludeTable} {verbose : Bool}
    (ht : ∀ m ∈ modules, ∀ p ∈ m.extensionPoints, p.Generates →
      ∀ x ∈ modules, p.receivesHeader x = true → x.includeDir ∈ t.get p.name)
    {w : Workshop} (hw : w.grants = t) :
    ((generateAll modules verbose).run w).2.grants = t := by
  let keeps : Contract := .moving (fun w w' => w.grants = t → w'.grants = t) (fun _ h => h)
    fun h h' hw => h' (h hw)
  have hfiles : ∀ {x : Work Unit}, Meets onFiles x → Meets keeps x := by
    intro x hx w hw
    have hkept : Meets (.keeping Workshop.grants) x := keeping_of_onFiles (fun _ _ => rfl) hx
    exact (hkept w).trans hw
  have hperform : ∀ a : Act, a.grants t = t → Meets keeps a.perform := by
    intro a ha
    cases a with
    | say n => exact fun w hw => hw
    | grant g =>
        intro w hw
        show g w.grants = t
        rw [hw]
        exact ha
    | stop f => exact fun w hw => hw
    | make j =>
        have hgrant : Meets keeps (modify fun w => { w with grants := j.grants w.grants }) := by
          intro w hw
          show j.grants w.grants = t
          rw [hw]
          exact ha
        exact meets_bind (hfiles (onFiles_stageFile _ _)) fun _ =>
          meets_bind hgrant fun _ => hfiles (onFiles_renderInPlace _ _)
  have hgenerate : Meets keeps (generateAll modules verbose) := by
    refine meets_generateAll fun a ha => hperform a ?_
    rcases grants_of_mem ha with hid | ⟨m, hm, p, hp, hmode, hgrants⟩
    · rw [hid]
      rfl
    · rw [hgrants]
      exact ExtensionPoint.grant_of_granted fun x hx => ht m hm p hp hmode x hx
  exact hgenerate w hw

end PatchForge
