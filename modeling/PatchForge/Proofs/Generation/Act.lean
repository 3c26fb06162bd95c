import PatchForge.Proofs.Generation.Staging

/-!
# Generation as a list of acts

Which files generation makes, from which templates and in which order is
decided by the declarations alone: nothing of the file tree enters into
it. This file writes that order down as data. An `Act` says something,
grants include folders, makes one staged file or stops; `generationActs`
lists the acts for a list of modules, and generation does nothing but
perform them in turn (`generateAll_acts`).

Statements about whole runs are therefore inductions over one flat list,
with one case for each kind of act.
-/

namespace PatchForge

open Work

/-- One act of generation. -/
inductive Act where
  | say (n : Notice)
  | grant (g : IncludeTable → IncludeTable)
  | make (j : Staging)
  | stop (f : Failure)

namespace Act

def perform : Act → Work Unit
  | .say n => Work.say n
  | .grant g => modify fun w => { w with grants := g w.grants }
  | .make j => j.perform
  | .stop f => Work.fail f

def staging? : Act → Option Staging
  | .make j => some j
  | _ => none

end Act

def performAll : List Act → Work Unit
  | [] => pure ()
  | a :: acts => do
    a.perform
    performAll acts

/-- The files that acts make, in order. -/
def stagings (acts : List Act) : List Staging := acts.filterMap Act.staging?

def targets (acts : List Act) : List Path := (stagings acts).map (·.target)

theorem stagings_cons (a : Act) (acts : List Act) :
    stagings (a :: acts) = a.staging?.toList ++ stagings acts := by
  rw [stagings, stagings, List.filterMap_cons]
  cases a.staging? with
  | none => rfl
  | some j => rfl

theorem stagings_append (acts more : List Act) :
    stagings (acts ++ more) = stagings acts ++ stagings more := List.filterMap_append

theorem targets_append (acts more : List Act) :
    targets (acts ++ more) = targets acts ++ targets more := by
  rw [targets, stagings_append, List.map_append]
  rfl

theorem performAll_append (acts more : List Act) :
    performAll (acts ++ more) = (do performAll acts; performAll more) := by
  induction acts with
  | nil => rfl
  | cons a acts ih =>
      rw [List.cons_append, performAll, ih, performAll, bind_assoc]

theorem meets_performAll {C : Contract} : ∀ {acts : List Act},
    (∀ a ∈ acts, Meets C a.perform) → Meets C (performAll acts)
  | [], _ => meets_pure ()
  | a :: acts, h => by
      obtain ⟨ha, hacts⟩ := List.forall_mem_cons.mp h
      exact meets_bind ha fun _ => meets_performAll hacts

/-! ## The acts of a declaration -/

def fixedStaging (modules : List Module) (m : Module) (p : ExtensionPoint)
    (source target : String) : Staging where
  source := m.codegenDir.child source
  target := m.folder.child target
  grants := p.grant modules
  render text := renderFixed text p.name p.placeholders (p.contributions modules)

def groupStaging (m : Module) (p : ExtensionPoint) (g : Group) : Staging where
  source := m.codegenDir.child g.source
  target := m.folder.child g.destination
  grants := id
  render text := renderGroup text p.name p.placeholders g.records

/-- Only texts name files. -/
def fixedActs (modules : List Module) (m : Module) (p : ExtensionPoint) : List Act :=
  match p.source with
  | .str s =>
    match p.destination with
    | .str t => [.make (fixedStaging modules m p s t)]
    | v => [.stop (.misuse (.joined v.kind))]
  | v => [.stop (.misuse (.joined v.kind))]

/-- All groups are known before the first file is made. -/
def groupActs (m : Module) (p : ExtensionPoint) : Except RenderFault (List Group) → List Act
  | .ok gs => gs.map fun g => .make (groupStaging m p g)
  | .error f => [.stop (.render f)]

def templatedActs (modules : List Module) (m : Module) (p : ExtensionPoint)
    (sources destinations : List String) : List Act :=
  if sources.length ≠ destinations.length then
    [.stop (.unevenTemplates p.name m.name sources.length destinations.length)]
  else
    .grant (p.grant modules)
      :: groupActs m p (groups p.name p.formatPairs (p.contributions modules))

def pointActs (modules : List Module) (m : Module) (p : ExtensionPoint) : List Act :=
  (match p.templateSources, p.templateDestinations with
    | some sources, some destinations => templatedActs modules m p sources destinations
    | _, _ => [])
  ++ if p.isFixed then fixedActs modules m p else []

def moduleActs (modules : List Module) (verbose : Bool) (m : Module) : List Act :=
  (if verbose then
    [.say (.info ("\"" ++ m.name ++ "\" requested CodeGen. Generating...") "gear")] else [])
  ++ m.extensionPoints.flatMap (pointActs modules m)

def generationActs (modules : List Module) (verbose : Bool) : List Act :=
  (modules.filter (·.hasExtensionPoints)).flatMap (moduleActs modules verbose)

/-! ### What stops generation -/

section

variable {modules : List Module} {m : Module} {p : ExtensionPoint} {f : Failure}

theorem stop_fixedActs (h : .stop f ∈ fixedActs modules m p) : ∃ cause, f = .misuse cause := by
  unfold fixedActs at h
  split at h
  · split at h
    · simp at h
    · exact ⟨_, by simpa using h⟩
  · exact ⟨_, by simpa using h⟩

theorem stop_templatedActs {sources destinations : List String}
    (h : .stop f ∈ templatedActs modules m p sources destinations) :
    (sources.length ≠ destinations.length
        ∧ f = .unevenTemplates p.name m.name sources.length destinations.length)
      ∨ ∃ fault, f = .render fault
        ∧ groups p.name p.formatPairs (p.contributions modules) = .error fault := by
  unfold templatedActs at h
  split at h
  · rename_i hne
    exact Or.inl ⟨hne, by simpa using h⟩
  · cases hgroups : groups p.name p.formatPairs (p.contributions modules) with
    | ok gs =>
        rw [hgroups] at h
        simp [groupActs] at h
    | error fault =>
        rw [hgroups] at h
        exact Or.inr ⟨fault, by simpa [groupActs] using h, rfl⟩

/-- Apart from the files themselves, generation stops at a name that is no text, at uneven
lists of templates, or at an extension point whose records cannot be grouped. -/
theorem stop_generationActs {verbose : Bool} (h : .stop f ∈ generationActs modules verbose) :
    (∃ cause, f = .misuse cause)
      ∨ (∃ m ∈ modules, ∃ p ∈ m.extensionPoints, ∃ sources destinations,
        p.templateSources = some sources ∧ p.templateDestinations = some destinations
        ∧ sources.length ≠ destinations.length
        ∧ f = .unevenTemplates p.name m.name sources.length destinations.length)
      ∨ ∃ m ∈ modules, ∃ p ∈ m.extensionPoints, ∃ fault, f = .render fault
        ∧ groups p.name p.formatPairs (p.contributions modules) = .error fault := by
  obtain ⟨m, hm, hacts⟩ := List.mem_flatMap.mp h
  rcases List.mem_append.mp hacts with hsay | hpoints
  · cases verbose <;> simp at hsay
  · obtain ⟨p, hp, hpoint⟩ := List.mem_flatMap.mp hpoints
    have hmodule : m ∈ modules := (List.mem_filter.mp hm).1
    rcases List.mem_append.mp hpoint with htemplated | hfixed
    · split at htemplated
      · rename_i sources destinations hs hd
        rcases stop_templatedActs htemplated with huneven | hgroups
        · exact Or.inr (Or.inl ⟨m, hmodule, p, hp, sources, destinations, hs, hd, huneven⟩)
        · exact Or.inr (Or.inr ⟨m, hmodule, p, hp, hgroups⟩)
      · cases htemplated
    · split at hfixed
      · exact Or.inl (stop_fixedActs hfixed)
      · cases hfixed

end

/-! ## Generation performs them -/

/-- The work performs the acts and gives the files they make. -/
def Performs (x : Work (List Path)) (acts : List Act) : Prop :=
  x = do
    performAll acts
    return targets acts

theorem performs_nil : Performs (pure []) [] := rfl

/-- Nothing comes after a stop. -/
theorem performs_stop (f : Failure) : Performs (fail f) [.stop f] := rfl

theorem performs_append {x y : Work (List Path)} {acts more : List Act} (hx : Performs x acts)
    (hy : Performs y more) :
    Performs (do return (← x) ++ (← y)) (acts ++ more) := by
  rw [Performs, hx, hy, performAll_append, targets_append]
  simp only [bind_assoc, pure_bind]

theorem performs_cons {x : Work (List Path)} {acts : List Act} (a : Act)
    (ha : a.staging? = none) (hx : Performs x acts) :
    Performs (do a.perform; x) (a :: acts) := by
  have ht : targets (a :: acts) = targets acts := by
    rw [targets, stagings_cons, ha]
    rfl
  rw [Performs, hx, performAll, ht, bind_assoc]

theorem performs_mapM {α : Type} {g : α → Work (List Path)} {acts : α → List Act}
    (h : ∀ a, Performs (g a) (acts a)) : ∀ l : List α,
      Performs (do return (← l.mapM g).flatten) (l.flatMap acts)
  | [] => rfl
  | a :: l => by
      have hl := performs_append (h a) (performs_mapM h l)
      rw [List.mapM_cons, List.flatMap_cons]
      simp only [bind_assoc, pure_bind, List.flatten_cons] at hl ⊢
      exact hl

theorem declaredFile_of_not_str {folder : Path} {v : Json} (h : ∀ s, v ≠ .str s) :
    declaredFile folder v = fail (.misuse (.joined v.kind)) := by
  cases v with
  | str s => exact (h s rfl).elim
  | _ => rfl

theorem performs_generateFixed (modules : List Module) (m : Module) (p : ExtensionPoint) :
    Performs (List.singleton <$> generateFixed modules m p) (fixedActs modules m p) := by
  unfold fixedActs
  split
  · rename_i s hs
    split
    · rename_i t ht
      simp only [Performs, generateFixed, declaredFile, hs, ht, gather, performAll, Act.perform,
        Staging.perform, map_eq_pure_bind, bind_assoc, pure_bind]
      rfl
    · rename_i hv
      simp only [generateFixed, declaredFile_of_not_str hv, map_eq_pure_bind]
      rw [hs]
      exact performs_stop _
  · rename_i hv
    simp only [generateFixed, declaredFile_of_not_str hv, map_eq_pure_bind]
    exact performs_stop _

theorem generateGroup_eq (m : Module) (p : ExtensionPoint) (g : Group) :
    generateGroup m p g = do
      (groupStaging m p g).perform
      return (groupStaging m p g).target := by
  simp only [generateGroup, Staging.perform, bind_assoc]
  rfl

theorem performs_generateGroups (m : Module) (p : ExtensionPoint) : ∀ gs : List Group,
    Performs (gs.mapM (generateGroup m p)) (groupActs m p (.ok gs))
  | [] => rfl
  | g :: gs => by
      have hcons : groupActs m p (.ok (g :: gs))
          = .make (groupStaging m p g) :: groupActs m p (.ok gs) := rfl
      rw [List.mapM_cons, generateGroup_eq, performs_generateGroups m p gs, hcons]
      simp only [Performs, performAll, Act.perform, bind_assoc, pure_bind]
      rfl

theorem performs_generateTemplated (modules : List Module) (m : Module) (p : ExtensionPoint)
    (sources destinations : List String) :
    Performs (generateTemplated modules m p sources destinations)
      (templatedActs modules m p sources destinations) := by
  unfold generateTemplated templatedActs
  split
  · exact performs_stop _
  · have hgroups : Performs (do
        let gs ← Work.ofExcept .render (groups p.name p.formatPairs (p.contributions modules))
        gs.mapM (generateGroup m p))
        (groupActs m p (groups p.name p.formatPairs (p.contributions modules))) := by
      cases groups p.name p.formatPairs (p.contributions modules) with
      | error f => exact performs_stop _
      | ok gs => exact performs_generateGroups m p gs
    have h := performs_cons (.grant (p.grant modules)) rfl hgroups
    simpa only [gather, Act.perform, bind_assoc, pure_bind] using h

theorem performs_generatePoint (modules : List Module) (m : Module) (p : ExtensionPoint) :
    Performs (generatePoint modules m p) (pointActs modules m p) := by
  have htemplated : ∀ sources destinations : Option (List String),
      Performs (match sources, destinations with
        | some sources, some destinations => generateTemplated modules m p sources destinations
        | _, _ => pure [])
        (match sources, destinations with
        | some sources, some destinations => templatedActs modules m p sources destinations
        | _, _ => []) := by
    intro sources destinations
    split
    · exact performs_generateTemplated modules m p _ _
    · exact performs_nil
  have hfixed : Performs
      (if p.isFixed then List.singleton <$> generateFixed modules m p else pure [])
      (if p.isFixed then fixedActs modules m p else []) := by
    split
    · exact performs_generateFixed modules m p
    · exact performs_nil
  have h := performs_append (htemplated p.templateSources p.templateDestinations) hfixed
  -- whether a mode is absent is known before, so both sides branch alike
  have heq : generatePoint modules m p =
      (match p.templateSources, p.templateDestinations with
        | some sources, some destinations => generateTemplated modules m p sources destinations
        | _, _ => pure []) >>= fun templated =>
      (if p.isFixed then List.singleton <$> generateFixed modules m p else pure [])
        >>= fun fixed => pure (templated ++ fixed) := by
    unfold generatePoint
    cases p.templateSources <;> cases p.templateDestinations <;> cases p.isFixed <;> rfl
  rw [heq]
  exact h

theorem performs_generateModule (modules : List Module) (verbose : Bool) (m : Module) :
    Performs (generateModule modules verbose m) (moduleActs modules verbose m) := by
  have h := performs_mapM (performs_generatePoint modules m) m.extensionPoints
  unfold generateModule moduleActs sayIf
  cases verbose with
  | true => exact performs_cons (.say _) rfl h
  | false => exact h

/-- Generation performs the acts that the declarations give and lists the files they make. -/
theorem generateAll_acts (modules : List Module) (verbose : Bool) :
    generateAll modules verbose = do
      performAll (generationActs modules verbose)
      return ⟨targets (generationActs modules verbose),
        (modules.filter (·.hasExtensionPoints)).length⟩ := by
  have h := performs_mapM (performs_generateModule modules verbose)
    (modules.filter (·.hasExtensionPoints))
  have hmap : generateAll modules verbose = (fun files => (⟨files,
      (modules.filter (·.hasExtensionPoints)).length⟩ : Generation)) <$> (do
        return (← (modules.filter (·.hasExtensionPoints)).mapM
          (generateModule modules verbose)).flatten) := by
    simp only [generateAll, map_eq_pure_bind, bind_assoc, pure_bind]
  rw [hmap, h]
  simp only [map_eq_pure_bind, bind_assoc, pure_bind]
  rfl

section

variable {modules : List Module} {verbose : Bool} {w w' : Workshop}

theorem generateAll_ok {g : Generation} :
    (generateAll modules verbose).run w = (.ok g, w') ↔
      (performAll (generationActs modules verbose)).run w = (.ok (), w')
      ∧ g = ⟨targets (generationActs modules verbose),
        (modules.filter (·.hasExtensionPoints)).length⟩ := by
  rw [generateAll_acts, bind_ok]
  constructor
  · rintro ⟨_, w₁, hacts, hpure⟩
    cases hpure
    exact ⟨hacts, rfl⟩
  · rintro ⟨hacts, rfl⟩
    exact ⟨_, w', hacts, rfl⟩

theorem generateAll_error {f : Failure} :
    (generateAll modules verbose).run w = (.error f, w') ↔
      (performAll (generationActs modules verbose)).run w = (.error f, w') := by
  rw [generateAll_acts, bind_error]
  constructor
  · rintro (hacts | ⟨_, w₁, -, hpure⟩)
    · exact hacts
    · cases hpure
  · exact Or.inl

theorem meets_generateAll {C : Contract}
    (h : ∀ a ∈ generationActs modules verbose, Meets C a.perform) :
    Meets C (generateAll modules verbose) := by
  rw [generateAll_acts]
  exact meets_bind (meets_performAll h) fun _ => meets_pure _

end

end PatchForge
