import PatchForge.Proofs.Capability.Report
import PatchForge.Proofs.Dict.Merge

/-!
# The first clash of a set

Checking a set fills two tables while it goes through the modules, one of
capabilities and one of extension points. Both are views of one table: a
module mentions its capability and then the names of its extension
points, and the check is a scan of what all modules mention, in order
(`checkFrom_eq`). The scan stops at the first mention of an identifier
that was mentioned before (`firstClash?_eq_some`), and it ends well if
nothing is mentioned twice (`firstClash?_eq_none`).

The table of capabilities compares values by kind. For texts this is
equality, and the statements here are about sets whose capabilities are
texts.
-/

namespace PatchForge.Capability

variable {modules : List Module} {m : Module}

/-! ## Identifiers and their mentions -/

/-- What must be unique in a set of modules. -/
inductive Identifier where
  | capability (id : String)
  | extensionPoint (name : String)
  deriving DecidableEq

def Identifier.capability? : Identifier → Option String
  | .capability id => some id
  | .extensionPoint _ => none

def Identifier.extensionPoint? : Identifier → Option String
  | .capability _ => none
  | .extensionPoint name => some name

/-- The clash of two modules that both use an identifier. -/
def Identifier.clash (first second : String) : Identifier → Clash
  | .capability id => .capability (.str id) first second
  | .extensionPoint name => .extensionPoint name first second

/-- The capability of a module, if it is a text. -/
def exportedText? (m : Module) : Option String :=
  match m.exported with
  | some (.str id) => some id
  | _ => none

/-- What the module mentions as its capability. -/
def capabilityMention (m : Module) : List (Identifier × String) :=
  (exportedText? m).toList.map fun id => (.capability id, m.name)

/-- What a module mentions as its extension points. -/
def pointMentions (owner : String) (points : List ExtensionPoint) : List (Identifier × String) :=
  points.map fun p => (.extensionPoint p.name, owner)

/-- The identifiers of a set, each with the name of the module that uses it: the modules in
order, the capability of each before its extension points. -/
def mentions (modules : List Module) : List (Identifier × String) :=
  modules.flatMap fun m => capabilityMention m ++ pointMentions m.name m.extensionPoints

theorem nodup_identifiers {l : List Identifier} :
    l.Nodup ↔ (l.filterMap (·.capability?)).Nodup ∧ (l.filterMap (·.extensionPoint?)).Nodup := by
  unfold List.Nodup
  rw [List.pairwise_filterMap, List.pairwise_filterMap, ← List.pairwise_and_iff]
  refine List.Pairwise.iff fun x y => ?_
  cases x <;> cases y <;> simp [Identifier.capability?, Identifier.extensionPoint?]

/-- Nothing is mentioned twice exactly if no capability is and no name of an extension point. -/
theorem nodup_mentions : ((mentions modules).map Prod.fst).Nodup
    ↔ (modules.filterMap exportedText?).Nodup
      ∧ (modules.flatMap fun m => m.extensionPoints.map (·.name)).Nodup := by
  have hcapabilities : ((mentions modules).map Prod.fst).filterMap (·.capability?)
      = modules.filterMap exportedText? := by
    rw [mentions, List.map_flatMap, List.filterMap_flatMap, List.filterMap_eq_flatMap_toList]
    congr 1
    funext m
    simp [capabilityMention, pointMentions, Identifier.capability?, List.filterMap_map,
      Function.comp_def]
  have hpoints : ((mentions modules).map Prod.fst).filterMap (·.extensionPoint?)
      = modules.flatMap fun m => m.extensionPoints.map (·.name) := by
    rw [mentions, List.map_flatMap, List.filterMap_flatMap]
    congr 1
    funext m
    simp [capabilityMention, pointMentions, Identifier.extensionPoint?, List.filterMap_map,
      Function.comp_def]
  rw [nodup_identifiers, hcapabilities, hpoints]

/-! ## One scan of all mentions -/

/-- The first clash of a mention with those before it. -/
def firstClash? : Dict Identifier String → List (Identifier × String) → Option Clash
  | _, [] => none
  | before, (x, owner) :: rest =>
    match before.get? x with
    | some first => some (x.clash first owner)
    | none => firstClash? (before ++ [(x, owner)]) rest

theorem firstClash?_append {rest : List (Identifier × String)} :
    ∀ {l before : List (Identifier × String)}, firstClash? before (l ++ rest)
      = (firstClash? before l).or (firstClash? (before ++ l) rest)
  | [], before => by simp [firstClash?]
  | (x, owner) :: l, before => by
      rw [List.cons_append, firstClash?, firstClash?]
      cases Dict.get? before x with
      | some first => rfl
      | none => simp [firstClash?_append (l := l)]

section

variable {before l : List (Identifier × String)}

theorem nodup_snoc {x : Identifier} {owner : String} (h : (before.map Prod.fst).Nodup)
    (hx : Dict.get? before x = none) : ((before ++ [(x, owner)]).map Prod.fst).Nodup := by
  rw [List.map_append, List.map_singleton, ← List.concat_eq_append]
  exact h.concat (Dict.get?_eq_none_iff.mp hx)

/-- The scan ends well if nothing is mentioned twice. -/
theorem firstClash?_eq_none (h : (before.map Prod.fst).Nodup) :
    firstClash? before l = none ↔ ((before ++ l).map Prod.fst).Nodup := by
  induction l generalizing before with
  | nil => simp [firstClash?, h]
  | cons e l ih =>
      obtain ⟨x, owner⟩ := e
      rw [firstClash?, List.append_cons before _ l]
      cases hx : Dict.get? before x with
      | some first =>
          have hmem : x ∈ before.map Prod.fst :=
            List.mem_map.mpr ⟨_, Dict.mem_of_get? hx, rfl⟩
          refine iff_of_false (by simp) fun hnodup => ?_
          rw [List.append_assoc, List.map_append, List.nodup_append] at hnodup
          exact hnodup.2.2 x hmem x (by simp) rfl
      | none => exact ih (nodup_snoc h hx)

/-- The scan stops at the first mention of an identifier that was mentioned before. -/
theorem firstClash?_eq_some {c : Clash} (h : (before.map Prod.fst).Nodup) :
    firstClash? before l = some c ↔ ∃ mid x first current after,
      l = mid ++ (x, current) :: after ∧ ((before ++ mid).map Prod.fst).Nodup
        ∧ (x, first) ∈ before ++ mid ∧ c = x.clash first current := by
  constructor
  · intro hc
    induction l generalizing before with
    | nil => cases hc
    | cons e l ih =>
        obtain ⟨x, owner⟩ := e
        rw [firstClash?] at hc
        cases hx : Dict.get? before x with
        | some first =>
            rw [hx] at hc
            refine ⟨[], x, first, owner, l, rfl, ?_, ?_, (Option.some.inj hc).symm⟩
            · rwa [List.append_nil]
            · rw [List.append_nil]
              exact Dict.mem_of_get? hx
        | none =>
            rw [hx] at hc
            obtain ⟨mid, y, first, current, after, rfl, hnodup, hmem, rfl⟩ :=
              ih (nodup_snoc h hx) hc
            rw [← List.append_cons] at hnodup hmem
            exact ⟨(x, owner) :: mid, y, first, current, after, rfl, hnodup, hmem, rfl⟩
  · rintro ⟨mid, x, first, current, after, rfl, hnodup, hmem, rfl⟩
    have hfound : Dict.get? (before ++ mid) x = some first :=
      (Dict.get?_eq_some_iff hnodup).mpr hmem
    rw [firstClash?_append, (firstClash?_eq_none h).mpr hnodup, Option.none_or, firstClash?, hfound]

end

/-! ## The check is that scan -/

/-- The tables hold what was mentioned. -/
structure Seen.Tracks (seen : Seen) (before : Dict Identifier String) : Prop where
  capability : ∀ id, exporterName? seen.capabilities id = before.get? (.capability id)
  point : ∀ name, List.lookup name seen.points = before.get? (.extensionPoint name)

/-- What comes of taking mentions into the tables: a clash, or tables that hold them too. -/
inductive Scanned (before l : List (Identifier × String)) : Except SetFault Seen → Prop where
  | stopped {c : Clash} : firstClash? before l = some c → Scanned before l (.error (.clash c))
  | through {seen : Seen} : firstClash? before l = none → seen.Tracks (before ++ l) →
      Scanned before l (.ok seen)

section

variable {seen : Seen} {before l : List (Identifier × String)}

theorem Seen.Tracks.add_capability (h : seen.Tracks before) (id owner : String) :
    Seen.Tracks { seen with capabilities := seen.capabilities ++ [(.str id, owner)] }
      (before ++ [(.capability id, owner)]) where
  capability id' := by
    rw [exporterName?_append, h.capability, Dict.get?_append, Dict.get?_cons]
    simp [Json.sameScalar]
  point name := by
    rw [h.point, Dict.get?_append, Dict.get?_cons]
    simp

theorem Seen.Tracks.add_point (h : seen.Tracks before) (name owner : String) :
    Seen.Tracks { seen with points := seen.points ++ [(name, owner)] }
      (before ++ [(.extensionPoint name, owner)]) where
  capability id := by
    rw [h.capability, Dict.get?_append, Dict.get?_cons]
    simp
  point name' := by
    rw [List.lookup_append, h.point, Dict.get?_append, Dict.get?_cons, List.lookup_cons]
    cases hname : name' == name with
    | true => simp_all
    | false => simp_all

theorem Scanned.cons {x : Identifier} {owner : String} {r : Except SetFault Seen}
    (hx : Dict.get? before x = none) (h : Scanned (before ++ [(x, owner)]) l r) :
    Scanned before ((x, owner) :: l) r := by
  have hstep : firstClash? before ((x, owner) :: l) = firstClash? (before ++ [(x, owner)]) l := by
    rw [firstClash?, hx]
  cases h with
  | stopped hfirst => exact .stopped (hstep.trans hfirst)
  | through hfirst htracks =>
      rw [← List.append_cons] at htracks
      exact .through (hstep.trans hfirst) htracks

theorem addCapability_scanned (h : seen.Tracks before)
    (htext : ∀ v, m.exported = some v → ∃ id, v = .str id) :
    Scanned before (capabilityMention m) (seen.addCapability m) := by
  unfold Seen.addCapability capabilityMention exportedText?
  cases hm : m.exported with
  | none => exact .through rfl (by simpa using h)
  | some v =>
      obtain ⟨id, rfl⟩ := htext v hm
      have hfound : seen.exporter? (.str id) = Dict.get? before (.capability id) := h.capability id
      simp only [Json.isScalar, hfound]
      cases hx : Dict.get? before (.capability id) with
      | some first => exact .stopped (by simp [firstClash?, hx, Identifier.clash])
      | none => exact .cons hx (.through rfl (by simpa using h.add_capability id m.name))

theorem addPoints_scanned (owner : String) : ∀ {points : List ExtensionPoint} {seen : Seen}
    {before : List (Identifier × String)}, seen.Tracks before →
      Scanned before (pointMentions owner points) (seen.addPoints owner points)
  | [], seen, before, h => .through rfl (by simpa [pointMentions] using h)
  | p :: points, seen, before, h => by
      rw [Seen.addPoints, h.point p.name, pointMentions, List.map_cons]
      cases hx : Dict.get? before (.extensionPoint p.name) with
      | some first => exact .stopped (by simp [firstClash?, hx, Identifier.clash])
      | none => exact .cons hx (addPoints_scanned owner (h.add_point p.name owner))

end

/-- Checking modules is a scan of what they mention. -/
theorem checkFrom_eq : ∀ {modules : List Module} {seen : Seen}
    {before : List (Identifier × String)}, seen.Tracks before →
      (∀ m ∈ modules, ∀ v, m.exported = some v → ∃ id, v = .str id) →
      checkFrom seen modules = match firstClash? before (mentions modules) with
        | some c => .error (.clash c)
        | none => .ok ()
  | [], seen, before, h, _ => rfl
  | m :: modules, seen, before, h, htexts => by
      obtain ⟨hm, hmodules⟩ := List.forall_mem_cons.mp htexts
      rw [checkFrom, mentions, List.flatMap_cons, List.append_assoc, firstClash?_append,
        firstClash?_append, ← mentions]
      have hcapability := addCapability_scanned h hm
      generalize seen.addCapability m = found at hcapability ⊢
      cases hcapability with
      | stopped hfirst =>
          rw [hfirst]
          rfl
      | through hfirst htracks =>
          rw [hfirst, Option.none_or]
          have hpoints : Scanned _ _ (Seen.addPoints m.name _ m.extensionPoints) :=
            addPoints_scanned m.name htracks
          dsimp only
          generalize Seen.addPoints m.name _ m.extensionPoints = found at hpoints ⊢
          cases hpoints with
          | stopped hsecond =>
              rw [hsecond]
              rfl
          | through hsecond htracks =>
              rw [hsecond, Option.none_or]
              exact checkFrom_eq htracks hmodules

/-! ## The first clash -/

/-- **A set is refused for its first clash.** Where the capabilities of a set are texts, the set
passes exactly if no capability and no name of an extension point is used twice, in one module or
in two. Otherwise the failure is about the first identifier, in order, that was used before: the
modules in order, the capability of each before its extension points. It names the identifier,
the module that used it first and the module at hand. -/
theorem checkSet_firstClash
    (htexts : ∀ m ∈ modules, ∀ v, m.exported = some v → ∃ id, v = .str id) :
    (checkSet modules = .ok () ↔ (modules.filterMap exportedText?).Nodup
        ∧ (modules.flatMap fun m => m.extensionPoints.map (·.name)).Nodup)
    ∧ ∀ f, checkSet modules = .error f ↔ ∃ before x first current after,
        mentions modules = before ++ (x, current) :: after ∧ (before.map Prod.fst).Nodup
          ∧ (x, first) ∈ before ∧ f = .clash (x.clash first current) := by
  have hnil : (([] : List (Identifier × String)).map Prod.fst).Nodup := List.nodup_nil
  have htracks : Seen.Tracks ⟨[], []⟩ [] := ⟨fun _ => rfl, fun _ => rfl⟩
  have hscan : checkSet modules = match firstClash? [] (mentions modules) with
      | some c => .error (.clash c)
      | none => .ok () := checkFrom_eq htracks htexts
  have hok : checkSet modules = .ok () ↔ firstClash? [] (mentions modules) = none := by
    rw [hscan]
    cases firstClash? [] (mentions modules) <;> simp
  have herror : ∀ f, checkSet modules = .error f
      ↔ ∃ c, firstClash? [] (mentions modules) = some c ∧ f = .clash c := fun f => by
    rw [hscan]
    cases firstClash? [] (mentions modules) <;> simp [eq_comm]
  constructor
  · rw [hok, firstClash?_eq_none hnil]
    exact nodup_mentions
  · intro f
    simp only [herror, firstClash?_eq_some hnil]
    constructor
    · rintro ⟨c, ⟨before, x, first, current, after, hsplit, hnodup, hmem, rfl⟩, rfl⟩
      exact ⟨before, x, first, current, after, hsplit, hnodup, hmem, rfl⟩
    · rintro ⟨before, x, first, current, after, hsplit, hnodup, hmem, rfl⟩
      exact ⟨_, ⟨before, x, first, current, after, hsplit, hnodup, hmem, rfl⟩, rfl⟩

/-! ### Two sets -/

def bandModule (name : String) (points : List String) (hname : name ≠ "" := by decide) :
    Module :=
  { (default : Module) with
    name
    exported := some (.str name)
    extensionPoints := points.map fun point => { (default : ExtensionPoint) with name := point }
    exported_present := decide_eq_true hname }

/-- The last module repeats a name of its own, but only after one of another module. -/
theorem checkSet_firstClash_band :
    checkSet [bandModule "Drums" ["Hit", "Roll"], bandModule "Bells" ["Ring"]] = .ok ()
      ∧ checkSet [bandModule "Drums" ["Hit", "Roll"], bandModule "Bells" ["Ring"],
          bandModule "Echo" ["Tail", "Hit", "Tail"]]
        = .error (.clash (.extensionPoint "Hit" "Drums" "Echo")) := by
  have htext : ∀ {name points} (hname : name ≠ ""),
      ∀ v, (bandModule name points hname).exported = some v → ∃ id, v = .str id :=
    fun _ _ hv => ⟨_, (Option.some.inj hv).symm⟩
  constructor
  · refine (checkSet_firstClash ?_).1.mpr (by decide)
    simp only [List.forall_mem_cons]
    exact ⟨htext _, htext _, List.forall_mem_nil _⟩
  · refine ((checkSet_firstClash ?_).2 _).mpr ?_
    · simp only [List.forall_mem_cons]
      exact ⟨htext _, htext _, htext _, List.forall_mem_nil _⟩
    exact ⟨[(.capability "Drums", "Drums"), (.extensionPoint "Hit", "Drums"),
      (.extensionPoint "Roll", "Drums"), (.capability "Bells", "Bells"),
      (.extensionPoint "Ring", "Bells"), (.capability "Echo", "Echo"),
      (.extensionPoint "Tail", "Echo")], .extensionPoint "Hit", "Drums", "Echo",
      [(.extensionPoint "Tail", "Echo")], rfl, by decide, by decide, rfl⟩

end PatchForge.Capability
