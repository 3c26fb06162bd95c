import PatchForge.Command.Run
import PatchForge.Proofs.Work.Files

/-!
# Layers of a build plan

A setting of a plan is what the user asks for, else what the project file
writes, else a default (`Layered`). The default of the toolchain folder is
the one that the user has stored, so there the layers are four.

A layer that leaves a setting out lets the next one decide. What counts as
left out differs, however: a setting that is asked for as nothing is not
given, while a key of the project file that stands there with nothing
after it is given, as a null. Its text is `None` and as a switch it is
off. So the layers hold for what the file writes, null included, and they
hold for what the file fills in exactly if it leaves no setting empty that
nobody overrides and that null would change (`FillsIn`,
`ofFile_layers`).
-/

namespace PatchForge

open Work

namespace BuildPlan

/-! ## Settings by layers -/

/-- A setting is what is asked for, else what the value that is written reads as, else the
default. -/
inductive Layered {α : Type} (reads : Yaml.Value → α → Prop) (default : α) :
    Option α → Option Yaml.Value → α → Prop
  | asked (a : α) (written : Option Yaml.Value) : Layered reads default (some a) written a
  | fromFile {v : Yaml.Value} {a : α} (h : reads v a) : Layered reads default none (some v) a
  | unset : Layered reads default none none default

/-- The value is read as its text. -/
def Spells {α : Type} (d : Yaml.Document) (ofText : String → α) (v : Yaml.Value) (a : α) : Prop :=
  ∃ s, d.asText v = .ok s ∧ a = ofText s

/-- The value is read as a switch. -/
def Switches (d : Yaml.Document) (v : Yaml.Value) (b : Bool) : Prop := b = d.present v

/-- The settings of a plan by layers: those asked for, those written under keys, and the
defaults. -/
structure Layers (d : Yaml.Document) (written : String → Option Yaml.Value) (stored : Json)
    (o : Overrides) (p : BuildPlan) : Prop where
  region : Layered (Spells d some) none (o.region.map some) (written "region") p.region
  toolchainFolder : Layered (Spells d Json.str) stored (o.toolchainFolder.map .str)
    (written "syati_dir") p.toolchainFolder
  modulesFolder : Layered (Spells d some) none (o.modulesFolder.map some) (written "modules_dir")
    p.modulesFolder
  outputFolder : Layered (Spells d some) none (o.outputFolder.map some) (written "output_dir")
    p.outputFolder
  unit : Layered (Switches d) false o.unit (written "unibuild") p.unit
  copyDisc : Layered (Switches d) false o.copyDisc (written "copy_disc") p.copyDisc
  link : Layered (Switches d) true o.link (written "link") p.link

/-- The keys whose values are texts. -/
def textKeys : List String := ["region", "syati_dir", "modules_dir", "output_dir"]

section

variable {d : Yaml.Document} {settings : Dict Yaml.Scalar Yaml.Value} {part : Yaml.Value}
  {key : String} {o own : Overrides} {p : BuildPlan} {stored : Json}

/-- What is written under a key, null included. -/
def written (settings : Dict Yaml.Scalar Yaml.Value) (key : String) : Option Yaml.Value :=
  settings.get? (.text key)

/-- What is written under a key, unless it is null. -/
def given (settings : Dict Yaml.Scalar Yaml.Value) (key : String) : Option Yaml.Value :=
  match written settings key with
  | some (.scalar .null) => none
  | v => v

/-- No setting is left empty that null would change, where nobody overrides it. The two switches
that are off by default are off with null as well. -/
structure FillsIn (settings : Dict Yaml.Scalar Yaml.Value) (o : Overrides) : Prop where
  region : o.region = none → written settings "region" ≠ some (.scalar .null)
  toolchainFolder : o.toolchainFolder = none →
    written settings "syati_dir" ≠ some (.scalar .null)
  modulesFolder : o.modulesFolder = none → written settings "modules_dir" ≠ some (.scalar .null)
  outputFolder : o.outputFolder = none → written settings "output_dir" ≠ some (.scalar .null)
  link : o.link = none → written settings "link" ≠ some (.scalar .null)

/-! ### Null -/

theorem spells_null {α : Type} {ofText : String → α} {a : α} :
    Spells d ofText (.scalar .null) a ↔ a = ofText "None" := by
  constructor
  · rintro ⟨s, hs, rfl⟩
    rw [← Except.ok.inj hs]
  · rintro rfl
    exact ⟨"None", rfl, rfl⟩

theorem given_of_ne_null (h : written settings key ≠ some (.scalar .null)) :
    given settings key = written settings key := by
  unfold given
  split
  · rename_i hnull
    exact (h hnull).elim
  · rfl

theorem given_of_null (h : written settings key = some (.scalar .null)) :
    given settings key = none := by
  rw [given, h]

section

variable {α : Type} {reads : Yaml.Value → α → Prop} {default a : α} {asked : Option α}

theorem Layered.given_of_filled (h : Layered reads default asked (written settings key) a)
    (hfilled : asked = none → written settings key ≠ some (.scalar .null)) :
    Layered reads default asked (given settings key) a := by
  cases asked with
  | some b =>
      cases h
      exact .asked _ _
  | none => rwa [given_of_ne_null (hfilled rfl)]

/-- A null that nobody overrides shows, unless it reads as the default. -/
theorem Layered.filled (h : Layered reads default asked (written settings key) a)
    (hnull : ¬ reads (.scalar .null) default)
    (hgiven : Layered reads default asked (given settings key) a) :
    asked = none → written settings key ≠ some (.scalar .null) := by
  rintro rfl hempty
  rw [hempty] at h
  rw [given_of_null hempty] at hgiven
  cases hgiven
  cases h with
  | fromFile hreads => exact hnull hreads

/-- Where null reads as the default and as nothing else, it makes no difference. -/
theorem Layered.given_of_default (hnull : ∀ {b}, reads (.scalar .null) b → b = default)
    (h : Layered reads default asked (written settings key) a) :
    Layered reads default asked (given settings key) a := by
  by_cases hempty : written settings key = some (.scalar .null)
  · rw [hempty] at h
    rw [given_of_null hempty]
    cases h with
    | asked => exact .asked _ _
    | fromFile hreads =>
        obtain rfl := hnull hreads
        exact .unset
  · rwa [given_of_ne_null hempty]

end

/-! ### The rule for settings that are filled in -/

theorem Layers.given_of_filled (h : Layers d (written settings) stored o p)
    (hfilled : FillsIn settings o) : Layers d (given settings) stored o p := by
  have hoff : ∀ {b}, Switches d (.scalar .null) b → b = false := id
  refine ⟨h.region.given_of_filled ?_, h.toolchainFolder.given_of_filled ?_,
    h.modulesFolder.given_of_filled ?_, h.outputFolder.given_of_filled ?_,
    h.unit.given_of_default hoff, h.copyDisc.given_of_default hoff,
    h.link.given_of_filled hfilled.link⟩
  · simpa using hfilled.region
  · simpa using hfilled.toolchainFolder
  · simpa using hfilled.modulesFolder
  · simpa using hfilled.outputFolder

theorem Layers.given_iff (h : Layers d (written settings) .null o p) :
    Layers d (given settings) .null o p ↔ FillsIn settings o := by
  refine ⟨fun hgiven => ?_, h.given_of_filled⟩
  have htext : ¬ Spells d some (.scalar .null) none := by
    rw [spells_null]
    exact nofun
  have hjson : ¬ Spells d Json.str (.scalar .null) .null := by
    rw [spells_null]
    exact nofun
  have hon : ¬ Switches d (.scalar .null) true := nofun
  refine ⟨?_, ?_, ?_, ?_, h.link.filled hon hgiven.link⟩
  · simpa using h.region.filled htext hgiven.region
  · simpa using h.toolchainFolder.filled hjson hgiven.toolchainFolder
  · simpa using h.modulesFolder.filled htext hgiven.modulesFolder
  · simpa using h.outputFolder.filled htext hgiven.outputFolder

/-! ## Reading the section -/

/-- The settings that a section gives, one by one. -/
structure Reads (d : Yaml.Document) (settings : Dict Yaml.Scalar Yaml.Value) (own : Overrides) :
    Prop where
  region : Option.Rel (fun v s => d.asText v = .ok s) (written settings "region") own.region
  toolchainFolder : Option.Rel (fun v s => d.asText v = .ok s) (written settings "syati_dir")
    own.toolchainFolder
  modulesFolder : Option.Rel (fun v s => d.asText v = .ok s) (written settings "modules_dir")
    own.modulesFolder
  outputFolder : Option.Rel (fun v s => d.asText v = .ok s) (written settings "output_dir")
    own.outputFolder
  unit : own.unit = (written settings "unibuild").map d.present
  copyDisc : own.copyDisc = (written settings "copy_disc").map d.present
  link : own.link = (written settings "link").map d.present

theorem setting?_of_entries (h : d.entries? part = some settings) (key : String) :
    setting? d part key = .ok (written settings key) := by
  unfold Yaml.Document.entries? at h
  split at h
  · cases h
  · split at h
    · rename_i ref entries hfind
      obtain rfl := Option.some.inj h
      unfold setting?
      simp only [hfind]
      rfl
    · cases h

theorem textSetting?_ok (h : d.entries? part = some settings) {r : Option String} :
    textSetting? d part key = .ok r ↔
      Option.Rel (fun v s => d.asText v = .ok s) (written settings key) r := by
  unfold textSetting?
  rw [setting?_of_entries h, Result.bind_ok]
  simp only [Result.mapError_ok, Except.ok.injEq, exists_eq_left']
  cases written settings key with
  | none =>
      constructor
      · rintro ⟨⟩
        exact .none
      · rintro ⟨⟩
        rfl
  | some v =>
      simp only [Result.bind_ok, Result.mapError_ok]
      constructor
      · rintro ⟨s, hs, ⟨⟩⟩
        exact .some hs
      · rintro ⟨hs⟩
        exact ⟨_, hs, rfl⟩

theorem switchSetting?_ok (h : d.entries? part = some settings) {r : Option Bool} :
    switchSetting? d part key = .ok r ↔ r = (written settings key).map d.present := by
  rw [switchSetting?, setting?_of_entries h, Result.mapError_ok, Result.map_ok]
  simp only [Except.ok.injEq, exists_eq_left']
  exact eq_comm

theorem overridesOf_ok (h : d.entries? part = some settings) :
    overridesOf d part = .ok own ↔ Reads d settings own := by
  unfold overridesOf
  simp only [Result.bind_ok, textSetting?_ok h, switchSetting?_ok h]
  constructor
  · rintro ⟨region, hregion, toolchain, htoolchain, modules, hmodules, output, houtput, unit, hunit,
      copyDisc, hcopyDisc, link, hlink, hown⟩
    cases hown
    exact ⟨hregion, htoolchain, hmodules, houtput, hunit, hcopyDisc, hlink⟩
  · intro hreads
    exact ⟨_, hreads.region, _, hreads.toolchainFolder, _, hreads.modulesFolder, _,
      hreads.outputFolder, _, hreads.unit, _, hreads.copyDisc, _, hreads.link, rfl⟩

/-- A section gives its settings unless one that is a text cannot be spelled out. -/
theorem exists_reads : (∃ own, Reads d settings own) ↔
    ∀ key ∈ textKeys, ∀ v, written settings key = some v → ∃ s, d.asText v = .ok s := by
  have hone : ∀ key, (∃ r, Option.Rel (fun v s => d.asText v = .ok s) (written settings key) r) ↔
      ∀ v, written settings key = some v → ∃ s, d.asText v = .ok s := by
    intro key
    cases written settings key with
    | none => exact ⟨fun _ => nofun, fun _ => ⟨none, .none⟩⟩
    | some v =>
        constructor
        · rintro ⟨_, ⟨hs⟩⟩ _ ⟨⟩
          exact ⟨_, hs⟩
        · intro h
          obtain ⟨s, hs⟩ := h v rfl
          exact ⟨some s, .some hs⟩
  simp only [textKeys, List.forall_mem_cons, List.not_mem_nil, false_implies, implies_true,
    and_true, ← hone]
  constructor
  · rintro ⟨own, h⟩
    exact ⟨⟨_, h.region⟩, ⟨_, h.toolchainFolder⟩, ⟨_, h.modulesFolder⟩, ⟨_, h.outputFolder⟩⟩
  · rintro ⟨⟨region, hregion⟩, ⟨toolchain, htoolchain⟩, ⟨modules, hmodules⟩, ⟨output, houtput⟩⟩
    exact ⟨⟨region, toolchain, modules, output, _, _, _⟩, hregion, htoolchain, hmodules, houtput,
      rfl, rfl, rfl⟩

theorem layered_of_rel {α : Type} {ofText : String → α} {default a : α} {asked r : Option String}
    {v : Option Yaml.Value} (h : Option.Rel (fun v s => d.asText v = .ok s) v r)
    (ha : a = (asked.map ofText).getD ((r.map ofText).getD default)) :
    Layered (Spells d ofText) default (asked.map ofText) v a := by
  subst ha
  cases asked with
  | some s => exact .asked _ _
  | none =>
      cases h with
      | none => exact .unset
      | some hs => exact .fromFile ⟨_, hs, rfl⟩

theorem layered_switch {default : Bool} {asked r : Option Bool} {v : Option Yaml.Value}
    (h : r = v.map d.present) :
    Layered (Switches d) default asked v (asked.getD (r.getD default)) := by
  subst h
  cases asked with
  | some b => exact .asked _ _
  | none =>
      cases v with
      | none => exact .unset
      | some v => exact .fromFile rfl

/-- Overriding the defaults by what a section gives, and that by what is asked for, layers them. -/
theorem Reads.layers (h : Reads d settings own) (o : Overrides) :
    Layers d (written settings) .null o ((({} : BuildPlan).override own).override o) := by
  have hor : ∀ {asked r : Option String},
      asked.or (r.or none) = (asked.map some).getD ((r.map some).getD none) := by
    intro asked r
    cases asked <;> cases r <;> rfl
  exact ⟨layered_of_rel h.region hor, layered_of_rel h.toolchainFolder rfl,
    layered_of_rel h.modulesFolder hor, layered_of_rel h.outputFolder hor,
    layered_switch h.unit, layered_switch h.copyDisc, layered_switch h.link⟩

end

/-! ## Plans of project files -/

/-- The settings of a project file for builds, if it has a section of them that is a mapping. -/
def settings? (d : Yaml.Document) : Option (Dict Yaml.Scalar Yaml.Value) :=
  (d.entries? d.root).bind fun entries => (entries.get? (.text sectionName)).bind d.entries?

/-- The file at the path is a project file with the settings. -/
structure HoldsSettings (path : Path) (w : Workshop) (d : Yaml.Document)
    (settings : Dict Yaml.Scalar Yaml.Value) : Prop where
  read : (readYaml path).run w = (.ok d, w)
  settings : settings? d = some settings

section

variable {path : Path} {w w' : Workshop} {d : Yaml.Document}
  {settings : Dict Yaml.Scalar Yaml.Value} {own : Overrides} {p : BuildPlan}

theorem present_of_entries {v : Yaml.Value} {entries : Dict Yaml.Scalar Yaml.Value}
    (h : d.entries? v = some entries) : d.present v = !entries.isEmpty := by
  unfold Yaml.Document.entries? at h
  split at h
  · cases h
  · split at h
    · rename_i ref entries' hfind
      obtain rfl := Option.some.inj h
      rw [Yaml.Document.present, hfind]
      rfl
    · cases h

theorem fileOverrides_ok (h : HoldsSettings path w d settings) :
    fileOverrides path d = .ok own ↔ Reads d settings own := by
  obtain ⟨entries, hroot, hrest⟩ := Option.bind_eq_some_iff.mp h.settings
  obtain ⟨part, hsection, hsettings⟩ := Option.bind_eq_some_iff.mp hrest
  have hthere : d.present d.root = true := by
    rw [present_of_entries hroot]
    cases entries with
    | nil => cases hsection
    | cons e entries => rfl
  unfold fileOverrides
  simp only [hthere, Bool.not_true, Bool.false_eq_true, if_false, hroot, hsection]
  rw [present_of_entries hsettings, ← overridesOf_ok hsettings]
  cases settings with
  | nil =>
      -- An empty section is passed over, and read it would give nothing either.
      have hnone : overridesOf d part = .ok {} :=
        (overridesOf_ok hsettings).mpr ⟨.none, .none, .none, .none, rfl, rfl, rfl⟩
      rw [hnone]
      rfl
  | cons e settings => rfl

theorem exists_run (h : (readYaml path).run w = (.ok d, w')) :
    (exists? path).run w = (.ok true, w) := by
  obtain ⟨bytes, w₁, hbytes, -⟩ := bind_ok.mp h
  obtain ⟨hnull, -, place, hfollow, hget⟩ := readBytes_ok.mp hbytes
  rw [exists?_of_follow hnull hfollow, hget]
  rfl

theorem ofFile_ok (h : HoldsSettings path w d settings) {o : Overrides} :
    (ofFile path o).run w = (.ok p, w') ↔
      w' = w ∧ ∃ own, Reads d settings own ∧ p = (({} : BuildPlan).override own).override o := by
  unfold ofFile
  rw [run_bind, exists_run h.read]
  simp only [if_true]
  rw [run_bind, h.read]
  simp only [bind_ok, ofExcept_ok, fileOverrides_ok h]
  constructor
  · rintro ⟨own, w₁, ⟨hown, rfl⟩, hpure⟩
    cases hpure
    exact ⟨rfl, own, hown, rfl⟩
  · rintro ⟨rfl, own, hown, rfl⟩
    exact ⟨own, _, ⟨hown, rfl⟩, rfl⟩

/-! ### The stored toolchain folder -/

theorem Layered.of_default {α : Type} {reads : Yaml.Value → α → Prop} {default default' a : α}
    {asked : Option α} {v : Option Yaml.Value} (hgiven : asked ≠ none ∨ v ≠ none)
    (h : Layered reads default asked v a) : Layered reads default' asked v a := by
  cases h with
  | asked => exact .asked _ _
  | fromFile hreads => exact .fromFile hreads
  | unset => simp at hgiven

/-- Where a toolchain folder is asked for or written, it is a text. -/
theorem Layers.toolchainFolder_text {o : Overrides} (h : Layers d (written settings) .null o p)
    (hgiven : o.toolchainFolder ≠ none ∨ written settings "syati_dir" ≠ none) :
    ∃ s, p.toolchainFolder = .str s := by
  have htool := h.toolchainFolder
  generalize o.toolchainFolder = asked at hgiven htool
  generalize written settings "syati_dir" = v at hgiven htool
  generalize p.toolchainFolder = t at htool
  cases asked with
  | some s =>
      cases htool
      exact ⟨s, rfl⟩
  | none =>
      cases htool with
      | fromFile hreads =>
          obtain ⟨s, -, rfl⟩ := hreads
          exact ⟨s, rfl⟩
      | unset => simp at hgiven

theorem Layers.stays {o : Overrides} (h : Layers d (written settings) .null o p)
    (hgiven : o.toolchainFolder ≠ none ∨ written settings "syati_dir" ≠ none) :
    (Command.withStoredToolchain p).run w = (.ok p, w) := by
  obtain ⟨s, hs⟩ := h.toolchainFolder_text hgiven
  unfold Command.withStoredToolchain
  simp only [hs, Json.isNull]
  rfl

theorem Layers.falls_back {o : Overrides} {fallBack : Json} {w₁ : Workshop}
    (h : Layers d (written settings) .null o p) (ho : o.toolchainFolder = none)
    (hnone : written settings "syati_dir" = none)
    (hload : UserConfig.toolchainFolder.run w = (.ok fallBack, w₁)) :
    (Command.withStoredToolchain p).run w = (.ok { p with toolchainFolder := fallBack }, w₁) := by
  have hp : p.toolchainFolder = .null := by
    have htool := h.toolchainFolder
    rw [ho, hnone] at htool
    generalize p.toolchainFolder = t at htool
    cases htool
    rfl
  unfold Command.withStoredToolchain
  simp only [hp, Json.isNull, if_true]
  rw [run_bind, hload]
  rfl

/-- The stored toolchain folder is the lowest layer of that setting. -/
theorem Layers.withStored {o : Overrides} {fallBack : Json} {w₁ : Workshop}
    (h : Layers d (written settings) .null o p)
    (hload : UserConfig.toolchainFolder.run w = (.ok fallBack, w₁)) :
    ∃ q w₂, (Command.withStoredToolchain p).run w = (.ok q, w₂)
      ∧ Layers d (written settings) fallBack o q := by
  by_cases hgiven : o.toolchainFolder ≠ none ∨ written settings "syati_dir" ≠ none
  · refine ⟨p, w, h.stays hgiven, { h with toolchainFolder := ?_ }⟩
    exact h.toolchainFolder.of_default (by simpa using hgiven)
  · simp only [not_or, ne_eq, not_not] at hgiven
    obtain ⟨ho, hnone⟩ := hgiven
    refine ⟨_, w₁, h.falls_back ho hnone hload, { h with toolchainFolder := ?_ }⟩
    rw [ho, hnone]
    exact .unset

/-- **The layers of a plan.** A project file that holds a section of settings gives a plan exactly
if the texts of that section can be spelled out. The plan takes each setting from what is asked
for, else from what is written, null included, else from the default; so it takes them from what
is filled in, with empty keys as if they were not there, exactly if the file fills in those that
nobody overrides. To build, the stored toolchain folder comes after these layers: it is looked up
only if nobody asks for a folder and the key is not there, even empty. -/
theorem ofFile_layers (h : HoldsSettings path w d settings) (o : Overrides) :
    ((∃ p w', (ofFile path o).run w = (.ok p, w')) ↔
      ∀ key ∈ textKeys, ∀ v, written settings key = some v → ∃ s, d.asText v = .ok s)
    ∧ ∀ p w', (ofFile path o).run w = (.ok p, w') →
      w' = w ∧ Layers d (written settings) .null o p
      ∧ (Layers d (given settings) .null o p ↔ FillsIn settings o)
      ∧ (o.toolchainFolder ≠ none ∨ written settings "syati_dir" ≠ none →
          (Command.withStoredToolchain p).run w = (.ok p, w))
      ∧ ∀ stored w₁, UserConfig.toolchainFolder.run w = (.ok stored, w₁) →
          ∃ q w₂, (Command.withStoredToolchain p).run w = (.ok q, w₂)
            ∧ Layers d (written settings) stored o q
            ∧ (FillsIn settings o → Layers d (given settings) stored o q) := by
  constructor
  · rw [← exists_reads]
    constructor
    · rintro ⟨p, w', hrun⟩
      obtain ⟨-, own, hown, -⟩ := (ofFile_ok h).mp hrun
      exact ⟨own, hown⟩
    · rintro ⟨own, hown⟩
      exact ⟨_, w, (ofFile_ok h).mpr ⟨rfl, own, hown, rfl⟩⟩
  · intro p w' hrun
    obtain ⟨rfl, own, hown, rfl⟩ := (ofFile_ok h).mp hrun
    have hlayers := hown.layers o
    refine ⟨rfl, hlayers, hlayers.given_iff, hlayers.stays, fun stored w₁ hload => ?_⟩
    obtain ⟨q, w₂, hq, hstored⟩ := hlayers.withStored hload
    exact ⟨q, w₂, hq, hstored, hstored.given_of_filled⟩

end

/-! ### Two project files -/

theorem exists_holdsSettings {path : Path} {w : Workshop} {settings : Dict Yaml.Scalar Yaml.Value}
    (h : ((readYaml path).run w).1.toOption.bind settings? = some settings) :
    ∃ d, HoldsSettings path w d settings := by
  obtain ⟨d, hd, hsettings⟩ := Option.bind_eq_some_iff.mp h
  have hrun := run_of_result hd
  refine ⟨d, ?_, hsettings⟩
  obtain ⟨bytes, w₁, hbytes, hdocument⟩ := bind_ok.mp hrun
  obtain ⟨-, rfl, -⟩ := readBytes_ok.mp hbytes
  split at hdocument
  · rw [hrun, ← (Prod.mk.inj hdocument).2]
  · cases hdocument
  · cases hdocument
  · cases hdocument

def projectFile : Path := ⟨.here, [fileName]⟩

/-- A folder with a project file, and a stored toolchain folder. -/
def projectShop (text : String) : Workshop :=
  { (default : Workshop) with
    disk := ⟨[([fileName], .file text.toUTF8), ([".modbuild"], .folder),
      ([".modbuild", "config.json"], .file "\x7b\"syati_dir\": \"Syati\"\x7d".toUTF8)]⟩ }

def projectText : String :=
  "build:\n  region:\n  modules_dir: 2024\n  unibuild: yes\n  copy_disc:\n"

def projectSettings : Dict Yaml.Scalar Yaml.Value :=
  [(.text "region", .scalar .null), (.text "modules_dir", .scalar (.int 2024)),
    (.text "unibuild", .scalar (.bool true)), (.text "copy_disc", .scalar .null)]

def projectOverrides : Overrides := { region := some "KOR", link := some false }

/-- The empty region is overridden, and the toolchain folder is the stored one. -/
theorem ofFile_layers_project : ∃ d p stored q w₂,
    HoldsSettings projectFile (projectShop projectText) d projectSettings
      ∧ (ofFile projectFile projectOverrides).run (projectShop projectText)
        = (.ok p, projectShop projectText)
      ∧ Layers d (given projectSettings) .null projectOverrides p
      ∧ (Command.withStoredToolchain p).run (projectShop projectText) = (.ok q, w₂)
      ∧ stored.text = "Syati" ∧ Layers d (given projectSettings) stored projectOverrides q := by
  have hfilled : FillsIn projectSettings projectOverrides := by
    refine ⟨?_, ?_, ?_, ?_, ?_⟩ <;> decide
  obtain ⟨d, hholds⟩ : ∃ d, HoldsSettings projectFile (projectShop projectText) d projectSettings :=
    exists_holdsSettings (by decide +kernel)
  have hload : (UserConfig.toolchainFolder.run (projectShop projectText)).1.toOption.map Json.text
      = some "Syati" := by decide +kernel
  obtain ⟨stored, hstored, htext⟩ := Option.map_eq_some_iff.mp hload
  have htexts : ∀ key ∈ textKeys, ∀ v, written projectSettings key = some v →
      ∃ s, d.asText v = .ok s := by
    rw [← exists_reads]
    exact ⟨⟨some "None", none, some "2024", none, some true, some false, none⟩,
      .some rfl, .none, .some rfl, .none, rfl, rfl, rfl⟩
  obtain ⟨hexists, hall⟩ := ofFile_layers hholds projectOverrides
  obtain ⟨p, w', hrun⟩ := hexists.mpr htexts
  obtain ⟨rfl, -, hiff, -, hlowest⟩ := hall p w' hrun
  obtain ⟨q, w₂, hq, -, hlayers⟩ := hlowest _ _ (run_of_result hstored)
  exact ⟨d, p, stored, q, w₂, hholds, hrun, hiff.mpr hfilled, hq, htext, hlayers hfilled⟩

/-- A key with nothing after it keeps the stored toolchain folder out and turns linking off. -/
theorem ofFile_empty_keys : ∃ d settings p,
    HoldsSettings projectFile (projectShop "build:\n  syati_dir:\n  link:\n") d settings
      ∧ (ofFile projectFile {}).run (projectShop "build:\n  syati_dir:\n  link:\n")
        = (.ok p, projectShop "build:\n  syati_dir:\n  link:\n")
      ∧ ¬ Layers d (given settings) .null {} p ∧ p.link = false
      ∧ (Command.withStoredToolchain p).run (projectShop "build:\n  syati_dir:\n  link:\n")
        = (.ok p, projectShop "build:\n  syati_dir:\n  link:\n")
      ∧ p.toolchainFolder = .str "None" := by
  obtain ⟨d, hholds⟩ : ∃ d, HoldsSettings projectFile
      (projectShop "build:\n  syati_dir:\n  link:\n") d
      [(.text "syati_dir", .scalar .null), (.text "link", .scalar .null)] :=
    exists_holdsSettings (by decide +kernel)
  have hreads : Reads d [(.text "syati_dir", .scalar .null), (.text "link", .scalar .null)]
      { toolchainFolder := some "None", link := some false } :=
    ⟨.none, .some rfl, .none, .none, rfl, rfl, rfl⟩
  have hlayers := hreads.layers {}
  refine ⟨d, _, _, hholds, (ofFile_ok hholds).mpr ⟨rfl, _, hreads, rfl⟩, fun hgiven => ?_, rfl,
    hlayers.stays (by decide), rfl⟩
  exact (hlayers.given_iff.mp hgiven).link rfl rfl

end BuildPlan

end PatchForge
