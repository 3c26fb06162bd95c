import PatchForge.Proofs.Discovery.Candidates
import PatchForge.Proofs.Work.Alike

/-!
# The account of discovery

Each candidate of a modules folder has one fate: its module is loaded, or
it names a folder that is loaded already, or its name is ignored, or it
draws a warning. What befalls a candidate depends on the folders loaded
before it (`Befalls`), so the fates of a list are an account that goes
from left to right and carries these folders along (`Account`). One visit
adds one fate (`visit_ok`), a link file those of its lines
(`visitLinks_ok`), and an account goes on with another one
(`Account.append`).

From the account alone it follows which folders are loaded, in which
order, and that none is loaded twice (`Account.folders_eq`,
`Account.nodup`). What discovery says does not matter, so the account of
a quiet run is that of any run (`discover_accounts`).
-/

namespace PatchForge

open Work

/-- What became of a candidate. -/
inductive Fate where
  | loaded (m : Module)
  | repeated
  | ignored (name : String)
  | warned (text : String)

namespace Fate

def module? : Fate → Option Module
  | .loaded m => some m
  | _ => none

def ignored? : Fate → Option String
  | .ignored name => some name
  | _ => none

def warned? : Fate → Option String
  | .warned text => some text
  | _ => none

/-- The folder that was loaded, if one was. -/
def folders (fate : Fate) : List Path := fate.module?.toList.map (·.folder)

end Fate

/-- What befalls a candidate when the folders `seen` have been loaded. -/
inductive Befalls (w : Workshop) (ignored : List String) (seen : List Path) :
    Candidate → Fate → Prop where
  | repeated {p : Path} (hseen : p ∈ seen) : Befalls w ignored seen (.folder p) .repeated
  | ignored {p : Path} (hnew : p ∉ seen) (hname : p.name ∈ ignored) :
      Befalls w ignored seen (.folder p) (.ignored p.name)
  | missing {p : Path} (hnew : p ∉ seen) (hname : p.name ∉ ignored)
      (hmissing : w.hasFolder p = false) :
      Befalls w ignored seen (.folder p) (.warned ("Failed to load module: \"" ++ p.text ++ "\""))
  | loaded {p : Path} {m : Module} (hnew : p ∉ seen) (hname : p.name ∉ ignored)
      (hthere : w.hasFolder p = true) (hload : (loadModule p).run w = (.ok m, w))
      (hfolder : m.folder = p) : Befalls w ignored seen (.folder p) (.loaded m)
  | unreadable {file : Path} {why : String} :
      Befalls w ignored seen (.unreadable file why)
        (.warned ("Could not read link file " ++ file.name ++ ": " ++ why))

/-- What befalls one candidate after the other, each fate adding to the folders loaded. -/
inductive Account (w : Workshop) (ignored : List String) :
    List Path → List Candidate → List Fate → Prop where
  | done {seen : List Path} : Account w ignored seen [] []
  | next {seen : List Path} {c : Candidate} {cs : List Candidate} {fate : Fate}
      {fates : List Fate} (hhead : Befalls w ignored seen c fate)
      (htail : Account w ignored (seen ++ fate.folders) cs fates) :
      Account w ignored seen (c :: cs) (fate :: fates)

/-- The folder to load at a candidate, if there is one, whatever was loaded before. -/
def Workshop.loadable? (w : Workshop) (ignored : List String) : Candidate → Option Path
  | .folder p => if w.hasFolder p ∧ p.name ∉ ignored then some p else none
  | .unreadable .. => none

theorem Workshop.loadable?_some {w : Workshop} {ignored : List String} {c : Candidate}
    {q : Path} : w.loadable? ignored c = some q ↔
      c = .folder q ∧ w.hasFolder q = true ∧ q.name ∉ ignored := by
  cases c with
  | folder p =>
      rw [loadable?, Option.ite_none_right_eq_some, Candidate.folder.injEq, Option.some.injEq]
      constructor
      · rintro ⟨h, rfl⟩
        exact ⟨rfl, h⟩
      · rintro ⟨rfl, h⟩
        exact ⟨h, rfl⟩
  | unreadable => simp [loadable?]

/-! ## What an account says about the folders -/

namespace Account

variable {w : Workshop} {ignored : List String} {seen : List Path} {cs cs' : List Candidate}
  {fates fates' : List Fate}

theorem append (h : Account w ignored seen cs fates)
    (h' : Account w ignored (seen ++ fates.flatMap Fate.folders) cs' fates') :
    Account w ignored seen (cs ++ cs') (fates ++ fates') := by
  induction h with
  | done => simpa using h'
  | next hhead htail ih =>
      refine .next hhead (ih ?_)
      rwa [List.append_assoc, ← List.flatMap_cons]

/-- Each candidate has one fate. -/
theorem length_eq (h : Account w ignored seen cs fates) : fates.length = cs.length := by
  induction h with
  | done => rfl
  | next hhead htail ih => rw [List.length_cons, List.length_cons, ih]

/-- A folder is loaded again neither here nor where it was loaded before. -/
theorem nodup (h : Account w ignored seen cs fates) :
    (fates.flatMap Fate.folders).Nodup ∧ ∀ q ∈ fates.flatMap Fate.folders, q ∉ seen := by
  induction h with
  | done => exact ⟨List.nodup_nil, by simp⟩
  | @next seen c cs fate fates hhead htail ih =>
      obtain ⟨hnodup, hnew⟩ := ih
      have hlater : ∀ q ∈ fates.flatMap Fate.folders, q ∉ seen ∧ q ∉ fate.folders :=
        fun q hq => not_or.mp (mt List.mem_append.mpr (hnew q hq))
      rw [List.flatMap_cons]
      cases hhead with
      | @loaded p m hfresh _ _ _ hfolder =>
          have hone : (Fate.loaded m).folders = [p] := by rw [← hfolder]; rfl
          rw [hone] at hlater ⊢
          refine ⟨List.nodup_cons.mpr ⟨fun hp => (hlater p hp).2 (by simp), hnodup⟩, ?_⟩
          exact List.forall_mem_cons.mpr ⟨hfresh, fun q hq => (hlater q hq).1⟩
      | repeated | ignored | missing | unreadable =>
          exact ⟨hnodup, fun q hq => (hlater q hq).1⟩

/-- The folders loaded are those to load that were not there before, each where it first
comes. -/
theorem folders_eq (h : Account w ignored seen cs fates) :
    fates.flatMap Fate.folders
      = ((cs.filterMap (w.loadable? ignored)).filter fun q => decide (q ∉ seen)).eraseDups := by
  induction h with
  | done => rfl
  | @next seen c cs fate fates hhead htail ih =>
      rw [List.flatMap_cons, ih]
      -- A candidate that is not loaded now is none to load, or was loaded before.
      have hpassed : fate.folders = [] →
          (∀ q, w.loadable? ignored c = some q → q ∈ seen) →
            fate.folders ++ ((cs.filterMap (w.loadable? ignored)).filter
              fun q => decide (q ∉ seen ++ fate.folders)).eraseDups
            = (((c :: cs).filterMap (w.loadable? ignored)).filter
              fun q => decide (q ∉ seen)).eraseDups := by
        intro hnone hseen
        rw [hnone, List.nil_append, List.append_nil, List.filterMap_cons]
        cases hc : w.loadable? ignored c with
        | none => rfl
        | some q => simp [hseen q hc]
      cases hhead with
      | repeated hseen =>
          refine hpassed rfl fun q hq => ?_
          obtain ⟨heq, -⟩ := Workshop.loadable?_some.mp hq
          cases heq
          exact hseen
      | ignored _ hname =>
          refine hpassed rfl fun q hq => ?_
          obtain ⟨heq, -, hkept⟩ := Workshop.loadable?_some.mp hq
          cases heq
          exact absurd hname hkept
      | missing _ _ hmissing =>
          refine hpassed rfl fun q hq => ?_
          obtain ⟨heq, hthere, -⟩ := Workshop.loadable?_some.mp hq
          cases heq
          rw [hmissing] at hthere
          cases hthere
      | unreadable =>
          refine hpassed rfl fun q hq => ?_
          cases (Workshop.loadable?_some.mp hq).1
      | @loaded p m hnew hname hthere _ hfolder =>
          have hone : (Fate.loaded m).folders = [p] := by rw [← hfolder]; rfl
          have hsome : w.loadable? ignored (.folder p) = some p :=
            Workshop.loadable?_some.mpr ⟨rfl, hthere, hname⟩
          rw [hone, List.filterMap_cons_some hsome, List.filter_cons_of_pos (by simpa using hnew),
            List.eraseDups_cons, List.filter_filter]
          refine congrArg (fun l => p :: List.eraseDups l) (List.filter_congr fun q _ => ?_)
          simp [beq_eq_decide, and_comm]

/-- The modules were loaded from their folders. -/
theorem loads (h : Account w ignored seen cs fates) :
    ∀ m ∈ fates.filterMap Fate.module?, (loadModule m.folder).run w = (.ok m, w) := by
  induction h with
  | done => simp
  | next hhead htail ih =>
      intro m hm
      cases hhead with
      | @loaded p m₁ _ _ _ hload hfolder =>
          rcases List.mem_cons.mp hm with rfl | hm
          · rw [hfolder]
            exact hload
          · exact ih m hm
      | repeated | ignored | missing | unreadable => exact ih m hm

end Account

theorem flatMap_folders (fates : List Fate) :
    fates.flatMap Fate.folders = (fates.filterMap Fate.module?).map (·.folder) := by
  induction fates with
  | nil => rfl
  | cons fate fates ih =>
      rw [List.flatMap_cons, ih]
      cases fate <;> rfl

/-! ## The account of a run -/

namespace Discovery

/-- What a fate adds. -/
def note (d : Discovery) : Fate → Discovery
  | .loaded m => { d with modules := d.modules ++ [m] }
  | .repeated => d
  | .ignored name => { d with ignored := d.ignored ++ [name] }
  | .warned text => { d with warnings := d.warnings ++ [text] }

theorem foldl_note (fates : List Fate) : ∀ d : Discovery, fates.foldl note d
    = ⟨d.modules ++ fates.filterMap Fate.module?, d.ignored ++ fates.filterMap Fate.ignored?,
      d.warnings ++ fates.filterMap Fate.warned?⟩ := by
  induction fates with
  | nil => simp
  | cons fate fates ih =>
      intro d
      rw [List.foldl_cons, ih]
      cases fate <;> simp [note, List.filterMap_cons, Fate.module?, Fate.ignored?, Fate.warned?]

/-- The folders of the modules loaded. -/
def folders (d : Discovery) : List Path := d.modules.map (·.folder)

theorem folders_foldl_note (d : Discovery) (fates : List Fate) :
    (fates.foldl note d).folders = d.folders ++ fates.flatMap Fate.folders := by
  rw [folders, foldl_note, flatMap_folders, List.map_append]
  rfl

/-- The work goes through these candidates and notes their fates, and nothing else. -/
def Notes (w : Workshop) (ignored : List String) (d : Discovery) (x : Work Discovery)
    (cs : List Candidate) : Prop :=
  ∀ d' w', x.run w = (.ok d', w') → w' = w
    ∧ ∃ fates, Account w ignored d.folders cs fates ∧ d' = fates.foldl note d

variable {w : Workshop} {ignored : List String}

/-- Work on one item after the other goes through the candidates of one after the other. -/
theorem notes_foldlM {α : Type} {g : Discovery → α → Work Discovery} {f : α → List Candidate}
    (h : ∀ d a, Notes w ignored d (g d a) (f a)) :
    ∀ (l : List α) (d : Discovery), Notes w ignored d (l.foldlM g d) (l.flatMap f)
  | [], d => by
      intro d' w' hrun
      cases hrun
      exact ⟨rfl, [], .done, rfl⟩
  | a :: l, d => by
      intro d' w' hrun
      rw [List.foldlM_cons] at hrun
      obtain ⟨d₁, w₁, ha, hl⟩ := bind_ok.mp hrun
      obtain ⟨hsame, fates, haccount, rfl⟩ := h d a d₁ w₁ ha
      rw [hsame] at hl
      obtain ⟨hw, fates', haccount', rfl⟩ := notes_foldlM h l _ d' w' hl
      rw [folders_foldl_note] at haccount'
      refine ⟨hw, fates ++ fates', ?_, by rw [List.foldl_append]⟩
      rw [List.flatMap_cons]
      exact haccount.append haccount'

theorem hasLoaded_iff {d : Discovery} {p : Path} : d.hasLoaded p = true ↔ p ∈ d.folders := by
  simp [hasLoaded, folders]

theorem loadModule_ok_folder {p : Path} {m : Module} {w' : Workshop}
    (h : (loadModule p).run w = (.ok m, w')) : m.folder = w.resolved p := by
  obtain ⟨q, w₁, hq, h⟩ := bind_ok.mp h
  obtain ⟨rfl, rfl⟩ := resolve_ok hq
  obtain ⟨there, w₂, -, h⟩ := bind_ok.mp h
  cases there with
  | false => cases h
  | true =>
      obtain ⟨_, _, -, h⟩ := bind_ok.mp h
      obtain ⟨_, _, -, h⟩ := bind_ok.mp h
      exact folder_declaredModule h

theorem visit_ok (d : Discovery) (p : Path) :
    Notes w ignored d (visit ignored false d p) [.folder (w.resolved p)] := by
  have hone : ∀ {fate : Fate}, Befalls w ignored d.folders (.folder (w.resolved p)) fate →
      ∃ fates, Account w ignored d.folders [.folder (w.resolved p)] fates
        ∧ d.note fate = fates.foldl note d :=
    fun {fate} h => ⟨[fate], .next h .done, rfl⟩
  intro d' w' h
  obtain ⟨q, w₁, hq, h⟩ := bind_ok.mp h
  obtain ⟨rfl, rfl⟩ := resolve_ok hq
  split at h
  · rename_i hseen
    cases h
    exact ⟨rfl, hone (.repeated (hasLoaded_iff.mp hseen))⟩
  · rename_i hnew
    have hnew : w₁.resolved p ∉ d.folders := mt hasLoaded_iff.mpr hnew
    split at h
    · rename_i hname
      cases h
      exact ⟨rfl, hone (.ignored hnew (List.contains_iff_mem.mp hname))⟩
    · rename_i hname
      have hname : (w₁.resolved p).name ∉ ignored := mt List.contains_iff_mem.mpr hname
      obtain ⟨there, w₂, hthere, h⟩ := bind_ok.mp h
      obtain ⟨rfl, rfl⟩ := isFolder_ok hthere
      split at h
      · rename_i hmissing
        cases h
        exact ⟨rfl, hone (.missing hnew hname (by simpa using hmissing))⟩
      · rename_i hthere
        obtain ⟨_, _, hquiet, h⟩ := bind_ok.mp h
        cases hquiet
        obtain ⟨m, w₃, hload, hd⟩ := bind_ok.mp h
        obtain rfl := unchanged_of_keeping (keeping_loadModule _) hload
        cases hd
        have hfolder := (loadModule_ok_folder hload).trans (Path.resolve_resolve _ _ p)
        exact ⟨rfl, hone (.loaded hnew hname (by simpa using hthere) hload hfolder)⟩

theorem visitLinks_ok (folder : Path) (d : Discovery) (file : Path) :
    Notes w ignored d (visitLinks folder ignored false d file) (w.linked folder file) := by
  intro d' w' h
  obtain ⟨targets, w₁, htargets, h⟩ := bind_ok.mp h
  rcases readable_ok htargets with ⟨paths, hpaths, rfl⟩ | ⟨f, hf, rfl⟩
  · rw [linkTargets_run] at hpaths
    obtain ⟨hmap, rfl⟩ := Prod.mk.inj hpaths
    obtain ⟨text, htext, rfl⟩ := Result.map_ok.mp hmap
    have hlinked : w.linked folder file = ((entriesOf text).map (linkTarget folder)).flatMap
        fun p => [.folder (w.resolved p)] := by
      rw [Workshop.linked, htext, List.flatMap_map, ← List.map_eq_flatMap]
    rw [hlinked]
    exact notes_foldlM visit_ok _ d d' w' h
  · rw [linkTargets_run] at hf
    obtain ⟨hmap, rfl⟩ := Prod.mk.inj hf
    have hreading : w.reading file = .error f := Result.map_error.mp hmap
    cases h
    rw [Workshop.linked, hreading]
    exact ⟨rfl, [.warned _], .next .unreadable .done, rfl⟩

end Discovery

/-- A quiet run goes through the candidates of the modules folder. -/
theorem discover_ok {folder : Path} {d : Discovery} {w w' : Workshop}
    (h : (discover folder false).run w = (.ok d, w')) :
    w' = w ∧ ∃ fates, Account w (w.ignoredNames (w.resolved folder)) []
      (w.candidates (w.resolved folder)) fates ∧ d = fates.foldl Discovery.note {} := by
  obtain ⟨top, w₁, htop, h⟩ := bind_ok.mp h
  obtain ⟨rfl, rfl⟩ := resolve_ok htop
  obtain ⟨ignored, w₂, hignored, h⟩ := bind_ok.mp h
  obtain ⟨rfl, rfl⟩ := Discovery.ignoredNames_ok hignored
  obtain ⟨children, w₃, hchildren, h⟩ := bind_ok.mp h
  obtain ⟨rfl, rfl⟩ := children_ok hchildren
  obtain ⟨folders, w₄, hfolders, h⟩ := bind_ok.mp h
  obtain ⟨rfl, rfl⟩ := Discovery.keep_ok (fun p b w' => isFolder_ok) hfolders
  obtain ⟨d₁, w₅, hfirst, h⟩ := bind_ok.mp h
  obtain ⟨rfl, fates, haccount, rfl⟩ :=
    Discovery.notes_foldlM Discovery.visit_ok _ _ d₁ w₅ hfirst
  obtain ⟨files, w₆, hfiles, h⟩ := bind_ok.mp h
  obtain ⟨rfl, rfl⟩ := Discovery.linkFiles_ok hfiles
  obtain ⟨rfl, fates', haccount', rfl⟩ :=
    Discovery.notes_foldlM (Discovery.visitLinks_ok _) _ _ d w' h
  rw [Discovery.folders_foldl_note] at haccount'
  refine ⟨rfl, fates ++ fates', ?_, by rw [List.foldl_append]⟩
  have hcandidates := haccount.append haccount'
  rwa [← List.map_eq_flatMap] at hcandidates

theorem discover_loaded {folder : Path} {verbose : Bool} {d : Discovery} {w w' : Workshop}
    (h : (discover folder verbose).run w = (.ok d, w')) : ∀ m ∈ d.modules, m.Loaded := by
  intro m hm
  obtain ⟨w₁, hquiet, -⟩ := (alike_discover folder verbose false).ok h rfl
  obtain ⟨-, fates, haccount, rfl⟩ := discover_ok hquiet
  rw [Discovery.foldl_note] at hm
  exact ⟨m.folder, w, w, haccount.loads m hm⟩

/-- **Discovery.** What discovery loads are the folders that lie in the modules folder or are
named by a line of a readable link file, are there, and do not have an ignored name: each of
them once, in the order in which it first comes up, the folders of the modules folder and the
link files being sorted. Every candidate has its one fate, and the names ignored and the
warnings are those of the fates. -/
theorem discover_accounts {folder : Path} {verbose : Bool} {d : Discovery} {w w' : Workshop}
    (h : (discover folder verbose).run w = (.ok d, w')) :
    (d.modules.map (·.folder)).Nodup
      ∧ (∀ q, q ∈ d.modules.map (·.folder) ↔
          ((∃ p ∈ w.subfolders (w.resolved folder), q = w.resolved p)
            ∨ ∃ file ∈ w.linkFiles (w.resolved folder), ∃ text, w.reading file = .ok text
              ∧ ∃ entry ∈ Discovery.entriesOf text,
                q = w.resolved (Discovery.linkTarget (w.resolved folder) entry))
          ∧ w.hasFolder q = true ∧ q.name ∉ w.ignoredNames (w.resolved folder))
      ∧ d.modules.map (·.folder)
          = ((w.candidates (w.resolved folder)).filterMap
              (w.loadable? (w.ignoredNames (w.resolved folder)))).eraseDups
      ∧ (w.subfolders (w.resolved folder)).Pairwise (fun p q => p.le q = true)
      ∧ (w.linkFiles (w.resolved folder)).Pairwise (fun p q => p.le q = true)
      ∧ ∃ fates, Account w (w.ignoredNames (w.resolved folder)) []
            (w.candidates (w.resolved folder)) fates
          ∧ d.modules = fates.filterMap Fate.module?
          ∧ d.ignored = fates.filterMap Fate.ignored?
          ∧ d.warnings = fates.filterMap Fate.warned? := by
  obtain ⟨w₁, hquiet, -⟩ := (alike_discover folder verbose false).ok h rfl
  obtain ⟨-, fates, haccount, rfl⟩ := discover_ok hquiet
  rw [Discovery.foldl_note]
  have horder := haccount.folders_eq
  have hnodup := haccount.nodup.1
  rw [List.filter_eq_self.mpr (by simp)] at horder
  rw [flatMap_folders] at horder hnodup
  refine ⟨hnodup, fun q => ?_, horder, w.sorted_subfolders _, w.sorted_linkFiles _,
    fates, haccount, rfl, rfl, rfl⟩
  show q ∈ (fates.filterMap Fate.module?).map (·.folder) ↔ _
  rw [horder, List.mem_eraseDups, List.mem_filterMap, ← Workshop.mem_candidates]
  constructor
  · rintro ⟨c, hc, hq⟩
    obtain ⟨rfl, hloadable⟩ := Workshop.loadable?_some.mp hq
    exact ⟨hc, hloadable⟩
  · rintro ⟨hc, hloadable⟩
    exact ⟨.folder q, hc, Workshop.loadable?_some.mpr ⟨rfl, hloadable⟩⟩

/-! ### A folder with a link file -/

/-- Two folders, one of them ignored, a link file that repeats a folder in two ways and names one
that is not there, and a link file that is no text. -/
def linkShop : Workshop :=
  { (default : Workshop) with
    disk := ⟨[(["Mods"], .folder), (["Mods", ".moduleignore"], .file "Old\n".toUTF8),
      (["Mods", "Echo"], .folder),
      (["Mods", "Echo", "ModuleInfo.json"], .file "\x7b\"Name\": \"Echo\"\x7d".toUTF8),
      (["Mods", "Old"], .folder),
      (["Mods", "links"], .file "./Echo\n../Other\n\n/Other\n../Gone\n".toUTF8),
      (["Mods", "raw"], .file ⟨#[0xff]⟩), (["Other"], .folder),
      (["Other", "ModuleInfo.json"], .file "\x7b\"Name\": \"Other\"\x7d".toUTF8)]⟩ }

def linkTop : Path := ⟨.top, ["Mods"]⟩

theorem linkShop_children : (children linkTop).run linkShop
    = (.ok ([".moduleignore", "Echo", "Old", "links", "raw"].map linkTop.child), linkShop) := by
  have hlist : (query linkTop Disk.list).run linkShop
      = (.ok [".moduleignore", "Echo", "Old", "links", "raw"], linkShop) :=
    query_ok.mpr ⟨by decide +kernel, by rfl, rfl⟩
  have hpaths : [".moduleignore", "Echo", "Old", "links", "raw"].map
      (fun name => (⟨linkTop.root, linkTop.names ++ [name]⟩ : Path))
        = [".moduleignore", "Echo", "Old", "links", "raw"].map linkTop.child := by
    decide +kernel
  -- The tree lists the names in order, so sorting them is the identity.
  have hsorted : Path.sort ([".moduleignore", "Echo", "Old", "links", "raw"].map linkTop.child)
      = [".moduleignore", "Echo", "Old", "links", "raw"].map linkTop.child :=
    List.mergeSort_of_pairwise (by decide +kernel)
  refine bind_ok.mpr ⟨_, _, hlist, ?_⟩
  rw [hpaths, hsorted]
  rfl

theorem linkShop_discover : ∃ d w', (discover (Path.parse "Mods") false).run linkShop = (.ok d, w')
    ∧ d.modules.map (·.folder) = [linkTop.child "Echo", ⟨.top, ["Other"]⟩]
    ∧ d.ignored = ["Old"] ∧ d.warnings.length = 2 := by
  have hfolders : (Discovery.keep isFolder
      ([".moduleignore", "Echo", "Old", "links", "raw"].map linkTop.child)).run linkShop
        = (.ok (["Echo", "Old"].map linkTop.child), linkShop) := by
    rfl
  have hfiles : (Discovery.linkFiles linkTop).run linkShop
      = (.ok (["links", "raw"].map linkTop.child), linkShop) :=
    bind_ok.mpr ⟨_, _, linkShop_children, by rfl⟩
  have hfound : ((((["Echo", "Old"].map linkTop.child).foldlM (Discovery.visit ["Old"] false) {}
      >>= fun d => (["links", "raw"].map linkTop.child).foldlM
        (Discovery.visitLinks linkTop ["Old"] false) d).run linkShop).1.toOption.map fun d =>
          (d.modules.map (·.folder), d.ignored, d.warnings.length))
        = some ([linkTop.child "Echo", ⟨.top, ["Other"]⟩], ["Old"], 2) := by
    decide +kernel
  obtain ⟨d, hd, hdata⟩ := Option.map_eq_some_iff.mp hfound
  obtain ⟨hmodules, hnames, hwarnings⟩ := by simpa only [Prod.mk.injEq] using hdata
  obtain ⟨d₁, w₁, hfirst, hrest⟩ := bind_ok.mp (run_of_result hd)
  have hsame : w₁ = linkShop := unchanged_of_keeping (meets_foldlM _ fun p _ d =>
    Discovery.keeping_visit (fun _ => meets_pure ()) ["Old"] d p) hfirst
  rw [hsame] at hrest hfirst
  have hrun : ∃ w', (discover (Path.parse "Mods") false).run linkShop = (.ok d, w') := by
    refine exists_bind_ok.mpr ⟨linkTop, linkShop, rfl, ?_⟩
    refine exists_bind_ok.mpr ⟨["Old"], linkShop, by rfl, ?_⟩
    refine exists_bind_ok.mpr ⟨_, _, linkShop_children, ?_⟩
    refine exists_bind_ok.mpr ⟨_, _, hfolders, exists_bind_ok.mpr ⟨d₁, _, hfirst, ?_⟩⟩
    exact exists_bind_ok.mpr ⟨_, _, hfiles, _, hrest⟩
  obtain ⟨w', hrun⟩ := hrun
  exact ⟨d, w', hrun, hmodules, hnames, hwarnings⟩

theorem discover_accounts_links :
    ∃ d w', (discover (Path.parse "Mods") false).run linkShop = (.ok d, w')
      ∧ (d.modules.map (·.folder)).Nodup
      ∧ (∃ m ∈ d.modules, m.folder = ⟨.top, ["Other"]⟩)
      ∧ ∃ fates, Account linkShop ["Old"] [] (linkShop.candidates linkTop) fates
        ∧ fates.filterMap Fate.ignored? = ["Old"]
        ∧ (fates.filterMap Fate.warned?).length = 2 := by
  obtain ⟨d, w', hrun, hmodules, hnames, hwarnings⟩ := linkShop_discover
  have hignored : linkShop.ignoredNames linkTop = ["Old"] := by decide +kernel
  obtain ⟨hnodup, -, -, -, -, fates, haccount, -, hnames', hwarnings'⟩ := discover_accounts hrun
  have hother : (⟨.top, ["Other"]⟩ : Path) ∈ d.modules.map (·.folder) := by
    rw [hmodules]
    simp
  refine ⟨d, w', hrun, hnodup, List.mem_map.mp hother, fates, hignored ▸ haccount, ?_, ?_⟩
  · exact hnames'.symm.trans hnames
  · rw [← hwarnings']
    exact hwarnings

end PatchForge
