import PatchForge.Proofs.Disk.Off
import PatchForge.Proofs.Json.Limits
import PatchForge.UserConfig

/-!
# Settings as a dictionary

The settings live in a file, and every update reads them from there,
merges and writes them back. So that updates add up to one merge, what is
written must be read back, which is `reading_storable`: the text of a
value holds no carriage return that reading would change, and the reader
of values takes it back.

One update, then, leaves the file where it was with the merged object in
it (`update_stored`), and from there the next one goes on
(`updates_stored`). Settings that are no object are met before the file is
opened for writing, so they stay (`update_refused`). The same happens to
an object that the reader does not take, for an integer that is too long or
for brackets that are too deep: it cannot be updated at all
(`update_beyond_limits`).
-/

namespace PatchForge

namespace Text

theorem unifyNewlines_of_not_mem {cs : List Char} (h : '\r' ∉ cs) : unifyNewlines cs = cs := by
  induction cs with
  | nil => rfl
  | cons c cs ih =>
      rw [List.mem_cons, not_or] at h
      rw [unifyNewlines, ih h.2]
      · exact fun _ hc => (h.1 hc.symm).elim
      · exact fun hc => (h.1 hc.symm).elim

end Text

/-- The path of what lies in a folder is no shorter than that of the folder. -/
theorem Path.size_text_snoc (root : Root) {names : List String} (hnames : names ≠ [])
    (name : String) : (⟨root, names⟩ : Path).text.utf8ByteSize
      ≤ (⟨root, names ++ [name]⟩ : Path).text.utf8ByteSize := by
  have hdot : ".".utf8ByteSize = 1 := by decide
  have hslash : "/".utf8ByteSize = 1 := by decide
  have hjoined : root.text ++ "/".intercalate (names ++ [name])
      = root.text ++ "/".intercalate names ++ "/" ++ name := by
    rw [String.intercalate_append_of_ne_nil hnames (List.cons_ne_nil _ _),
      String.intercalate_singleton]
    simp only [String.append_assoc]
  have hlong : 1 ≤ (root.text ++ "/".intercalate names ++ "/" ++ name).utf8ByteSize := by
    simp only [String.utf8ByteSize_append, hslash]
    omega
  have hsome : root.text ++ "/".intercalate names ++ "/" ++ name ≠ "" := by
    intro h
    rw [h] at hlong
    exact absurd hlong (by decide)
  unfold Path.text
  dsimp only
  rw [hjoined, if_neg hsome]
  split
  · rw [hdot]
    exact hlong
  · simp only [String.utf8ByteSize_append]
    omega

namespace UserConfig

open Work Disk

/-- What the bytes of the settings say. -/
def reading (bytes : ByteArray) : Except Failure Json :=
  match Text.decodeUtf8 bytes with
  | .error e => .error (.utf8 e)
  | .ok text => (Json.parse (String.ofList (Text.unifyNewlines text.toList))).mapError .json

/-- The file of the settings lies at the place and holds the bytes. -/
structure Stores (w : Workshop) (place : Place) (bytes : ByteArray) : Prop where
  usable : hasNull (file w.home) = false
  leads : w.disk.follow w.here (file w.home) = .ok place
  holds : w.disk.get? place = some (.file bytes)

variable {w w₀ w' : Workshop} {place : Place} {bytes : ByteArray} {v : Json}

theorem run_ofExcept {α ε : Type} (toFailure : ε → Failure) (r : Except ε α) (w : Workshop) :
    (Work.ofExcept toFailure r).run w = (r.mapError toFailure, w) := by
  cases r <;> rfl

/-! ## Looking for the settings -/

theorem isThere_run (p : Path) (w : Workshop) : (isThere p).run w
    = match (exists? p).run w with
      | (.ok b, w₁) => (.ok b, w₁)
      | (.error _, w₁) => (.ok false, w₁) := by
  unfold isThere
  rw [run_bind, run_tryCatch, run_bind]
  cases (exists? p).run w with
  | mk result w₁ => cases result <;> rfl

theorem isThere_of_follow {p : Path} {entry : Entry} (hn : hasNull p = false)
    (hf : w.disk.follow w.here p = .ok place) (hg : w.disk.get? place = some entry) :
    (isThere p).run w = (.ok true, w) := by
  rw [isThere_run, exists?_of_follow hn hf, hg]
  rfl

/-- Where the file is, its folder is. -/
theorem Stores.inFolder (h : Stores w place bytes) :
    hasNull (folder w.home) = false ∧ LeadsToFolder w.disk w.here (folder w.home) := by
  have hfile : file w.home = ⟨w.home.root, (folder w.home).names ++ ["config.json"]⟩ := rfl
  have hsome : (folder w.home).names ≠ [] :=
    List.append_ne_nil_of_right_ne_nil w.home.names (List.cons_ne_nil ".modbuild" [])
  have husable := h.usable
  have hleads := h.leads
  rw [hfile] at husable hleads
  constructor
  · rw [hasNull, List.any_eq_false] at husable ⊢
    exact fun n hn => husable n (List.mem_append_left _ hn)
  · unfold follow at hleads
    split at hleads
    · cases hleads
    · rename_i hshort
      have hfit : ¬ pathLimit ≤ (UserConfig.folder w.home).text.utf8ByteSize := fun hlong =>
        hshort (Nat.le_trans hlong (Path.size_text_snoc _ hsome _))
      rw [walk_append] at hleads
      obtain ⟨between, hfolder, hlast⟩ := Result.bind_ok.mp hleads
      refine ⟨between, ?_, ?_⟩
      · rw [follow, if_neg hfit]
        exact hfolder
      · rw [walk] at hlast
        cases hs : w.disk.step between "config.json" with
        | error e =>
            rw [hs] at hlast
            cases hlast
        | ok q => exact folder_of_step hs

/-- Where there are settings, nothing is made. -/
theorem Stores.ensure (h : Stores w place bytes) : (ensure w.home).run w = (.ok (), w) := by
  obtain ⟨hnull, between, hf, hg⟩ := h.inFolder
  have hfolder := isThere_of_follow hnull hf hg
  have hfile := isThere_of_follow h.usable h.leads h.holds
  unfold UserConfig.ensure
  simp only [run_bind, hfolder, hfile, Bool.not_true, Bool.false_eq_true, if_false, run_pure]

/-- The settings are what the bytes say. -/
theorem Stores.load (h : Stores w place bytes) : load.run w = (reading bytes, w) := by
  have hread : (readBytes (file w.home)).run w = (.ok bytes, w) :=
    readBytes_ok.mpr ⟨h.usable, rfl, place, h.leads, h.holds⟩
  unfold UserConfig.load reading
  simp only [run_bind, run_get, h.ensure, readText, readExact, hread, run_ofExcept]
  cases Text.decodeUtf8 bytes <;> rfl

/-! ## Making the settings -/

theorem keeping_home_change (p : Path) (operation : Disk → Place → Path → Except DiskError Disk) :
    Meets (.keeping Workshop.home) (change p operation) := by
  intro w
  show ((change p operation).run w).2.home = w.home
  cases hr : (change p operation).run w with
  | mk result w₁ =>
      cases result with
      | ok u =>
          obtain ⟨-, d, -, rfl⟩ := change_ok.mp hr
          rfl
      | error f => rw [change_error hr]

theorem keeping_home_isThere (p : Path) : Meets (.keeping Workshop.home) (isThere p) := by
  have hexists : Meets (.keeping Workshop.home) (exists? p) := meets_exists (fun _ _ _ => rfl) p
  intro w
  have hw := hexists w
  rw [isThere_run]
  cases hr : (exists? p).run w with
  | mk result w₁ =>
      rw [hr] at hw
      cases result <;> exact hw

/-- Making the settings moves no one's home. -/
theorem keeping_home_ensure (home : Path) : Meets (.keeping Workshop.home) (ensure home) := by
  have hfile : Meets (.keeping Workshop.home) (do
      let there ← isThere (file home)
      if !there then writeText (file home) (Json.render none (.obj []))) :=
    meets_bind (keeping_home_isThere _) fun _ => meets_ite (keeping_home_change _ _) (meets_pure _)
  have hfolders : Meets (.keeping Workshop.home) (makeFolders (folder home)) :=
    @moving_makeFoldersFrom _ _ (fun h h' => h'.trans h) _ _ fun q _ => keeping_home_change q _
  exact meets_bind (keeping_home_isThere _) fun _ => meets_when hfolders hfile

/-- Settings that are loaded are stored from then on. -/
theorem load_ok (h : load.run w = (.ok v, w₀)) :
    w₀.home = w.home ∧ ∃ place bytes, Stores w₀ place bytes ∧ reading bytes = .ok v := by
  obtain ⟨_, _, hget, h⟩ := bind_ok.mp h
  cases hget
  obtain ⟨_, w₁, hensure, h⟩ := bind_ok.mp h
  obtain ⟨text, w₂, hread, hparse⟩ := bind_ok.mp h
  obtain ⟨hvalue, rfl⟩ := ofExcept_ok.mp hparse
  obtain ⟨exact, _, hexact, hpure⟩ := bind_ok.mp hread
  cases hpure
  obtain ⟨hn, rfl, place, bytes, hf, hg, hdecode⟩ := readExact_ok.mp hexact
  have hhome : w₀.home = w.home := (keeping_home_ensure w.home).ok hensure
  refine ⟨hhome, place, bytes, ⟨?_, ?_, hg⟩, ?_⟩
  · rw [hhome]
    exact hn
  · rw [hhome]
    exact hf
  · rw [reading, hdecode]
    dsimp only
    rw [hvalue]
    rfl

/-! ## Updates -/

/-- What the text of a value says is what the reader of values makes of it. -/
theorem reading_render {indent : Option Nat} (h : Json.NoReturn v) :
    reading (Json.render indent v).toUTF8 = (Json.parse (Json.render indent v)).mapError .json := by
  have hlines : Text.unifyNewlines (Json.render indent v).toList
      = (Json.render indent v).toList := Text.unifyNewlines_of_not_mem (h indent 0)
  rw [reading, decodeUtf8_ok.mpr rfl]
  dsimp only
  rw [hlines, String.ofList_toList]

theorem reading_storable {indent : Option Nat} (h : Json.Storable Json.depthLimit v) :
    reading (Json.render indent v).toUTF8 = .ok v := by
  rw [reading_render h.noReturn, Json.parse_render h]
  rfl

/-- An update of an object writes the merged one where the old one was. -/
theorem update_stored {d u : Dict String Json} (h : Stores w place bytes)
    (hread : reading bytes = .ok (.obj d)) :
    ∃ w', (update u).run w = (.ok (), w')
      ∧ Stores w' place (Json.render (some 2) (.obj (d.merge u))).toUTF8 := by
  have hload := h.load
  rw [hread] at hload
  have hne : w.disk.get? place ≠ some .folder := by simp [h.holds]
  refine ⟨w.onDisk (w.disk.put place
    (.file (Json.render (some 2) (.obj (d.merge u))).toUTF8)), ?_, h.usable, ?_, ?_⟩
  · have hwrite : (writeText (file w.home) (Json.render (some 2) (.obj (d.merge u)))).run w
        = (.ok (), w.onDisk (w.disk.put place
          (.file (Json.render (some 2) (.obj (d.merge u))).toUTF8))) :=
      Work.write_ok.mpr ⟨h.usable, place, h.leads, hne, rfl⟩
    unfold update
    rw [run_bind, hload]
    dsimp only
    rw [run_bind, run_get]
    exact hwrite
  · exact follow_of_keepsFolders (keepsFolders_put _ hne) h.leads
  · exact (get?_put_place _ place _ hne).trans (if_pos rfl)

/-- Settings that are no object are not touched. -/
theorem update_refused (h : Stores w place bytes) (hread : ∀ d, reading bytes ≠ .ok (.obj d))
    (u : Dict String Json) : ∃ f, (update u).run w = (.error f, w) := by
  unfold update
  rw [run_bind, h.load]
  cases hr : reading bytes with
  | error f => exact ⟨f, rfl⟩
  | ok v =>
      cases v with
      | obj d => exact (hread d hr).elim
      | _ => exact ⟨_, rfl⟩

theorem storable_merge {n : Nat} {d u : Dict String Json} (hd : Json.Storable n (.obj d))
    (hu : Json.Storable n (.obj u)) : Json.Storable n (.obj (d.merge u)) := by
  cases hd with
  | obj hkeys hfields =>
      cases hu with
      | obj hkeys' hfields' =>
          refine .obj (Dict.nodup_keys_merge hkeys) fun e he => ?_
          exact (Dict.mem_merge hkeys he).elim (hfields e) (hfields' e)

/-- Updates are merges, one after the other. -/
theorem updates_stored : ∀ {us : List (Dict String Json)} {d : Dict String Json} {w : Workshop}
    {bytes : ByteArray}, Stores w place bytes → reading bytes = .ok (.obj d) →
    Json.Storable Json.depthLimit (.obj d) →
    (∀ u ∈ us, Json.Storable Json.depthLimit (.obj u)) →
    ∃ w', (us.forM update).run w = (.ok (), w')
      ∧ load.run w' = (.ok (.obj (us.foldl Dict.merge d)), w')
  | [], d, w, bytes, h, hread, hd, hus => by
      refine ⟨w, rfl, ?_⟩
      rw [h.load, hread]
      rfl
  | u :: us, d, w, bytes, h, hread, hd, hus => by
      obtain ⟨hu, hrest⟩ := List.forall_mem_cons.mp hus
      obtain ⟨w₁, hupdate, hstored⟩ := update_stored (u := u) h hread
      have hmerged := storable_merge hd hu
      obtain ⟨w', hupdates, hload⟩ :=
        updates_stored hstored (reading_storable hmerged) hmerged hrest
      refine ⟨w', ?_, hload⟩
      show (do update u; us.forM update : Work PUnit).run w = _
      rw [run_bind, hupdate]
      exact hupdates

/-- **Settings are a dictionary.** Let the settings that are loaded be an object `d`, and let `d`
and the updates be such that the reader takes them: no doubles, distinct names, integers and open
brackets within its limits. Then all the updates go well, and what is loaded afterwards is `d`
merged with them from left to right: each name stands where it first came, under its last value.
Where the file holds anything but an object, an update fails and leaves everything as it is, the
bytes of the file among the rest. -/
theorem update_merges (w : Workshop) :
    (∀ (d : Dict String Json) (us : List (Dict String Json)) (w₀ : Workshop),
      load.run w = (.ok (.obj d), w₀) → Json.Storable Json.depthLimit (.obj d) →
      (∀ u ∈ us, Json.Storable Json.depthLimit (.obj u)) →
      ∃ w' w'', (us.forM update).run w = (.ok (), w')
        ∧ load.run w' = (.ok (.obj (us.foldl Dict.merge d)), w'')
        ∧ Dict.Gathers (d ++ us.flatten) (us.foldl Dict.merge d))
    ∧ ∀ place bytes, Stores w place bytes → load.run w = (reading bytes, w)
      ∧ ((∀ d, reading bytes ≠ .ok (.obj d)) → ∀ u, ∃ f, (update u).run w = (.error f, w)) := by
  refine ⟨fun d us w₀ h hd hus => ?_, fun place bytes h => ⟨h.load, update_refused h⟩⟩
  have hgathers : Dict.Gathers (d ++ us.flatten) (us.foldl Dict.merge d) := by
    cases hd with
    | obj hkeys _ => exact (Dict.gathers_self hkeys).foldl_merge
  obtain ⟨-, place, bytes, hstores, hread⟩ := load_ok h
  cases us with
  | nil => exact ⟨w, w₀, rfl, h, hgathers⟩
  | cons u us =>
      obtain ⟨w', hupdates, hload⟩ := updates_stored hstores hread hd hus
      refine ⟨w', w', ?_, hload, hgathers⟩
      have hfirst : (update u).run w = (update u).run w₀ := by
        have hagain := hstores.load
        rw [hread] at hagain
        unfold update
        rw [run_bind, run_bind, h, hagain]
      rw [← hupdates]
      show (do update u; us.forM update : Work PUnit).run w
        = (do update u; us.forM update : Work PUnit).run w₀
      rw [run_bind, run_bind, hfirst]

/-! ### Settings with a note, and settings beyond the limits -/

/-- Settings with that text. -/
def settingsShop (text : String) : Workshop :=
  { (default : Workshop) with
    home := ⟨.top, ["home"]⟩
    disk := ⟨[(["home"], .folder), (["home", ".modbuild"], .folder),
      (["home", ".modbuild", "config.json"], .file text.toUTF8)]⟩ }

theorem stores_settingsShop (text : String) :
    Stores (settingsShop text) ["home", ".modbuild", "config.json"] text.toUTF8 where
  usable := by
    show hasNull (file ⟨.top, ["home"]⟩) = false
    decide +kernel
  leads := by rfl
  holds := by rfl

/-- Settings as someone may have written them, with a note in another script. -/
def noteSettings : Dict String Json :=
  [("syati_dir", .str "/opt/syati"), ("note", .str "日\t𝄞"),
    ("list", .arr [.int (-12), .bool true, .null])]

def noteUpdates : List (Dict String Json) :=
  [[("list", .arr []), ("more", .obj [("n", .int 0)])], [],
    [("more", .null), ("syati_dir", .str "a \"b\"\\c")]]

theorem update_merges_notes :
    (∃ w' w'', (noteUpdates.forM update).run
          (settingsShop (Json.render none (.obj noteSettings))) = (.ok (), w')
        ∧ load.run w' = (.ok (.obj [("syati_dir", .str "a \"b\"\\c"), ("note", .str "日\t𝄞"),
          ("list", .arr []), ("more", .null)]), w''))
      ∧ ∀ u, ∃ f, (update u).run (settingsShop (Json.render none (.arr [])))
        = (.error f, settingsShop (Json.render none (.arr []))) := by
  have hsettings : Json.Storable Json.depthLimit (.obj noteSettings) := by
    refine .obj (by decide) ?_
    simp only [noteSettings, List.forall_mem_cons]
    refine ⟨.str _, .str _, .arr ?_, nofun⟩
    simp only [List.forall_mem_cons]
    exact ⟨.int (by decide), .bool _, .null, nofun⟩
  have hupdates : ∀ u ∈ noteUpdates, Json.Storable Json.depthLimit (.obj u) := by
    simp only [noteUpdates, List.forall_mem_cons]
    refine ⟨.obj (by decide) ?_, .obj (by decide) nofun, .obj (by decide) ?_, nofun⟩
    · simp only [List.forall_mem_cons]
      refine ⟨.arr nofun, .obj (by decide) ?_, nofun⟩
      simp only [List.forall_mem_cons]
      exact ⟨.int (by decide), nofun⟩
    · simp only [List.forall_mem_cons]
      exact ⟨.null, .str _, nofun⟩
  constructor
  · have hstores := stores_settingsShop (Json.render none (.obj noteSettings))
    have hread : reading (Json.render none (.obj noteSettings)).toUTF8 = .ok (.obj noteSettings) :=
      reading_storable hsettings
    have hload := hread ▸ hstores.load
    obtain ⟨w', w'', hrun, hafter, -⟩ :=
      (update_merges (settingsShop (Json.render none (.obj noteSettings)))).1
        noteSettings noteUpdates _ hload hsettings hupdates
    exact ⟨w', w'', hrun, hafter⟩
  · have hstores := stores_settingsShop (Json.render none (.arr []))
    have hread : reading (Json.render none (.arr [])).toUTF8 = .ok (.arr []) :=
      reading_storable (.arr nofun)
    refine ((update_merges _).2 _ _ hstores).2 fun d hd => ?_
    rw [hread] at hd
    cases hd

/-- An integer with one digit more than the reader takes. -/
def longSettings : Json := .obj [("n", .int (10 ^ Json.integerDigitLimit))]

/-- More arrays in each other than the reader follows. -/
def deepSettings : Json := .obj [("n", Json.nested 1200)]

/-- Settings beyond the limits of the reader are an object all the same, but no update of them goes
well, not even one that takes the value away. -/
theorem update_beyond_limits :
    (∃ f, (update [("n", .int 1)]).run (settingsShop (Json.render none longSettings))
      = (.error f, settingsShop (Json.render none longSettings)))
    ∧ ∃ f, (update [("n", .int 1)]).run (settingsShop (Json.render none deepSettings))
      = (.error f, settingsShop (Json.render none deepSettings)) := by
  have hrefused : ∀ v, (∀ x, v ≠ .float x) → Json.NoReturn v → Json.Refused 1 v →
      ∃ f, (update [("n", .int 1)]).run (settingsShop (Json.render none (.obj [("n", v)])))
        = (.error f, settingsShop (Json.render none (.obj [("n", v)]))) := by
    intro v hfloat hreturn hv
    have hobj : Json.Refused 0 (.obj [("n", v)]) := Json.refused_obj hfloat hv
    have hno : ∀ x, Json.obj [("n", v)] ≠ .float x := nofun
    obtain ⟨f, hf⟩ := Json.exists_parse_error none hno hobj
    refine update_refused (stores_settingsShop _) (fun d hd => ?_) _
    rw [reading_render (Json.noReturn_obj (by simpa using hreturn)), hf] at hd
    cases hd
  constructor
  · exact hrefused _ nofun (Json.noReturn_int _)
      (Json.refused_int (Json.lt_length_digits_pow (by decide)))
  · exact hrefused _ (Json.nested_ne_float 1200) (Json.noReturn_nested 1200)
      (Json.refused_nested (by decide) (by decide))

end UserConfig

end PatchForge
