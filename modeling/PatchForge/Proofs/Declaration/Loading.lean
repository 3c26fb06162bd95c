import PatchForge.Proofs.Declaration.Data
import PatchForge.Proofs.Discovery.Candidates

/-!
# What loading can fail by

A folder that gives no module is a load failure that names its
declaration. Some contents of a declaration get past that: bytes that are
no text, JSON beyond the size that the reader takes, and a field that is
gone through item by item although it holds a number or a truth value.
These are all (`Escapes`). With any other content loading gives a module
or fails as a load (`loadModule_documented`).

The last kind is the only one that depends on the shape of the value. It
concerns two fields only, the list of extension points and the
placeholders of one (`Strays`): every other field is looked at before it
is used.
-/

namespace PatchForge

namespace Declaration

variable {v entry : Json} {f : Fault} {cause : Misuse} {point : String}
  {fields : Dict String Json} {folder : Path}

/-! ## Fields that are gone through -/

/-- The value says nothing or has items: it is neither a number nor a truth value. -/
def isListed : Json → Bool
  | .bool b => !b
  | .int n => n = 0
  | .float x => x.isZero
  | _ => true

theorem itemsOf_of_listed (h : isListed v = true) : ∃ items, itemsOf v = .ok items := by
  unfold itemsOf
  cases hpresent : v.present with
  | false => exact ⟨_, rfl⟩
  | true =>
      cases v with
      | null => cases hpresent
      | str s | arr items | obj fields => exact ⟨_, rfl⟩
      | bool b | int n | float x => simp_all [isListed, Json.present]

theorem itemsOf_of_unlisted (h : isListed v = false) :
    itemsOf v = .error (.misuse (.iterated v.kind)) := by
  have hpresent : v.present = true := by
    cases v with
    | null | str s | arr items | obj fields => cases h
    | bool b | int n | float x => simpa [isListed, Json.present] using h
  unfold itemsOf
  rw [hpresent]
  cases v with
  | null | str s | arr items | obj fields => cases h
  | bool b | int n | float x => rfl

theorem itemsOf_error :
    itemsOf v = .error f ↔ isListed v = false ∧ f = .misuse (.iterated v.kind) := by
  cases hlisted : isListed v with
  | true =>
      obtain ⟨items, hitems⟩ := itemsOf_of_listed hlisted
      simp [hitems]
  | false =>
      rw [itemsOf_of_unlisted hlisted]
      simp [eq_comm]

/-- Only the items of a list can be objects: those of a text are letters, those of an object its
names. -/
theorem eq_arr_of_itemsOf {items : List Json} (h : itemsOf v = .ok items)
    (hentry : .obj fields ∈ items) : v = .arr items := by
  unfold itemsOf at h
  split at h
  · cases h
    cases hentry
  · split at h
    · cases h
      rfl
    · cases h
      simp at hentry
    · cases h
      simp at hentry
    · cases h

/-! ## Refusals -/

theorem textsOf?_error (h : textsOf? v = .error f) : ∃ cause, f = .invalid cause := by
  cases v with
  | null | arr items => cases h
  | _ =>
      cases h
      exact ⟨_, rfl⟩

theorem textsOf_error (h : textsOf v = .error f) : ∃ cause, f = .invalid cause :=
  textsOf?_error (Result.map_error.mp h)

theorem placeholderOf_error (h : placeholderOf point entry = .error f) :
    ∃ cause, f = .invalid cause := by
  unfold placeholderOf at h
  split at h
  · split at h
    · cases h
    · cases h
      exact ⟨_, rfl⟩
  · cases h
    exact ⟨_, rfl⟩

/-! ## One extension point -/

/-- The entry is that of an extension point, but its placeholders are a number or a truth
value. -/
structure StrayEntry (entry : Dict String Json) (cause : Misuse) : Prop where
  named : (Json.fieldOrNull entry "Name").present = true
  unlisted : isListed (Json.fieldOrNull entry "CodeGenData") = false
  cause : cause = .iterated (Json.fieldOrNull entry "CodeGenData").kind

theorem extensionPointOf_error (h : extensionPointOf entry = .error f) :
    (∃ cause, f = .invalid cause)
      ∨ ∃ fields cause, entry = .obj fields ∧ StrayEntry fields cause ∧ f = .misuse cause := by
  cases entry with
  | obj fields =>
      unfold extensionPointOf at h
      dsimp only at h
      split at h
      · cases h
        exact Or.inl ⟨_, rfl⟩
      · rename_i hnamed
        rcases Result.bind_error.mp h with hitems | ⟨entries, -, h⟩
        · obtain ⟨hunlisted, rfl⟩ := itemsOf_error.mp hitems
          exact Or.inr ⟨fields, _, rfl, ⟨by simpa using hnamed, hunlisted, rfl⟩, rfl⟩
        left
        rcases Result.bind_error.mp h with hplaceholders | ⟨placeholders, -, h⟩
        · obtain ⟨_, _, _, -, -, hplaceholder⟩ := Result.mapM_error hplaceholders
          exact placeholderOf_error hplaceholder
        rcases Result.bind_error.mp h with hsources | ⟨sources, -, h⟩
        · exact textsOf?_error hsources
        rcases Result.bind_error.mp h with hdestinations | ⟨destinations, -, h⟩
        · exact textsOf?_error hdestinations
        rcases Result.bind_error.mp h with hslots | ⟨slots, -, h⟩
        · exact textsOf_error hslots
        · cases h
  | _ =>
      cases h
      exact Or.inl ⟨_, rfl⟩

theorem StrayEntry.fails {entry : Dict String Json} (h : StrayEntry entry cause) :
    extensionPointOf (.obj entry) = .error (.misuse cause) := by
  unfold extensionPointOf
  dsimp only
  rw [h.named, itemsOf_of_unlisted h.unlisted, h.cause]
  rfl

/-! ## Whole declarations -/

/-- A number or a truth value is gone through in reading the declaration: in the place of the
extension points, or of the placeholders of one whose predecessors are in order. -/
inductive Strays (fields : Dict String Json) : Misuse → Prop where
  | points (hunlisted : isListed (Json.fieldOrNull fields "ModuleExtensionDefinition") = false) :
      Strays fields (.iterated (Json.fieldOrNull fields "ModuleExtensionDefinition").kind)
  | placeholders {before after : List Json} {entry : Dict String Json} {cause : Misuse}
      (hpoints : Json.fieldOrNull fields "ModuleExtensionDefinition"
        = .arr (before ++ .obj entry :: after))
      (hbefore : ∀ e ∈ before, ∃ p, extensionPointOf e = .ok p)
      (hstray : StrayEntry entry cause) : Strays fields cause

theorem moduleOfFields_error (h : moduleOfFields fields folder = .error f) :
    (∃ cause, f = .invalid cause) ∨ ∃ cause, f = .misuse cause
      ∧ (Json.fieldOrNull fields "Name").present = true ∧ Strays fields cause := by
  unfold moduleOfFields at h
  dsimp only at h
  split at h
  · cases h
    exact Or.inl ⟨_, rfl⟩
  rename_i hnamed
  have hnamed : (Json.fieldOrNull fields "Name").present = true := by simpa using hnamed
  rcases Result.bind_error.mp h with hitems | ⟨items, hitems, h⟩
  · obtain ⟨hunlisted, rfl⟩ := itemsOf_error.mp hitems
    exact Or.inr ⟨_, rfl, hnamed, .points hunlisted⟩
  rcases Result.bind_error.mp h with hpoints | ⟨points, -, h⟩
  · obtain ⟨before, e, after, rfl, hbefore, he⟩ := Result.mapM_error hpoints
    refine (extensionPointOf_error he).imp_right ?_
    rintro ⟨entry, cause, rfl, hstray, rfl⟩
    have hentry : .obj entry ∈ before ++ .obj entry :: after := by simp
    exact ⟨cause, rfl, hnamed, .placeholders (eq_arr_of_itemsOf hitems hentry) hbefore hstray⟩
  left
  rcases Result.bind_error.mp h with hgames | ⟨games, -, h⟩
  · exact textsOf_error hgames
  rcases Result.bind_error.mp h with hrequired | ⟨required, -, h⟩
  · exact textsOf_error hrequired
  rcases Result.bind_error.mp h with hoptional | ⟨optional, -, h⟩
  · exact textsOf_error hoptional
  rcases Result.bind_error.mp h with hflags | ⟨flags, -, h⟩
  · exact textsOf_error hflags
  rcases Result.bind_error.mp h with hdata | ⟨data, -, h⟩
  · exact dataOf_error hdata
  · cases h

theorem Strays.fails (h : Strays fields cause)
    (hnamed : (Json.fieldOrNull fields "Name").present = true) (folder : Path) :
    moduleOfFields fields folder = .error (.misuse cause) := by
  unfold moduleOfFields
  dsimp only
  rw [hnamed]
  cases h with
  | points hunlisted =>
      rw [itemsOf_of_unlisted hunlisted]
      rfl
  | @placeholders before after entry _ hpoints hbefore hstray =>
      have hitems : itemsOf (Json.fieldOrNull fields "ModuleExtensionDefinition")
          = .ok (before ++ .obj entry :: after) := by
        rw [hpoints]
        unfold itemsOf
        rw [if_neg (by simp [Json.present])]
      rw [hitems]
      have hmapM := Result.mapM_of_error hstray.fails after hbefore
      show Except.bind (List.mapM extensionPointOf _) _ = _
      rw [hmapM]
      rfl

end Declaration

/-- The reader gives a text up for the size of a value in it, and not for how it is written. -/
def Json.Reason.isOfSize : Json.Reason → Bool
  | .integerTooLong _ | .tooDeep => true
  | _ => false

namespace Declaration

/-! ## What the bytes come to -/

/-- What the text of a declaration says as JSON. -/
def jsonOf (text : String) : Except Json.Located Json :=
  Json.parse (String.ofList (Text.unifyNewlines text.toList))

/-- What loading makes of the bytes of the declaration at `path`. -/
def moduleOfBytes (path folder : Path) (bytes : ByteArray) : Except Failure Module :=
  match Text.decodeMarkedUtf8 bytes with
  | .error f => .error (.utf8 f)
  | .ok text =>
    match jsonOf text with
    | .error f => .error (if f.reason.isOfSize then .json f else .load path (.format f))
    | .ok (.obj fields) =>
      match moduleOfFields fields folder with
      | .ok m => .ok m
      | .error (.invalid cause) => .error (.load path (.invalid cause))
      | .error (.misuse cause) => .error (.misuse cause)
    | .ok v => .error (.load path (.notObject v.kind))

/-- The bytes of a declaration make loading fail otherwise than as a load. -/
inductive Escapes (bytes : ByteArray) : Failure → Prop where
  | encoding {f : Text.Utf8Fault} (hbytes : Text.decodeMarkedUtf8 bytes = .error f) :
      Escapes bytes (.utf8 f)
  | size {text : String} {f : Json.Located} (hbytes : Text.decodeMarkedUtf8 bytes = .ok text)
      (htext : jsonOf text = .error f) (hsize : f.reason.isOfSize = true) : Escapes bytes (.json f)
  | shape {text : String} {fields : Dict String Json} {cause : Misuse}
      (hbytes : Text.decodeMarkedUtf8 bytes = .ok text) (htext : jsonOf text = .ok (.obj fields))
      (hnamed : (Json.fieldOrNull fields "Name").present = true) (hstrays : Strays fields cause) :
      Escapes bytes (.misuse cause)

variable {path : Path} {bytes : ByteArray} {failure : Failure}

theorem Escapes.ne_load (h : Escapes bytes failure) (path : Path) (fault : LoadFault) :
    failure ≠ .load path fault := by
  cases h <;> nofun

theorem Escapes.fails (h : Escapes bytes failure) (path folder : Path) :
    moduleOfBytes path folder bytes = .error failure := by
  unfold moduleOfBytes
  cases h with
  | encoding hbytes => rw [hbytes]
  | size hbytes htext hsize => simp only [hbytes, htext, hsize, if_true]
  | shape hbytes htext hnamed hstrays =>
      simp only [hbytes, htext, hstrays.fails hnamed folder]

theorem moduleOfBytes_error (h : moduleOfBytes path folder bytes = .error failure) :
    (∃ fault, failure = .load path fault) ∨ Escapes bytes failure := by
  unfold moduleOfBytes at h
  cases hbytes : Text.decodeMarkedUtf8 bytes with
  | error f =>
      rw [hbytes] at h
      cases h
      exact Or.inr (.encoding hbytes)
  | ok text =>
      simp only [hbytes] at h
      split at h
      · rename_i f htext
        cases h
        cases hsize : f.reason.isOfSize with
        | true => exact Or.inr (.size hbytes htext hsize)
        | false => exact Or.inl ⟨.format f, rfl⟩
      · rename_i fields htext
        split at h
        · cases h
        · cases h
          exact Or.inl ⟨_, rfl⟩
        · rename_i cause hfields
          cases h
          rcases moduleOfFields_error hfields with ⟨_, hcause⟩ | ⟨_, hcause, hnamed, hstrays⟩
          · cases hcause
          · cases hcause
            exact Or.inr (.shape hbytes htext hnamed hstrays)
      · cases h
        exact Or.inl ⟨_, rfl⟩

end Declaration

/-! ## Loading a folder -/

open Work Declaration

/-- The path of the declaration of the module in a folder. -/
def Workshop.declarationPath (w : Workshop) (folder : Path) : Path :=
  (w.resolved folder).child Module.declarationName

/-- The folder has a declaration, and it holds the bytes. -/
structure Workshop.Declares (w : Workshop) (folder : Path) (bytes : ByteArray) : Prop where
  resolves : hasNull folder = false
  usable : hasNull (w.declarationPath folder) = false
  holds : w.disk.read w.here (w.declarationPath folder) = .ok bytes

variable {w : Workshop} {folder : Path} {bytes : ByteArray}

theorem readMarkedText_run {p : Path} (hp : hasNull p = false)
    (h : w.disk.read w.here p = .ok bytes) : (readMarkedText p).run w
      = ((Text.decodeMarkedUtf8 bytes).mapError .utf8 |>.map fun text =>
          String.ofList (Text.unifyNewlines text.toList), w) := by
  have hread : (readBytes p).run w = (.ok bytes, w) := query_ok.mpr ⟨hp, h, rfl⟩
  unfold readMarkedText
  rw [run_bind, hread]
  show (Work.ofExcept .utf8 (Text.decodeMarkedUtf8 bytes) >>= _).run w = _
  cases Text.decodeMarkedUtf8 bytes <;> rfl

theorem parseDeclaration_run (path : Path) (text : String) (w : Workshop) :
    (parseDeclaration path text).run w = ((Json.parse text).mapError fun f =>
      if f.reason.isOfSize then .json f else .load path (.format f), w) := by
  unfold parseDeclaration
  cases Json.parse text with
  | ok v => rfl
  | error f =>
      obtain ⟨reason, offset, line, column⟩ := f
      cases reason <;> rfl

/-- Loading depends on nothing but the bytes of the declaration and where it lies. -/
theorem Workshop.Declares.run (h : w.Declares folder bytes) : (loadModule folder).run w
    = (moduleOfBytes (w.declarationPath folder) (w.resolved folder) bytes, w) := by
  have hresolve : (resolve folder).run w = (.ok (w.resolved folder), w) := by
    unfold resolve
    rw [h.resolves]
    rfl
  obtain ⟨place, hleads, hlies⟩ := Disk.read_ok.mp h.holds
  have hthere : (isFile (w.declarationPath folder)).run w = (.ok true, w) := by
    unfold isFile
    rw [run_bind, lookUp?_of_follow h.usable hleads, hlies]
    rfl
  unfold loadModule
  rw [run_bind, hresolve]
  show (isFile (w.declarationPath folder) >>= _).run w = _
  rw [run_bind, hthere]
  show (readMarkedText (w.declarationPath folder) >>= _).run w = _
  rw [run_bind, readMarkedText_run h.usable h.holds]
  unfold moduleOfBytes
  cases Text.decodeMarkedUtf8 bytes with
  | error f => rfl
  | ok text =>
      show (parseDeclaration (w.declarationPath folder) _ >>= _).run w = _
      rw [run_bind, parseDeclaration_run]
      dsimp only [jsonOf]
      cases Json.parse (String.ofList (Text.unifyNewlines text.toList)) with
      | error f => rfl
      | ok v =>
          show (declaredModule (w.declarationPath folder) (w.resolved folder) v).run w = _
          cases v with
          | obj fields =>
              dsimp only [declaredModule]
              cases moduleOfFields fields (w.resolved folder) with
              | ok m => rfl
              | error f => cases f <;> rfl
          | _ => rfl

/-- Loading the folder gives a module, or fails as a load that names the declaration. -/
def Workshop.LoadsAsDocumented (w : Workshop) (folder : Path) : Prop :=
  (∃ m, (loadModule folder).run w = (.ok m, w))
    ∨ ∃ fault, (loadModule folder).run w = (.error (.load (w.declarationPath folder) fault), w)

/-- A declaration that lies in a folder gives a module or a load failure that names it, unless a
fault of its bytes escapes. What escapes is how loading fails. -/
theorem loadModule_documented (h : w.Declares folder bytes) :
    (w.LoadsAsDocumented folder ↔ ∀ f, ¬ Escapes bytes f)
      ∧ ∀ f, Escapes bytes f → (loadModule folder).run w = (.error f, w) := by
  have hescapes : ∀ f, Escapes bytes f → (loadModule folder).run w = (.error f, w) := by
    intro f hf
    rw [h.run, hf.fails]
  refine ⟨⟨?_, fun hnone => ?_⟩, hescapes⟩
  · rintro (⟨m, hm⟩ | ⟨fault, hfault⟩) f hf
    · cases hm.symm.trans (hescapes f hf)
    · cases hfault.symm.trans (hescapes f hf)
      exact hf.ne_load _ _ rfl
  · unfold Workshop.LoadsAsDocumented
    rw [h.run]
    cases hbytes : moduleOfBytes (w.declarationPath folder) (w.resolved folder) bytes with
    | ok m => exact Or.inl ⟨m, rfl⟩
    | error f =>
        rcases moduleOfBytes_error hbytes with ⟨fault, rfl⟩ | hf
        · exact Or.inr ⟨fault, rfl⟩
        · exact (hnone f hf).elim

/-! ### Bytes that are no text, and a number for the extension points -/

def boxFolder : Path := ⟨.top, ["Box"]⟩

/-- A folder with nothing but a declaration. -/
def boxShop (bytes : ByteArray) : Workshop :=
  { (default : Workshop) with
    disk := ⟨[(["Box"], .folder), (["Box", "ModuleInfo.json"], .file bytes)]⟩ }

theorem boxShop_declares (bytes : ByteArray) : (boxShop bytes).Declares boxFolder bytes :=
  ⟨by decide, by rfl, rfl⟩

/-- A failure that is none of the tool's own is no load failure. -/
theorem Workshop.not_loadsAsDocumented
    (h : (failure? ((loadModule folder).run w).1).any (!·.isOwn) = true) :
    ¬ w.LoadsAsDocumented folder := by
  rintro (⟨m, hm⟩ | ⟨fault, hfault⟩)
  · rw [hm] at h
    cases h
  · rw [hfault] at h
    cases h

/-- A byte that is no text, or a number where the extension points should be, makes loading fail
by something else than a load failure. -/
theorem loadModule_undocumented_box :
    (∀ bytes, (boxShop bytes).Declares boxFolder bytes)
      ∧ ¬ (boxShop ⟨#[0xFF]⟩).LoadsAsDocumented boxFolder
      ∧ ¬ (boxShop ("\x7b\"Name\": \"Box\", " ++
          "\"ModuleExtensionDefinition\": 5\x7d").toUTF8).LoadsAsDocumented boxFolder :=
  ⟨boxShop_declares, Workshop.not_loadsAsDocumented (by decide +kernel),
    Workshop.not_loadsAsDocumented (by decide +kernel)⟩

theorem loadModule_documented_box :
    (∀ f, ¬ Escapes "\x7b\"Name\": \"Box\"\x7d".toUTF8 f)
      ∧ ∃ f, Escapes ⟨#[0xFF]⟩ f
        ∧ (loadModule boxFolder).run (boxShop ⟨#[0xFF]⟩) = (.error f, boxShop ⟨#[0xFF]⟩) := by
  constructor
  · have hloads : ((loadModule boxFolder).run
        (boxShop "\x7b\"Name\": \"Box\"\x7d".toUTF8)).1.toOption.isSome = true := by
      decide +kernel
    obtain ⟨m, hm⟩ := Option.isSome_iff_exists.mp hloads
    have hrun := run_of_result hm
    rw [unchanged_of_keeping (keeping_loadModule _) hrun] at hrun
    exact (loadModule_documented (boxShop_declares _)).1.mp (Or.inl ⟨m, hrun⟩)
  · cases hbytes : Text.decodeMarkedUtf8 ⟨#[0xFF]⟩ with
    | ok text =>
        have hnone : (Text.decodeMarkedUtf8 ⟨#[0xFF]⟩).toOption = none := by decide +kernel
        rw [hbytes] at hnone
        cases hnone
    | error f =>
        have hescapes := Escapes.encoding hbytes
        exact ⟨_, hescapes, (loadModule_documented (boxShop_declares _)).2 _ hescapes⟩

end PatchForge
