import PatchForge.Proofs.Generation.Act
import PatchForge.Proofs.Rendering.Values
import PatchForge.Proofs.Template.Reading

/-!
# Fixed extension points

The whole way of a fixed extension point, from the template's bytes and
the modules' data to the bytes of the generated file
(`generateFixed_output`). What replaces a token is `fixedText`: a
concatenation over the modules and over the records of each, nothing
being merged or sorted.
-/

namespace PatchForge

open Work Disk Template

namespace ExtensionPoint

/-- The text that replaces the tokens of a name: the lines of all records that the modules
bring, in order, under the format of the first placeholder of that name. -/
def fixedText (p : ExtensionPoint) (modules : List Module) (name : String) : String :=
  match p.placeholders.find? (·.name = name) with
  | none => ""
  | some q => String.join <| modules.flatMap fun m =>
      (m.contributions p.name).map fun r => recordLine q.format (Record.project r p.slots)

theorem fixedText_of_find? {p : ExtensionPoint} {name : String} {q : Placeholder}
    (h : p.placeholders.find? (·.name = name) = some q) (modules : List Module) :
    p.fixedText modules name
      = String.join
          (((p.contributions modules).flatMap (·.records)).map (recordLine q.format)) := by
  rw [fixedText, h, records_contributions, List.map_flatMap]
  simp only [List.map_map]
  rfl

theorem fixedText_of_no_records {p : ExtensionPoint} {modules : List Module}
    (h : ∀ m ∈ modules, m.contributions p.name = []) (name : String) :
    p.fixedText modules name = "" := by
  unfold fixedText
  split
  · rfl
  · rename_i q hq
    have hempty : (modules.flatMap fun m => (m.contributions p.name).map fun r =>
        recordLine q.format (Record.project r p.slots)) = [] := by
      rw [List.flatMap_eq_nil_iff]
      intro m hm
      rw [h m hm, List.map_nil]
    rw [hempty, String.join_nil]

end ExtensionPoint

/-- Rendering replaces each token of a placeholder by its text. -/
theorem renderFixed_ok {p : ExtensionPoint} {modules : List Module} {text output : String}
    {pieces : List Piece} (hbraces : ∀ q ∈ p.placeholders, BraceFree q.name)
    (h : renderFixed text p.name p.placeholders (p.contributions modules) = .ok output)
    (hreads : Reads (p.placeholders.map (·.name)) text.toList pieces) :
    output = String.ofList (filled (p.fixedText modules) pieces)
      ∧ ∀ name q, p.placeholders.find? (·.name = name) = some q →
          ∀ m ∈ modules, ∀ r ∈ m.contributions p.name,
            ∃ line, applyFormat q.format (Record.project r p.slots) = .ok line := by
  obtain ⟨values, hvalues, rfl⟩ := Result.map_ok.mp h
  obtain ⟨hkeys, hget⟩ := decisive_ok hvalues
  have hlines : ∀ name q, p.placeholders.find? (·.name = name) = some q →
      values.get? name = some (p.fixedText modules name)
      ∧ ∀ r ∈ (p.contributions modules).flatMap (·.records),
          ∃ line, applyFormat q.format r = .ok line := by
    intro name q hq
    obtain ⟨value, hvalue, hv⟩ := hget name q hq
    obtain ⟨hall, rfl⟩ := fixedLines_ok hvalue
    exact ⟨by rw [hv, ExtensionPoint.fixedText_of_find? hq], hall⟩
  have hnames : ∀ name, name ∈ p.placeholders.map (·.name) ↔ name ∈ values.keys := by
    intro name
    rw [hkeys, List.mem_map]
  have hfree : ∀ name ∈ values.keys, BraceFree name := by
    intro name hn
    obtain ⟨q, hq, rfl⟩ := (hkeys name).mp hn
    exact hbraces q hq
  constructor
  · rw [substitute_of_reads hfree (hreads.congr hnames)]
    refine congrArg String.ofList (filled_congr fun name hn => ?_)
    obtain ⟨q, hq, hname⟩ := List.mem_map.mp (hreads.live name hn)
    obtain ⟨q', hq'⟩ : ∃ q', p.placeholders.find? (·.name = name) = some q' := by
      rw [← Option.isSome_iff_exists, List.find?_isSome]
      exact ⟨q, hq, by simpa using hname⟩
    rw [(hlines name q' hq').1, Option.getD_some]
  · intro name q hq m hm r hr
    refine (hlines name q hq).2 _ ?_
    rw [ExtensionPoint.records_contributions]
    exact List.mem_flatMap.mpr ⟨m, hm, List.mem_map.mpr ⟨r, hr, rfl⟩⟩

/-! ## The whole way -/

section

variable {modules : List Module} {m : Module} {p : ExtensionPoint} {w w' : Workshop} {file : Path}

theorem declaredFile_ok {folder : Path} {v : Json}
    (h : (declaredFile folder v).run w = (.ok file, w')) :
    ∃ s, v = .str s ∧ file = folder.child s ∧ w' = w := by
  by_cases hv : ∃ s, v = .str s
  · obtain ⟨s, rfl⟩ := hv
    cases h
    exact ⟨s, rfl, rfl, rfl⟩
  · rw [declaredFile_of_not_str fun s hs => hv ⟨s, hs⟩] at h
    cases h

/-- Generation ends well only if both names are texts, and then it performs the staging. -/
theorem generateFixed_ok (h : (generateFixed modules m p).run w = (.ok file, w')) :
    ∃ source destination, p.source = .str source ∧ p.destination = .str destination
      ∧ file = m.folder.child destination
      ∧ (fixedStaging modules m p source destination).perform.run w = (.ok (), w') := by
  obtain ⟨_, w₁, hsource, hthen⟩ := bind_ok.mp h
  obtain ⟨source, hs, rfl, rfl⟩ := declaredFile_ok hsource
  obtain ⟨_, w₂, hdestination, hmake⟩ := bind_ok.mp hthen
  obtain ⟨destination, ht, rfl, rfl⟩ := declaredFile_ok hdestination
  have hperform : ((fixedStaging modules m p source destination).perform >>= fun _ =>
      pure (m.folder.child destination)).run w₂ = (.ok file, w') := by
    rw [← hmake, Staging.perform]
    simp only [gather, bind_assoc, pure_bind]
    rfl
  obtain ⟨_, w₃, hrun, hpure⟩ := bind_ok.mp hperform
  cases hpure
  exact ⟨source, destination, hs, ht, rfl, hrun⟩

/-- **Fixed mode.** If no placeholder's name holds a brace, generation that ends well took the
template's text, as its bytes were before, read it in the one possible way as characters and
tokens of placeholders, and left the file with the bytes of that text in which each token is
replaced by `fixedText`. Every format it needed applies to every record; without records the
tokens are gone. -/
theorem generateFixed_output (hbraces : ∀ q ∈ p.placeholders, BraceFree q.name)
    (hrun : (generateFixed modules m p).run w = (.ok file, w')) :
    ∃ (source destination text : String) (a b : Place) (pieces : List Piece),
      p.source = .str source ∧ p.destination = .str destination
      ∧ file = m.folder.child destination
      ∧ w'.disk.follow w.here (m.codegenDir.child source) = .ok a
      ∧ w.disk.get? a = some (.file text.toUTF8)
      ∧ Reads (p.placeholders.map (·.name)) text.toList pieces
      ∧ (∀ other, Reads (p.placeholders.map (·.name)) text.toList other → other = pieces)
      ∧ w'.disk.follow w.here file = .ok b
      ∧ w'.disk.get? b
          = some (.file (String.ofList (filled (p.fixedText modules) pieces)).toUTF8)
      ∧ (∀ name q, p.placeholders.find? (·.name = name) = some q →
          ∀ c ∈ modules, ∀ r ∈ c.contributions p.name,
            ∃ line, applyFormat q.format (Record.project r p.slots) = .ok line)
      ∧ ((∀ c ∈ modules, c.contributions p.name = []) → ∀ name, p.fixedText modules name = "") := by
  obtain ⟨source, destination, hs, ht, rfl, hperform⟩ := generateFixed_ok hrun
  obtain ⟨-, s, hmade⟩ := Staging.perform_ok hperform
  have hcontent := decodeUtf8_ok.mp hmade.ready.decoded
  have hfree : ∀ name ∈ p.placeholders.map (·.name), BraceFree name := by
    intro name hn
    obtain ⟨q, hq, rfl⟩ := List.mem_map.mp hn
    exact hbraces q hq
  obtain ⟨pieces, hreads⟩ := exists_reads hfree s.text.toList
  obtain ⟨houtput, hformats⟩ := renderFixed_ok hbraces hmade.ready.rendered hreads
  refine ⟨source, destination, s.text, s.source, s.target, pieces, hs, ht, rfl,
    hmade.ready.source_leads, ?_, hreads, fun other hother => reads_unique hother hreads,
    hmade.ready.target_leads, ?_, hformats, ExtensionPoint.fixedText_of_no_records⟩
  · rw [← hcontent]
    exact hmade.source_before
  · rw [← houtput]
    exact hmade.made

end

/-! ### One module with a hook, another one with data for it -/

/-- A file that calls every hook brought to it. -/
def hookPoint : ExtensionPoint :=
  { (default : ExtensionPoint) with
    name := "Hooks"
    source := .str "Hooks.h"
    destination := .str "codebuild/Hooks.h"
    slots := ["Name"]
    placeholders := [⟨"HookList", "CALL(\x7b0\x7d)"⟩] }

def hookOwner : Module :=
  { (default : Module) with
    name := "Owner"
    folder := ⟨.top, ["mods", "Owner"]⟩
    extensionPoints := [hookPoint] }

def hookUser : Module :=
  { (default : Module) with
    name := "User"
    folder := ⟨.top, ["mods", "User"]⟩
    data := [("Hooks", [[("Name", "OnInit")], [("Name", "OnInit")]])] }

/-- The template has a Windows line end and a token that nothing replaces. -/
def hookShop : Workshop :=
  { (default : Workshop) with
    disk := ⟨[(["mods"], .folder), (["mods", "Owner"], .folder),
      (["mods", "Owner", "codegen"], .folder),
      (["mods", "Owner", "codegen", "Hooks.h"],
        .file "\x7b\x7bOther\x7d\x7d\r\n\x7b\x7bHookList\x7d\x7d".toUTF8)]⟩ }

theorem generateFixed_output_hooks :
    ∃ file w', (generateFixed [hookOwner, hookUser] hookOwner hookPoint).run hookShop
        = (.ok file, w')
      ∧ hookPoint.fixedText [hookOwner, hookUser] "HookList" = "CALL(OnInit)\nCALL(OnInit)\n"
      ∧ ∃ (text : String) (a b : Place) (pieces : List Piece),
        hookShop.disk.get? a = some (.file text.toUTF8)
        ∧ Reads ["HookList"] text.toList pieces
        ∧ w'.disk.follow hookShop.here file = .ok b
        ∧ w'.disk.get? b = some (.file (String.ofList
            (filled (hookPoint.fixedText [hookOwner, hookUser]) pieces)).toUTF8) := by
  have hresult : ((generateFixed [hookOwner, hookUser] hookOwner hookPoint).run
      hookShop).1.toOption = some ⟨.top, ["mods", "Owner", "codebuild", "Hooks.h"]⟩ := by
    decide +kernel
  have hbraces : ∀ q ∈ hookPoint.placeholders, BraceFree q.name := by
    unfold BraceFree
    decide
  obtain ⟨_, _, text, a, b, pieces, -, -, -, -, htext, hreads, -, hfile, hbytes, -⟩ :=
    generateFixed_output hbraces (run_of_result hresult)
  exact ⟨_, _, run_of_result hresult, by decide +kernel, text, a, b, pieces, htext, hreads,
    hfile, hbytes⟩

end PatchForge
