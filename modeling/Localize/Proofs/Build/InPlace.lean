import Localize.Proofs.Build.Arrival
import Localize.Proofs.Resolution.Splicing
import Localize.Proofs.Text.Bytes
import Mathlib.Data.List.Nodup

/-!
# What a build in place does to the bytes of a file

A build in place reads a file as a text, and writes the text that came of it into the same place.
What is outside the nuggets is the same text, but it has been read and written on the way.  As
reading and writing are inverse to each other, its bytes are the same, too: byte order marks, null
bytes and line ends of any kind stay as they are (`SplicedBytes`).

* `Settings.landings_of_inPlace` — in place, an asset is written only if it has a new text.
* `of_writeAll_inPlace` — so it is where it should be, and no other asset is in its way.
* `bytes_of_run_inPlace` — a file has other bytes exactly if its asset was rewritten.
-/

set_option autoImplicit false

namespace Localize

open Nugget (nuggets)

/-! ## The bytes of a text that outcomes were spliced into -/

/-- Bytes before and after: both have the bytes of the gaps in common, with those of the spans
between them before, and those of the outcomes after. -/
inductive SplicedBytes : List Text → List Text → List Text → Bytes → Bytes → Prop
  | last {gap : Text} {g : Bytes} (hgap : Utf8.encode gap = .ok g) : SplicedBytes [gap] [] [] g g
  | cons {gap span outcome : Text} {gaps spans outcomes : List Text} {g x y old new : Bytes}
      (hgap : Utf8.encode gap = .ok g) (hspan : Utf8.encode span = .ok x)
      (houtcome : Utf8.encode outcome = .ok y) (hrest : SplicedBytes gaps spans outcomes old new) :
      SplicedBytes (gap :: gaps) (span :: spans) (outcome :: outcomes) (g ++ x ++ old)
        (g ++ y ++ new)

/-- **The bytes of two texts with the same gaps.** -/
theorem splicedBytes_of_encode {gaps spans outcomes : List Text} {old new : Bytes}
    (hgaps : gaps.length = spans.length + 1) (houtcomes : outcomes.length = spans.length)
    (hold : Utf8.encode (interleave gaps spans) = .ok old)
    (hnew : Utf8.encode (interleave gaps outcomes) = .ok new) :
    SplicedBytes gaps spans outcomes old new := by
  induction spans generalizing gaps outcomes old new with
  | nil =>
    obtain ⟨gap, rfl⟩ := List.length_eq_one_iff.1 hgaps
    obtain rfl := List.length_eq_zero_iff.1 houtcomes
    have hgap : interleave [gap] [] = gap := List.append_nil gap
    rw [hgap] at hold hnew
    cases hold.symm.trans hnew
    exact .last hold
  | cons span spans ih =>
    obtain ⟨gap, gaps, rfl⟩ := List.exists_cons_of_length_eq_add_one hgaps
    obtain ⟨outcome, outcomes, rfl⟩ := List.exists_cons_of_length_eq_add_one houtcomes
    rw [interleave, Utf8.encode_append_eq_ok_iff] at hold hnew
    obtain ⟨_, old, hfront, hold, rfl⟩ := hold
    obtain ⟨_, new, hfront', hnew, rfl⟩ := hnew
    obtain ⟨g, x, hgap, hspan, rfl⟩ := Utf8.encode_append_eq_ok_iff.1 hfront
    obtain ⟨g', y, hgap', houtcome, rfl⟩ := Utf8.encode_append_eq_ok_iff.1 hfront'
    cases hgap.symm.trans hgap'
    exact .cons hgap hspan houtcome
      (ih (Nat.succ.inj hgaps) (Nat.succ.inj houtcomes) hold hnew)

/-- The bytes of an asset stand for a text, and the new ones are the same but for its nuggets: in
place of their bytes there are those of their outcomes. -/
def Respelled (p : Policy) (name : Text) (old new : Bytes) : Prop :=
  ∃ text resolved, Utf8.decode old = .ok text ∧
    p.resolveAll name (nuggets text) = .ok resolved ∧
    SplicedBytes (gaps text 0 (nuggets text)) ((nuggets text).map fun l => l.nugget.raw)
      (resolved.map fun x => x.1.text) old new

/-- **What is outside the nuggets of a text keeps its bytes.** -/
theorem respelled_of_localize {p : Policy} {name text : Text} {result : Localized}
    {old new : Bytes} (hdecode : Utf8.decode old = .ok text)
    (hlocalize : p.localize text name = .ok result)
    (hencode : Utf8.encode result.text = .ok new) : Respelled p name old new := by
  rw [Policy.localize_eq] at hlocalize
  obtain ⟨resolved, hresolved, rfl⟩ := map_eq_ok_iff.1 hlocalize
  refine ⟨text, resolved, hdecode, hresolved, splicedBytes_of_encode ?_ ?_ ?_ hencode⟩
  · rw [length_gaps, List.length_map]
  · rw [List.length_map, List.length_map, Policy.length_of_resolveAll hresolved]
  · rw [interleave_gaps_raw]
    exact Utf8.decode_eq_ok_iff.1 hdecode

/-! ## Where assets are written -/

namespace Settings

variable {s : Settings} {cwd q : Location} {a : Processed}

/-- In place, an asset is written where it is read. -/
theorem source_of_inPlace (h : s.inPlace cwd) (a : Processed) :
    (s.source a).resolve cwd = (s.target a).resolve cwd :=
  (Path.resolve_join_congr (of_decide_eq_true h) _).symm

/-- Without a directory for tables, no table is written. -/
theorem lookupPlace?_of_lookupDir_eq_none (h : s.catalog.lookupDir = none) (cwd : Location) :
    s.lookupPlace? cwd = none := by
  rw [lookupPlace?, h]
  cases s.catalog.path <;> rfl

/-- In place, an asset is written only if it has a new text. -/
theorem mem_landings_of_inPlace (h : s.inPlace cwd) :
    q ∈ s.landings cwd a ↔ a.text.isSome ∧ q = (s.target a).resolve cwd := by
  rw [landings]
  cases a.text with
  | some t => simp
  | none => simp [h]

end Settings

namespace Build

variable {s : Settings} {p : Policy} {names : List Text} {r r' r₁ r₂ : Run} {l q : Location}
variable {assets : List Processed} {a : Processed}

/-- In place, assets that are written leave alone what is not the place of one with a new text. -/
theorem fileAt?_of_writeAll_inPlace (hs : s.Normal) (hplace : s.inPlace r.tree.cwd)
    {out : Except BuildError Unit} (h : writeAll s assets r = (out, r'))
    (hlog : r.sinks.file ≠ some q)
    (hapart : ∀ a ∈ assets, a.text.isSome → q ≠ (s.target a).resolve r.tree.cwd) :
    r'.tree.fileAt? q = r.tree.fileAt? q := by
  refine (change_of_writeAll hs h).tree.files q ?_
  rintro (hfile | ⟨a, ha, hlands⟩)
  · exact hlog hfile
  · obtain ⟨hsome, rfl⟩ := (Settings.mem_landings_of_inPlace hplace).1 hlands
    exact hapart a ha hsome rfl

/-- **An asset that was written in place is where it should be**, whatever the others are. -/
theorem of_writeAll_inPlace (hs : s.Normal) (hplace : s.inPlace r.tree.cwd)
    (hnodup : (assets.map fun a => (s.target a).resolve r.tree.cwd).Nodup)
    (h : writeAll s assets r = (.ok (), r')) (ha : a ∈ assets)
    (hlog : r.sinks.file ≠ some ((s.target a).resolve r.tree.cwd)) :
    r'.tree.fileAt? ((s.target a).resolve r.tree.cwd) = arriving s r.tree a := by
  obtain ⟨before, after, rfl⟩ := List.append_of_mem ha
  rw [List.map_append, List.map_cons, List.nodup_append, List.nodup_cons] at hnodup
  obtain ⟨-, ⟨hafter, -⟩, hbefore⟩ := hnodup
  obtain ⟨u, v, hdone, hwrite, hrest⟩ := exists_of_writeAll_append_cons h
  have hchange := change_of_writeAll hs hdone
  have hself := change_of_write hs hwrite
  have hcwd : u.tree.cwd = r.tree.cwd := hchange.tree.cwd
  have hcwd' : v.tree.cwd = r.tree.cwd := hself.tree.cwd.trans hcwd
  have hsinks : v.sinks = r.sinks := hself.sinks.trans hchange.sinks
  -- those before it leave its place alone, and so what it is read from
  have hkept : u.tree.fileAt? ((s.target a).resolve r.tree.cwd)
      = r.tree.fileAt? ((s.target a).resolve r.tree.cwd) := by
    refine fileAt?_of_writeAll_inPlace hs hplace hdone hlog fun b hb _ heq => ?_
    exact hbefore _ (List.mem_map_of_mem hb) _ List.mem_cons_self heq.symm
  have hread : arriving s u.tree a = arriving s r.tree a := by
    rw [arriving, arriving]
    cases a.text with
    | some t => rfl
    | none =>
      dsimp only
      rw [hcwd, Settings.source_of_inPlace hplace, hkept]
  -- and those after it leave its place alone once more
  have hstays : r'.tree.fileAt? ((s.target a).resolve r.tree.cwd)
      = v.tree.fileAt? ((s.target a).resolve r.tree.cwd) := by
    refine fileAt?_of_writeAll_inPlace hs (hcwd' ▸ hplace) hrest (hsinks ▸ hlog)
      fun b hb _ heq => hafter ?_
    rw [hcwd'] at heq
    exact List.mem_map.2 ⟨b, hb, heq.symm⟩
  have hwritten := (of_write_eq_ok hs (fun hnot => absurd (hcwd ▸ hplace) hnot)
    (by rw [hchange.sinks, hcwd]; exact hlog) hwrite).2
  rw [hcwd] at hwritten
  rw [hstays, hwritten, hread]

/-! ## The assets of a build in place -/

/-- **Every file below the input directory is an asset of a build in place**, and it is the only one
with its name. -/
theorem Prepared.exists_asset (h : Prepared s r p names r₁) (hs : s.Normal)
    (halike : r.Alike r₁) (hwell : r₁.tree.WellFormed) (hplace : s.inPlace r.tree.cwd)
    {schedule : Schedule}
    (hprocess : processAll s p schedule names (begun s names r₁) = (.ok assets, r₂)) (hl : l ≠ [])
    (hfile : (r.tree.fileAt? (s.inputDir.resolve r.tree.cwd ++ l)).isSome) :
    ∃ a ∈ assets, a.result.name = Settings.assetName l ∧
      ∀ a' ∈ assets, a'.result.name = Settings.assetName l → a' = a := by
  have hcwd := halike.tree.cwd
  have hnames := (of_processAll_eq_ok hprocess).1
  have hmem : l ∈ s.assetFiles r₁.tree := by
    rw [Settings.mem_assetFiles, hwell.mem_filesUnder, hcwd, halike.tree.isSome_fileAt?]
    exact ⟨⟨hl, hfile⟩, Or.inl hplace⟩
  have hname : Settings.assetName l ∈ names := by
    rcases Settings.of_assetNames_eq_ok hs.input h.names with ⟨-, rfl⟩ | ⟨hdir, -⟩
    · exact List.mem_map_of_mem hmem
    · rw [halike.tree.isDirectory_eq, h.input] at hdir
      cases hdir
  obtain ⟨hnodup, -⟩ := nodup_of_assetNames hs.input hwell h.names
  rw [← hnames] at hname hnodup
  obtain ⟨a, ha, hal⟩ := List.mem_map.1 hname
  exact ⟨a, ha, hal, fun a' ha' hal' =>
    List.inj_on_of_nodup_map hnodup ha' ha (hal'.trans hal.symm)⟩

/-- No two assets are written to the same place. -/
theorem nodup_targets (hs : s.inputDir.Normal) {t : Tree} (hwell : t.WellFormed)
    (hnames : s.assetNames t = .ok names) (cwd : Location) :
    (names.map fun name => (Settings.assetPath s.outputDir name).resolve cwd).Nodup := by
  rcases Settings.of_assetNames_eq_ok hs hnames with ⟨-, rfl⟩ | ⟨-, rfl⟩
  · have hplaces : ((s.assetFiles t).map Settings.assetName).map
        (fun name => (Settings.assetPath s.outputDir name).resolve cwd)
          = (s.assetFiles t).map (s.outputDir.resolve cwd ++ ·) := by
      rw [List.map_map]
      exact List.map_congr_left fun l hl =>
        Settings.resolve_assetPath_of_mem hwell _ (Settings.mem_assetFiles.1 hl).1 cwd
    have hfiles : (s.assetFiles t).Nodup := (hwell.nodup_filesUnder _).filter _
    rw [hplaces]
    exact hfiles.map (List.append_right_injective _)
  · exact List.nodup_nil

/-- **What comes of a file is what comes of its bytes** as they were before the build, unless it is
the log. -/
theorem cases_of_file (hs : s.inputDir.Normal) (halike : r.Alike r₁) {schedule : Schedule}
    (hprocess : processAll s p schedule names (begun s names r₁) = (.ok assets, r₂))
    (ha : a ∈ assets) {old : Bytes}
    (hold : r.tree.fileAt? ((s.source a).resolve r.tree.cwd) = some old)
    (hlog : r.sinks.file ≠ some ((s.source a).resolve r.tree.cwd)) :
    (a.text = none ∧ a.result.status ≠ .rewritten) ∨
      ∃ text result, Utf8.decode old = .ok text ∧ p.localize text a.result.name = .ok result ∧
        a.text = some result.text ∧ a.result.status = .rewritten ∧ result.text ≠ text := by
  obtain ⟨t, hmet, houtcome⟩ := (of_processAll_eq_ok hprocess).2 a ha
  have hbegun : r₁.Change Tree.nowhere (fun q => r₁.sinks.file = some q) (begun s names r₁) :=
    change_logTo (fun _ => id) true _ rfl
  have hchange : Met r₁ t := hmet.of_change hbegun
  have hcwd : t.cwd = r.tree.cwd := hchange.cwd.trans halike.tree.cwd
  have hbytes : t.fileAt? ((s.source a).resolve r.tree.cwd) = some old := by
    rw [hchange.files _ (halike.sinks ▸ hlog), halike.tree.fileAt?_eq hlog, hold]
  rcases of_processAsset_eq_ok houtcome with hkept |
    ⟨bytes, text, result, hread, hdecode, hlocalize, htext, hstatus, hne⟩
  · exact Or.inl hkept
  · obtain ⟨place, hlocate, hfile⟩ := Tree.readFile_eq_ok_iff.1 hread
    rw [Tree.eq_resolve_of_locate (Settings.normal_assetPath hs _) hlocate, hcwd, hbytes] at hfile
    cases hfile
    exact Or.inr ⟨text, result, hdecode, hlocalize, htext, hstatus, hne⟩

/-- What is to arrive of a file differs from what was there if the file was rewritten, and then by
what stands for nuggets. -/
theorem exists_arriving (hs : s.inputDir.Normal) (halike : r.Alike r₁) {schedule : Schedule}
    (hprocess : processAll s p schedule names (begun s names r₁) = (.ok assets, r₂))
    (ha : a ∈ assets) {old : Bytes}
    (hold : r.tree.fileAt? ((s.source a).resolve r.tree.cwd) = some old)
    (hlog : r.sinks.file ≠ some ((s.source a).resolve r.tree.cwd)) {t : Tree}
    (ht : t.fileAt? ((s.source a).resolve t.cwd) = some old) (hthere : (arriving s t a).isSome) :
    ∃ new, arriving s t a = some new ∧ (new ≠ old ↔ a.result.status = .rewritten) ∧
      (a.result.status = .rewritten → Respelled p a.result.name old new) := by
  rw [arriving] at hthere ⊢
  rcases cases_of_file hs halike hprocess ha hold hlog with
    ⟨htext, hstatus⟩ | ⟨text, result, hdecode, hlocalize, htext, hstatus, hne⟩
  · rw [htext]
    exact ⟨old, ht, by simp [hstatus], fun hrewritten => absurd hrewritten hstatus⟩
  · rw [htext] at hthere ⊢
    dsimp only at hthere ⊢
    cases hencode : Utf8.encode result.text with
    | error e =>
      rw [hencode] at hthere
      cases hthere
    | ok new =>
      refine ⟨new, rfl, iff_of_true ?_ hstatus, fun _ =>
        respelled_of_localize hdecode hlocalize hencode⟩
      -- the same bytes would stand for the same text
      rintro rfl
      exact hne (Except.ok.inj ((Utf8.decode_encode hencode).symm.trans hdecode))

/-- **A build in place changes the bytes of the files that it rewrites, and of these what stands for
nuggets.**  Every file below the input directory has one asset in the result.  After the build it
has other bytes exactly if that asset was rewritten.  Then its bytes were those of a text, and
between them and the new ones there is no difference but that the bytes of each nugget have given
way to those of its outcome.  The log is apart from this, should it lie there. -/
theorem bytes_of_run_inPlace (hs : s.Normal) (hwell : r.tree.WellFormed) (hready : r.LogReady)
    (hplace : s.inPlace r.tree.cwd) (hlookup : s.catalog.lookupDir = none) {schedule : Schedule}
    {duration : Binary64} {b : BuildResult} (h : run s schedule duration r = (.ok b, r')) :
    ∃ p r₁, loadPolicy s r = (.ok p, r₁) ∧
      ∀ l old, l ≠ [] → r.tree.fileAt? (s.inputDir.resolve r.tree.cwd ++ l) = some old →
        r.sinks.file ≠ some (s.inputDir.resolve r.tree.cwd ++ l) →
        ∃ a ∈ b.assets, a.name = Settings.assetName l ∧
          (∀ a' ∈ b.assets, a'.name = Settings.assetName l → a' = a) ∧
          ∃ new, r'.tree.fileAt? (s.inputDir.resolve r.tree.cwd ++ l) = some new ∧
            (new ≠ old ↔ a.status = .rewritten) ∧
            (a.status = .rewritten → Respelled p a.name old new) := by
  obtain ⟨p, names, assets, r₁, r₂, r₃, hprepared, hprocess, hwrite, rfl, rfl⟩ :=
    exists_of_run_eq_ok h
  refine ⟨p, r₁, hprepared.policy, fun l old hl hold hlog => ?_⟩
  have halike : r.Alike r₁ := hprepared.alike hlookup hready
  have hwell₁ : r₁.tree.WellFormed := (hprepared.change hs).wellFormed hready hwell
  have hfile : (r.tree.fileAt? (s.inputDir.resolve r.tree.cwd ++ l)).isSome := by
    rw [hold]
    rfl
  obtain ⟨a, ha, hname, hunique⟩ :=
    hprepared.exists_asset hs halike hwell₁ hplace hprocess hl hfile
  have hsource : (s.source a).resolve r.tree.cwd = s.inputDir.resolve r.tree.cwd ++ l := by
    rw [Settings.source, hname,
      Settings.resolve_assetPath_of_mem hwell _ (hwell.mem_filesUnder.2 ⟨hl, hfile⟩)]
  rw [← hsource] at hold hlog hfile ⊢
  -- up to the writing the file stays as it is
  have hworked := change_of_processed hs hprepared hprocess
  have hcwd : r₂.tree.cwd = r.tree.cwd := hworked.tree.cwd
  have hlog₂ : r₂.sinks.file ≠ some ((s.source a).resolve r.tree.cwd) := by
    rwa [hworked.sinks]
  have hbytes : r₂.tree.fileAt? ((s.source a).resolve r₂.tree.cwd) = some old := by
    rw [hcwd, hworked.tree.files, hold]
    rintro (hfile | hlands)
    · exact hlog hfile
    · rw [Settings.lookupPlace?_of_lookupDir_eq_none hlookup] at hlands
      cases hlands
  -- and then what is to arrive is in its place
  have hnodup := nodup_targets hs.input hwell₁ hprepared.names r₂.tree.cwd
  rw [← (of_processAll_eq_ok hprocess).1, List.map_map] at hnodup
  have harrives := of_writeAll_inPlace hs (hcwd.symm ▸ hplace) hnodup hwrite ha
  rw [hcwd, ← Settings.source_of_inPlace hplace] at harrives
  have hthere := (change_of_writeAll hs hwrite).tree.kept _ (hworked.tree.kept _ hfile)
  rw [harrives hlog₂] at hthere
  obtain ⟨new, hnew, hchanged, hrespelled⟩ :=
    exists_arriving hs.input halike hprocess ha hold hlog hbytes hthere
  refine ⟨a.result, List.mem_map_of_mem ha, hname, ?_, new, ?_, hchanged, hrespelled⟩
  · intro result hresult hal
    obtain ⟨a', ha', rfl⟩ := List.mem_map.1 hresult
    rw [hunique a' ha' hal]
  · rw [fileAt?_closing hs hwrite _ hlog₂, harrives hlog₂, hnew]

/-! ### A byte order mark, a null byte and a line end around a nugget -/

/-- The bytes of a text with the nugget `[[[b]]]`: a byte order mark and a null byte stand before it,
and a line end of two code points behind it. -/
def markedBytes : Bytes := Utf8.mark ++ [0] ++ [91, 91, 91, 98, 93, 93, 93] ++ [13, 10]

/-- A run on the asset of these bytes. -/
def markedRun : Run where
  tree :=
    { entries := [([['i']], .directory), ([['i'], ['x']], .file markedBytes)]
      cwd := [] }

/-- What comes of it if brackets are removed. -/
def markedProcessed : List Processed :=
  [⟨{ name := Text.ofChars ['x'], status := .rewritten, nuggets := 1 },
    some [0xFEFF, 0, 98, 13, 10]⟩]

theorem bytes_of_run_inPlace_marked :
    ∃ b r', run stripping .inOrder (.zero false) markedRun = (.ok b, r') ∧
      ∃ p, ∃ a ∈ b.assets, a.status = .rewritten ∧
        Respelled p a.name markedBytes (Utf8.mark ++ [0] ++ [98] ++ [13, 10]) := by
  have hs : stripping.Normal := ⟨by decide, by decide, nofun⟩
  have hrun : (run stripping .inOrder (.zero false) markedRun).1
      = .ok (resultOf stripping (.zero false) markedProcessed) := by decide +kernel
  have hready : markedRun.LogReady := nofun
  obtain ⟨p, r₁, -, hfiles⟩ := bytes_of_run_inPlace hs (by decide) hready (by decide) rfl
    (eq_of_outcome hrun)
  obtain ⟨a, ha, -, -, new, hnew, -, hrespelled⟩ :=
    hfiles [['x']] markedBytes (by decide) (by decide +kernel) (Option.some_ne_none _).symm
  have hbytes : (run stripping .inOrder (.zero false) markedRun).2.tree.fileAt? [['i'], ['x']]
      = some (Utf8.mark ++ [0] ++ [98] ++ [13, 10]) := by decide +kernel
  obtain rfl := Option.some.inj (hnew.symm.trans hbytes)
  have hstatus : a.status = .rewritten := by
    rw [List.mem_singleton.1 ha]
  exact ⟨_, _, eq_of_outcome hrun, p, a, ha, hstatus, hrespelled hstatus⟩

end Build
end Localize
