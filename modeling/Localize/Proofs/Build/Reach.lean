import Localize.Proofs.Build.Failures
import Localize.Proofs.Build.Placing
import Localize.Settings.Load

/-!
# Where a build writes

Whatever comes of a build, the files that it makes or changes are those below its output directory,
the file of its table, and its log (`change_run_of_reach`).  That goes phase by phase: the only files
before the assets are written are the log and that of the table, and assets land below the output
directory.

The file of the table is named for the locale.  A locale without a slash makes it a file in the
directory for tables (`resolve_lookupTarget`).  Any other locale is read as a path from there, and
such a path can lead out of the directory.
-/

set_option autoImplicit false

namespace Localize

/-- A locale without a slash names a file in the directory for tables. -/
theorem Catalog.resolve_lookupTarget {locale : Text} (h : CodePoint.ofChar '/' ∉ locale)
    (directory : Path) (cwd : Location) :
    (lookupTarget locale directory).resolve cwd = directory.resolve cwd ++ [locale ++ ".json"] := by
  have hlength : 5 ≤ (locale ++ (".json" : Text)).length := by
    rw [List.length_append]
    exact Nat.le_add_left 5 locale.length
  have hname : Path.IsName (locale ++ ".json") := by
    refine ⟨⟨fun hnil => ?_, fun hdot => ?_, fun hslash => ?_⟩, fun hup => ?_⟩
    · rw [hnil] at hlength
      exact absurd hlength (by decide)
    · rw [hdot] at hlength
      exact absurd hlength (by decide)
    · rcases List.mem_append.1 hslash with hslash | hslash
      · exact h hslash
      · exact absurd hslash (by decide)
    · rw [hup] at hlength
      exact absurd hlength (by decide)
  have hread : Path.ofText (locale ++ ".json") = Path.ofNames [locale ++ ".json"] :=
    Path.ofText_join_names (List.cons_ne_nil _ [])
      fun name hmem => (List.mem_singleton.1 hmem).symm ▸ hname
  rw [lookupTarget, hread, Path.resolve_join_ofNames]
  exact fun hup => hname.2 (List.mem_singleton.1 hup).symm

namespace Build

variable {s : Settings} {r : Run}

/-- **Assets that were worked on land below the output directory.** -/
theorem Prepared.output_prefix {p : Policy} {names : List Text} {assets : List Processed}
    {r₁ r₂ : Run} {schedule : Schedule} (h : Prepared s r p names r₁) (hs : s.Normal)
    (hwell : r₁.tree.WellFormed)
    (hprocess : processAll s p schedule names (begun s names r₁) = (.ok assets, r₂))
    {a : Processed} (ha : a ∈ assets) {cwd q : Location} (hq : q ∈ s.landings cwd a) :
    s.outputDir.resolve cwd <+: q := by
  obtain ⟨l, hname, hl⟩ :=
    Settings.exists_of_mem_assetNames hs.input h.names (mem_of_processAll hprocess ha)
  exact (List.prefix_append _ l).trans (Settings.prefix_of_mem_landings hname
    (hwell.mem_filesUnder.1 hl).1 (hwell.isName_of_mem_filesUnder hl) hq)

/-- **How far a build reaches**, whether or not it succeeds: the files that it writes are its log,
that of its table, and files below its output directory. -/
theorem change_run_of_reach (hs : s.Normal) (hwell : r.tree.WellFormed) (hready : r.LogReady)
    (schedule : Schedule) (duration : Binary64) :
    r.Change (fun _ => True)
      (fun q => (r.sinks.file = some q ∨ s.lookupPlace? r.tree.cwd = some q) ∨
        s.outputDir.resolve r.tree.cwd <+: q)
      (run s schedule duration r).2 := by
  have hwriting : ∀ {p names r₁ assets r₂ r₃ out}, Prepared s r p names r₁ →
      processAll s p schedule names (begun s names r₁) = (.ok assets, r₂) →
      writeAll s assets r₂ = (out, r₃) →
      r.Change (fun _ => True)
        (fun q => (r.sinks.file = some q ∨ s.lookupPlace? r.tree.cwd = some q) ∨
          s.outputDir.resolve r.tree.cwd <+: q) r₃ := by
    intro p names r₁ assets r₂ r₃ out h hprocess hwrite
    have hworked := change_of_processed hs h hprocess
    have hwritten := change_of_writeAll hs hwrite
    rw [hworked.sinks, hworked.tree.cwd] at hwritten
    refine (hworked.mono (fun _ => id) fun _ => Or.inl).trans
      (hwritten.mono (fun _ => id) fun q hq => ?_)
    rcases hq with hlog | ⟨a, ha, hlands⟩
    · exact Or.inl (Or.inl hlog)
    · exact Or.inr
        (h.output_prefix hs ((h.change hs).wellFormed hready hwell) hprocess ha hlands)
  have hcourse := course s schedule duration r
  generalize run s schedule duration r = ended at hcourse
  obtain ⟨out, r'⟩ := ended
  dsimp only at hcourse ⊢
  cases hcourse with
  | unasked | noInput => exact .refl r
  | noPolicy _ hpolicy => exact (change_of_loadPolicy hs hpolicy).mono (fun _ => id) fun _ => Or.inl
  | noNames _ hpolicy => exact (change_of_loadPolicy hs hpolicy).mono (fun _ => id) fun _ => Or.inl
  | unprocessed h hprocess =>
    exact (change_of_processed hs h hprocess).mono (fun _ => id) fun _ => Or.inl
  | unwritten h hprocess hwrite => exact hwriting h hprocess hwrite
  | @finished _ _ _ r₃ _ _ assets h hprocess hwrite hclosing =>
    have hwritten := hwriting h hprocess hwrite
    have hend := change_closing (resultOf s duration assets) r₃
    rw [hclosing, hwritten.sinks] at hend
    exact hwritten.trans (hend.mono (fun _ => False.elim) fun _ hlog => Or.inl (Or.inl hlog))

/-- **A build writes only where it was told to.**  A file that it makes or changes, whether or not
it succeeds, is its log, or lies below its output directory, or is the file of its table.  That file
is `<locale>.json` in the directory for tables, if there is no slash in the locale. -/
theorem written_of_run (hs : s.Normal) (hwell : r.tree.WellFormed) (hready : r.LogReady)
    (schedule : Schedule) (duration : Binary64) {q : Location}
    (hq : (run s schedule duration r).2.tree.fileAt? q ≠ r.tree.fileAt? q) :
    r.sinks.file = some q ∨ s.outputDir.resolve r.tree.cwd <+: q ∨
      ∃ directory, s.catalog.lookupDir = some directory ∧
        q = (Catalog.lookupTarget s.locale directory).resolve r.tree.cwd ∧
        (CodePoint.ofChar '/' ∉ s.locale →
          q = directory.resolve r.tree.cwd ++ [s.locale ++ ".json"]) := by
  have hchange := change_run_of_reach hs hwell hready schedule duration
  have hreach : (r.sinks.file = some q ∨ s.lookupPlace? r.tree.cwd = some q) ∨
      s.outputDir.resolve r.tree.cwd <+: q :=
    Classical.byContradiction fun hout => hq (hchange.tree.files q hout)
  rcases hreach with (hlog | hlookup) | hbelow
  · exact Or.inl hlog
  · rw [Settings.lookupPlace?] at hlookup
    split at hlookup
    · rename_i directory _ hdirectory
      cases hlookup
      exact Or.inr (Or.inr ⟨directory, hdirectory, rfl,
        fun hslash => Catalog.resolve_lookupTarget hslash directory _⟩)
    · cases hlookup
  · exact Or.inr (Or.inl hbelow)

/-! ### A table and one asset -/

/-- Settings with a locale, the catalog `c`, and `l` as the directory for tables. -/
def tabling (locale : List Char) : Settings where
  locale := Text.ofChars locale
  catalog :=
    { path := some (Path.ofText (Text.ofChars ['c']))
      lookupDir := some (Path.ofText (Text.ofChars ['l'])) }
  build := { inputDir := Path.ofText (Text.ofChars ['i']) }

/-- A catalog by which `a` is `A`. -/
def tablingText : Text := Text.ofString "msgid \"a\"\nmsgstr \"A\"\n"

/-- The bytes of this catalog. -/
def tablingBytes : Bytes := Utf8.encodeLossy tablingText

/-- A run on this catalog and on the asset `h`. -/
def tablingRun : Run where
  tree :=
    { entries := [([['c']], .file tablingBytes), ([['i']], .directory),
        ([['i'], ['x']], .file [104])]
      cwd := [] }

theorem written_of_run_tabling :
    ∃ q directory, (run (tabling ['d']) .inOrder (.zero false) tablingRun).2.tree.fileAt? q
        ≠ tablingRun.tree.fileAt? q ∧
      (tabling ['d']).catalog.lookupDir = some directory ∧
      q = directory.resolve tablingRun.tree.cwd ++ [(tabling ['d']).locale ++ ".json"] := by
  have hs : (tabling ['d']).Normal :=
    ⟨by decide, by decide, fun directory h => Option.some.inj h ▸ by decide⟩
  have hwell : tablingRun.tree.WellFormed := by decide +kernel
  let q : Location := [['l'], Text.ofChars ['d', '.', 'j', 's', 'o', 'n']]
  have hchanged : (run (tabling ['d']) .inOrder (.zero false) tablingRun).2.tree.fileAt? q
      ≠ tablingRun.tree.fileAt? q := by decide +kernel
  rcases written_of_run hs hwell nofun .inOrder (.zero false) hchanged with
    hlog | hbelow | ⟨directory, hdirectory, -, hname⟩
  · cases hlog
  · exact absurd hbelow (by decide)
  · exact ⟨q, directory, hchanged, hdirectory, hname (by decide)⟩

/-- **A locale can lead out of the directory for tables.**  The table of the locale `../d` is written
beside it. -/
theorem not_forall_written_of_run :
    ¬ ∀ (doc : Settings.Document) (s : Settings) (schedule : Schedule) (duration : Binary64)
        (r : Run) (q : Location), Settings.ofDocument doc = .ok s → r.Sound s →
      r.sinks.file = none →
      (run s schedule duration r).2.tree.fileAt? q ≠ r.tree.fileAt? q →
      s.outputDir.resolve r.tree.cwd <+: q ∨
        ∃ directory, s.catalog.lookupDir = some directory ∧
          q = directory.resolve r.tree.cwd ++ [s.locale ++ ".json"] := by
  intro hwrites
  let doc : Settings.Document :=
    [(.text "locale", .text (Text.ofChars ['.', '.', '/', 'd'])),
      (.text "catalog", .map [(.text "path", .text "c"), (.text "lookup_dir", .text "l")]),
      (.text "build", .map [(.text "input_dir", .text "i")])]
  have hsound : tablingRun.Sound (tabling ['.', '.', '/', 'd']) := ⟨by decide +kernel, nofun, nofun⟩
  rcases hwrites doc (tabling ['.', '.', '/', 'd']) .inOrder (.zero false) tablingRun
    [Text.ofChars ['d', '.', 'j', 's', 'o', 'n']] rfl hsound rfl (by decide +kernel) with
    hbelow | ⟨directory, hdirectory, hname⟩
  · exact absurd hbelow (by decide)
  · cases Option.some.inj hdirectory
    exact absurd hname (by decide)

end Build
end Localize
