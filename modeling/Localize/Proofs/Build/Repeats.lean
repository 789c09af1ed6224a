import Localize.Proofs.Build.Growth
import Localize.Proofs.Catalog.Named
import Localize.Proofs.Files.Again

/-!
# Steps that are done again

The steps of a build are followed twice, once from the start and once from the end (`Run.Again`).  A
step that succeeded the first time does so the second time, with the same outcome (`Build.Repeats`).
That goes through sequences of steps because the tree only grows: what the first run has made by a
step is there at its end.

So everything is written again (`repeats_writeAll`), and a policy is got again if its catalog is
(`loadPolicy_again`).
-/

set_option autoImplicit false

namespace Localize

/-- A step of a build is to be done in `r` the first time and in `v` the second; the first time all
comes to the tree `w` in the end.  At the places that are to be read, both find the same. -/
structure Run.Again (cwd : Location) (read : Location → Prop) (w : Tree) (r v : Run) : Prop where
  cwd_eq : r.tree.cwd = cwd
  cwd_eq' : v.tree.cwd = cwd
  tree : Tree.Again r.sinks.file read r.tree w v.tree
  sinks : v.sinks.file = r.sinks.file
  ready : r.LogReady
  ready' : v.LogReady
  apart : ∀ q, read q → r.sinks.file ≠ some q

namespace Run.Again

variable {cwd : Location} {read : Location → Prop} {w t t' : Tree} {r r' v v' : Run}

/-- Both trees may grow to trees that go together again. -/
theorem of_tree (h : Run.Again cwd read w r v)
    (htree : Tree.Again r.sinks.file read t w t') (hr : r.tree.Grows t) (hv : v.tree.Grows t') :
    Run.Again cwd read w { r with tree := t } { v with tree := t' } :=
  ⟨hr.cwd.trans h.cwd_eq, hv.cwd.trans h.cwd_eq', htree, h.sinks, fun q hq => hr.files q (h.ready q hq),
    fun q hq => hv.files q (h.ready' q hq), h.apart⟩

/-- Logging, the first time and the second. -/
theorem of_alike (h : Run.Again cwd read w r v) (hr : r.Alike r') (hv : v.Alike v') :
    Run.Again cwd read w r' v' := by
  refine ⟨hr.tree.cwd.trans h.cwd_eq, hv.tree.cwd.trans h.cwd_eq', ?_, ?_, hr.ready', hv.ready',
    hr.sinks ▸ h.apart⟩
  · rw [hr.sinks]
    exact h.tree.of_alike hr.tree (h.sinks ▸ hv.tree) h.apart
  · rw [hr.sinks, hv.sinks, h.sinks]

end Run.Again

namespace Build

variable {α β : Type} {cwd : Location} {read : Location → Prop} {w : Tree} {s : Settings}
variable {r r' v : Run}

/-- Where the computation succeeded the first time, it succeeds the second time with the same
outcome. -/
structure Repeats (cwd : Location) (read : Location → Prop) (w : Tree) (m : Build α) : Prop where
  growing : Growing m
  again : ∀ (r r' v : Run) (a : α), m r = (.ok a, r') → r'.tree.Grows w →
    Run.Again cwd read w r v → ∃ v', m v = (.ok a, v') ∧ Run.Again cwd read w r' v'

theorem repeats_pure (a : α) : Repeats cwd read w (pure a) := by
  refine ⟨sequential_growing.pure a, fun r r' v b h _ hagain => ?_⟩
  cases h
  exact ⟨v, rfl, hagain⟩

theorem repeats_throw (e : BuildError) : Repeats cwd read w (throw e : Build α) :=
  ⟨sequential_growing.throw e, fun r r' v a h => by cases h⟩

/-- **Steps that can be repeated, one after the other.** -/
theorem Repeats.bind {m : Build α} {f : α → Build β} (hm : Repeats cwd read w m)
    (hf : ∀ a, Repeats cwd read w (f a)) : Repeats cwd read w (m >>= f) := by
  refine ⟨sequential_growing.bind hm.growing fun a => (hf a).growing, ?_⟩
  intro r r' v b h hend hagain
  obtain ⟨a, r₁, hfirst, hlast⟩ := of_bind_eq_ok h
  have hr₁ := hm.growing r hagain.ready
  rw [hfirst] at hr₁
  -- what the first step has made is there at the end
  have hrest := (hf a).growing r₁ (hr₁.logReady hagain.ready)
  rw [hlast] at hrest
  obtain ⟨v₁, hv₁, hagain₁⟩ := hm.again r r₁ v a hfirst (hrest.tree.trans hend) hagain
  rw [bind_apply, hv₁]
  exact (hf a).again r₁ r' v₁ b hlast hend hagain₁

theorem repeats_log (x : Record) : Repeats cwd read w (log x) := by
  refine ⟨growing_log x, fun r r' v a h _ hagain => ?_⟩
  rw [log_apply] at h ⊢
  cases h
  exact ⟨_, rfl,
    hagain.of_alike (Run.alike_logTo hagain.ready true x) (Run.alike_logTo hagain.ready' true x)⟩

/-- A change of the tree that can be made again. -/
theorem repeats_change (wrap : FileError → BuildError) {f : Tree → Except FileError Tree}
    (hgrows : ∀ t t', f t = .ok t' → t.Grows t')
    (hagain : ∀ {logFile u u' v}, u.cwd = cwd → Tree.Again logFile read u w v → f u = .ok u' →
      u'.Grows w → ∃ v', f v = .ok v' ∧ Tree.Again logFile read u' w v') :
    Repeats cwd read w (change wrap f) := by
  refine ⟨growing_change wrap hgrows, fun r r' v a h hend hrun => ?_⟩
  rw [change_apply] at h ⊢
  cases hout : f r.tree with
  | error e =>
    rw [hout] at h
    cases h
  | ok t =>
    rw [hout] at h
    cases h
    obtain ⟨t', hout', htree⟩ := hagain hrun.cwd_eq hrun.tree hout hend
    rw [hout']
    exact ⟨_, rfl, hrun.of_tree htree (hgrows _ _ hout) (hgrows _ _ hout')⟩

theorem repeats_writeFile (wrap : FileError → BuildError) (p : Path) (bytes : Bytes) :
    Repeats cwd read w (change wrap (·.writeFile p bytes)) :=
  repeats_change wrap (fun _ _ => Tree.Grows.writeFile)
    fun _ htree hwrite hend => htree.writeFile hwrite hend

theorem repeats_copyFile (wrap : FileError → BuildError) {source : Path} (target : Path)
    (hsource : source.Normal) (hread : read (source.resolve cwd)) :
    Repeats cwd read w (change wrap (·.copyFile source target)) := by
  refine repeats_change wrap (fun _ _ => Tree.Grows.copyFile) fun hcwd htree hcopy hend => ?_
  refine htree.copyFile hcopy hend fun place hplace => ?_
  rw [Tree.eq_resolve_of_locate hsource hplace, hcwd]
  exact hread

theorem repeats_makeDirectories (wrap : FileError → BuildError) {p : Path} (hp : p.Normal) :
    Repeats cwd read w (makeDirectories wrap p) := by
  refine ⟨growing_makeDirectories wrap p, fun r r' v a h hend hagain => ?_⟩
  have hgrows := Tree.Grows.makeDirectories r.tree p
  rw [makeDirectories_apply] at h ⊢
  rcases hmade : r.tree.makeDirectories p with ⟨e | _, t⟩
  · rw [hmade] at h
    cases h
  · rw [hmade] at h hgrows
    cases h
    obtain ⟨hmade', htree⟩ := hagain.tree.makeDirectories hp hmade hend
    rw [hmade']
    exact ⟨_, rfl, hagain.of_tree htree hgrows (.refl v.tree)⟩

/-! ## Phases that are done again -/

theorem repeats_writeTable (locale : Text) (table : Table) {directory : Path}
    (hp : directory.Normal) : Repeats cwd read w (writeTable locale table directory) := by
  refine (repeats_makeDirectories _ hp).bind fun _ => ?_
  refine Repeats.bind ?_ fun _ => (repeats_log _).bind fun _ => repeats_pure _
  refine (repeats_writeFile _ _ _).bind fun _ => ?_
  split
  · exact repeats_throw _
  · exact repeats_writeFile _ _ _

/-- An asset is written again, if it can be read again where it has to be copied. -/
theorem repeats_write (hs : s.Normal) {asset : Processed}
    (hread : ¬ s.inPlace cwd → read ((s.source asset).resolve cwd)) :
    Repeats cwd read w (write s asset) := by
  have htarget := Settings.normal_assetPath hs.output asset.result.name
  cases htext : asset.text with
  | some text =>
    rw [write_of_some htext]
    refine (repeats_makeDirectories _ htarget.parent).bind fun _ => ?_
    split
    · exact repeats_throw _
    · exact (repeats_writeFile _ _ _).bind fun _ => repeats_log _
  | none =>
    refine ⟨growing_write s asset, fun r r' v a h hend hagain => ?_⟩
    rw [write_apply_of_none htext, hagain.cwd_eq] at h
    rw [write_apply_of_none htext, hagain.cwd_eq']
    split
    · rename_i hplace
      rw [if_pos hplace] at h
      cases h
      exact ⟨v, rfl, hagain⟩
    · rename_i hplace
      rw [if_neg hplace] at h
      refine ((repeats_makeDirectories _ htarget.parent).bind fun _ => ?_).again r r' v a h hend
        hagain
      exact repeats_copyFile _ _ (Settings.normal_assetPath hs.input _) (hread hplace)

theorem repeats_writeAll (hs : s.Normal) {assets : List Processed}
    (hread : ¬ s.inPlace cwd → ∀ a ∈ assets, read ((s.source a).resolve cwd)) :
    Repeats cwd read w (writeAll s assets) := by
  induction assets with
  | nil => exact repeats_pure ()
  | cons asset rest ih =>
    refine (repeats_write hs fun hplace => hread hplace asset List.mem_cons_self).bind fun _ => ?_
    exact ih fun hplace a ha => hread hplace a (List.mem_cons_of_mem _ ha)

/-- A table is got again from the bytes it was got from, if their text means the same. -/
theorem loadTable_again {locale : Text} {path : Path} {includeFuzzy : Bool} {table : Table}
    (h : loadTable locale path includeFuzzy r = (.ok table, r'))
    (hread : ∀ bytes, r.tree.readFile path = .ok bytes → v.tree.readFile path = .ok bytes)
    (hnamed : ∀ bytes text, r.tree.readFile path = .ok bytes → Utf8.decodeMarked bytes = .ok text →
      v.tree.fileNamed? text = r.tree.fileNamed? text) :
    ∃ v', loadTable locale path includeFuzzy v = (.ok table, v') := by
  rw [loadTable, bind_apply, get_apply] at h ⊢
  dsimp only at h ⊢
  cases hbytes : r.tree.readFile path with
  | error e =>
    rw [hbytes] at h
    cases h
  | ok bytes =>
    rw [hbytes] at h
    rw [hread bytes hbytes]
    dsimp only at h ⊢
    rw [Catalog.ingest_congr fun text htext _ => hnamed bytes text hbytes htext]
    cases hingest : Catalog.ingest locale includeFuzzy bytes r.tree.fileNamed? with
    | error e =>
      rw [hingest] at h
      cases h
    | ok ingested =>
      rw [hingest] at h
      cases h
      exact ⟨_, rfl⟩

/-- **A policy is got again** if the bytes of the catalog are read again and their text means the
same. -/
theorem loadPolicy_again (hs : s.Normal) {p : Policy} (h : loadPolicy s r = (.ok p, r'))
    (hend : r'.tree.Grows w) (hagain : Run.Again cwd read w r v)
    (hread : ∀ path bytes, s.catalog.path = some path → r.tree.readFile path = .ok bytes →
      v.tree.readFile path = .ok bytes)
    (hnamed : ∀ path bytes text, s.catalog.path = some path → r.tree.readFile path = .ok bytes →
      Utf8.decodeMarked bytes = .ok text → v.tree.fileNamed? text = r.tree.fileNamed? text) :
    ∃ v', loadPolicy s v = (.ok p, v') ∧ Run.Again cwd read w r' v' := by
  rw [loadPolicy] at h ⊢
  cases hpath : s.catalog.path with
  | none =>
    rw [hpath] at h
    exact ((repeats_log _).bind fun _ => repeats_pure _).again r r' v p h hend hagain
  | some path =>
    rw [hpath] at h
    dsimp only at h ⊢
    obtain ⟨table, r₁, htable, hrest⟩ := of_bind_eq_ok h
    obtain ⟨v₁, htable'⟩ := loadTable_again htable (fun bytes => hread path bytes hpath)
      fun bytes text => hnamed path bytes text hpath
    have hr₁ := onlyLogs_loadTable s.locale path s.catalog.includeFuzzy r hagain.ready
    have hv₁ := onlyLogs_loadTable s.locale path s.catalog.includeFuzzy v hagain.ready'
    rw [htable] at hr₁
    rw [bind_apply, htable']
    rw [htable'] at hv₁
    refine Repeats.again ?_ r₁ r' v₁ p hrest hend (hagain.of_alike hr₁ hv₁)
    refine (repeats_log _).bind fun _ => ?_
    cases hdir : s.catalog.lookupDir with
    | none => exact repeats_pure _
    | some directory =>
      refine (repeats_writeTable _ _ (hs.lookup directory hdir)).bind fun target => ?_
      exact (repeats_log _).bind fun _ => repeats_pure _

end Build
end Localize
