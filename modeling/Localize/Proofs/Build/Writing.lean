import Localize.Proofs.Build.Course

/-!
# What comes of writing assets

The writing of an asset can end in seven ways, which `Written` lists with what each leaves behind.
Three things follow, case by case: an asset that could not be written has changed no file
(`files_of_write_eq_error`), the reason is one of two (`of_write_eq_error`), and an asset that was
written is where it should be (`of_write_eq_ok`).

Assets are written one after the other, so a failure splits them into those that are written and
those that are not (`exists_of_writeAll_eq_error`).  Where all are written and none gets in the way
of another (`Spread`), all of them are where they should be (`of_writeAll_eq_ok`).
-/

set_option autoImplicit false

namespace Localize
namespace Build

variable {s : Settings} {asset : Processed} {r r' : Run} {e : BuildError}

/-- How the writing of an asset can end, and the run it leaves. -/
inductive Written (s : Settings) (asset : Processed) (r : Run) : Except BuildError Unit → Run → Prop
  /-- It has no new text and is there already. -/
  | there (htext : asset.text = none) (hplace : s.inPlace r.tree.cwd) : Written s asset r (.ok ()) r
  | noDirectory {e : FileError} {t : Tree}
      (hmade : r.tree.makeDirectories (s.target asset).parent = (.error e, t)) :
      Written s asset r (.error (.ofFile (.unwritable asset.result.name) e)) { r with tree := t }
  | unencodable {text : Text} {c : Utf8.EncodeError} {t : Tree} (htext : asset.text = some text)
      (hmade : r.tree.makeDirectories (s.target asset).parent = (.ok (), t))
      (hencode : Utf8.encode text = .error c) :
      Written s asset r (.error (.unencodable c)) { r with tree := t }
  | unwritten {text : Text} {bytes : Bytes} {e : FileError} {t : Tree}
      (htext : asset.text = some text)
      (hmade : r.tree.makeDirectories (s.target asset).parent = (.ok (), t))
      (hencode : Utf8.encode text = .ok bytes)
      (hwrite : t.writeFile (s.target asset) bytes = .error e) :
      Written s asset r (.error (.ofFile (.unwritable asset.result.name) e)) { r with tree := t }
  | written {text : Text} {bytes : Bytes} {t t' : Tree} (htext : asset.text = some text)
      (hmade : r.tree.makeDirectories (s.target asset).parent = (.ok (), t))
      (hencode : Utf8.encode text = .ok bytes)
      (hwrite : t.writeFile (s.target asset) bytes = .ok t') :
      Written s asset r (.ok ())
        (logTo true (BuildEvent.assetRewritten asset.result) { r with tree := t' })
  | uncopied {e : FileError} {t : Tree} (htext : asset.text = none)
      (hplace : ¬ s.inPlace r.tree.cwd)
      (hmade : r.tree.makeDirectories (s.target asset).parent = (.ok (), t))
      (hcopy : t.copyFile (s.source asset) (s.target asset) = .error e) :
      Written s asset r (.error (.ofFile (.unwritable asset.result.name) e)) { r with tree := t }
  | copied {t t' : Tree} (htext : asset.text = none) (hplace : ¬ s.inPlace r.tree.cwd)
      (hmade : r.tree.makeDirectories (s.target asset).parent = (.ok (), t))
      (hcopy : t.copyFile (s.source asset) (s.target asset) = .ok t') :
      Written s asset r (.ok ()) { r with tree := t' }

/-- **The writing of an asset ends in one of these ways.** -/
theorem written_of_write (s : Settings) (asset : Processed) (r : Run) :
    Written s asset r (write s asset r).1 (write s asset r).2 := by
  rcases hmade : r.tree.makeDirectories (s.target asset).parent with ⟨e | _, t⟩
  · cases htext : asset.text with
    | some text =>
      rw [write_of_some htext, bind_apply, makeDirectories_apply, hmade]
      exact .noDirectory hmade
    | none =>
      rw [write_apply_of_none htext]
      split
      · rename_i hplace
        exact .there htext hplace
      · rw [bind_apply, makeDirectories_apply, hmade]
        exact .noDirectory hmade
  · cases htext : asset.text with
    | some text =>
      rw [write_of_some htext, bind_apply, makeDirectories_apply, hmade]
      dsimp only
      cases hencode : Utf8.encode text with
      | error c => exact .unencodable htext hmade hencode
      | ok bytes =>
        dsimp only
        rw [bind_apply, change_apply]
        dsimp only
        cases hwrite : t.writeFile (s.target asset) bytes with
        | error e => exact .unwritten htext hmade hencode hwrite
        | ok t' => exact .written htext hmade hencode hwrite
    | none =>
      rw [write_apply_of_none htext]
      split
      · rename_i hplace
        exact .there htext hplace
      · rename_i hplace
        rw [bind_apply, makeDirectories_apply, hmade]
        dsimp only
        rw [change_apply]
        dsimp only
        cases hcopy : t.copyFile (s.source asset) (s.target asset) with
        | error e => exact .uncopied htext hplace hmade hcopy
        | ok t' => exact .copied htext hplace hmade hcopy

/-! ## Failures -/

/-- **An asset that could not be written has changed no file.** -/
theorem files_of_write_eq_error (hs : s.Normal) (h : write s asset r = (.error e, r'))
    (q : Location) : r'.tree.fileAt? q = r.tree.fileAt? q := by
  have htarget := (Settings.normal_assetPath hs.output asset.result.name).parent
  have hkept := (Tree.change_makeDirectories (t := r.tree) htarget).files q id
  have hwritten := written_of_write s asset r
  rw [h] at hwritten
  generalize hout : (Except.error e : Except BuildError Unit) = out at hwritten
  cases hwritten with
  | there | written | copied => cases hout
  | noDirectory hmade => rwa [hmade] at hkept
  | unencodable _ hmade => rwa [hmade] at hkept
  | unwritten _ hmade => rwa [hmade] at hkept
  | uncopied _ _ hmade => rwa [hmade] at hkept

/-- **Why an asset could not be written**: its new text has no bytes, or there is trouble with a
file. -/
theorem of_write_eq_error (h : write s asset r = (.error e, r')) :
    (∃ text c, asset.text = some text ∧ Utf8.encode text = .error c ∧ e = .unencodable c) ∨
      ∃ cause, e = .ofFile (.unwritable asset.result.name) cause := by
  have hwritten := written_of_write s asset r
  rw [h] at hwritten
  generalize hout : (Except.error e : Except BuildError Unit) = out at hwritten
  cases hwritten with
  | there | written | copied => cases hout
  | unencodable htext _ hencode =>
    cases hout
    exact Or.inl ⟨_, _, htext, hencode, rfl⟩
  | noDirectory => cases hout; exact Or.inr ⟨_, rfl⟩
  | unwritten => cases hout; exact Or.inr ⟨_, rfl⟩
  | uncopied => cases hout; exact Or.inr ⟨_, rfl⟩

/-- **Where the writing of assets fails, those before are written** and those from there on are
not. -/
theorem exists_of_writeAll_eq_error {assets : List Processed}
    (h : writeAll s assets r = (.error e, r')) :
    ∃ done asset rest r₁, assets = done ++ asset :: rest ∧ writeAll s done r = (.ok (), r₁) ∧
      write s asset r₁ = (.error e, r') := by
  induction assets generalizing r with
  | nil => cases h
  | cons asset rest ih =>
    rw [writeAll, bind_apply] at h
    rcases hwrite : write s asset r with ⟨e' | _, r₁⟩
    · rw [hwrite] at h
      cases h
      exact ⟨[], asset, rest, r, rfl, rfl, hwrite⟩
    · rw [hwrite] at h
      obtain ⟨done, failed, rest', r₂, rfl, hdone, hfailed⟩ := ih h
      refine ⟨asset :: done, failed, rest', r₂, rfl, ?_, hfailed⟩
      rw [writeAll, bind_apply, hwrite]
      exact hdone

/-! ## Success -/

/-- The bytes that are to stand where an asset is written: those of its new text or, without one,
those that stand where it is read. -/
def arriving (s : Settings) (t : Tree) (asset : Processed) : Option Bytes :=
  match asset.text with
  | some text => (Utf8.encode text).toOption
  | none => t.fileAt? ((s.source asset).resolve t.cwd)

/-- **A new text that was written is in its place**, whatever stood there. -/
theorem of_write_text (hs : s.Normal) {text : Text} (htext : asset.text = some text)
    (hlog : r.sinks.file ≠ some ((s.target asset).resolve r.tree.cwd))
    (h : write s asset r = (.ok (), r')) :
    ∃ bytes, Utf8.encode text = .ok bytes ∧
      r'.tree.fileAt? ((s.target asset).resolve r.tree.cwd) = some bytes := by
  have htarget := Settings.normal_assetPath hs.output asset.result.name
  have hwritten := written_of_write s asset r
  rw [h] at hwritten
  dsimp only at hwritten
  generalize hout : (Except.ok () : Except BuildError Unit) = out at hwritten
  cases hwritten with
  | noDirectory | unencodable | unwritten | uncopied => cases hout
  | there hnone | copied hnone => cases htext.symm.trans hnone
  | @written text' bytes t t' htext' hmade hencode hwrite =>
    cases htext.symm.trans htext'
    have hlogged : Run.Change Tree.nowhere (fun q => r.sinks.file = some q) { r with tree := t' }
        (logTo true (BuildEvent.assetRewritten asset.result) { r with tree := t' }) :=
      change_logTo (fun _ => id) true _ rfl
    refine ⟨bytes, hencode, (hlogged.tree.files _ hlog).trans ?_⟩
    exact (Tree.of_writeFile_of_made htarget hmade hwrite).2

/-- **An asset that was written is where it should be**, and nothing else is written but the log.  A
copy needs to find no directory in its place, neither from before nor made on the way. -/
theorem of_write_eq_ok (hs : s.Normal)
    (hclear : ¬ s.inPlace r.tree.cwd →
      r.tree.entry? ((s.target asset).resolve r.tree.cwd) ≠ some .directory ∧
        (s.target asset).resolve r.tree.cwd ∉ (s.target asset).parent.waypoints r.tree.cwd)
    (hlog : r.sinks.file ≠ some ((s.target asset).resolve r.tree.cwd))
    (h : write s asset r = (.ok (), r')) :
    r.Change (· ∈ (s.target asset).parent.waypoints r.tree.cwd)
        (fun q => q = (s.target asset).resolve r.tree.cwd ∨ r.sinks.file = some q) r' ∧
      r'.tree.fileAt? ((s.target asset).resolve r.tree.cwd) = arriving s r.tree asset := by
  have htarget := Settings.normal_assetPath hs.output asset.result.name
  have hall := change_of_write hs h
  have hwritten := written_of_write s asset r
  rw [h] at hwritten
  dsimp only at hwritten
  generalize hout : (Except.ok () : Except BuildError Unit) = out at hwritten
  cases hwritten with
  | noDirectory | unencodable | unwritten | uncopied => cases hout
  | there htext hin =>
    refine ⟨.refl _, ?_⟩
    rw [arriving, htext]
    exact congrArg _ (Path.resolve_join_congr (of_decide_eq_true hin) _)
  | @written text bytes t t' htext hmade hencode hwrite =>
    obtain ⟨hchange, hbytes⟩ := Tree.of_writeFile_of_made htarget hmade hwrite
    have hlogged : Run.Change Tree.nowhere (fun q => r.sinks.file = some q) { r with tree := t' }
        (logTo true (BuildEvent.assetRewritten asset.result) { r with tree := t' }) :=
      change_logTo (fun _ => id) true _ rfl
    refine ⟨⟨?_, hall.sinks, hall.wellFormed⟩, ?_⟩
    · exact (hchange.mono (fun _ => id) fun _ => Or.inl).trans
        (hlogged.tree.mono (fun _ => False.elim) fun _ => Or.inr)
    · rw [hlogged.tree.files _ hlog, hbytes, arriving, htext]
      dsimp only
      rw [hencode]
      rfl
  | copied htext hin hmade hcopy =>
    obtain ⟨hdir, hway⟩ := hclear hin
    have hsource := Settings.normal_assetPath hs.input asset.result.name
    obtain ⟨hchange, hbytes⟩ := Tree.of_copyFile_of_made htarget hsource hmade hdir hway hcopy
    refine ⟨⟨hchange.mono (fun _ => id) fun _ => Or.inl, hall.sinks, hall.wellFormed⟩, ?_⟩
    rw [hbytes, arriving, htext]

/-- The assets can be written one after the other without getting in each other's way: none is
written where another is written or where a later one is read, none is written or read where the log
is, and no copy finds a directory in its place. -/
structure Spread (s : Settings) (r : Run) (assets : List Processed) : Prop where
  apart : assets.Pairwise fun a b =>
    (s.target b).resolve r.tree.cwd ≠ (s.target a).resolve r.tree.cwd ∧
      (s.source b).resolve r.tree.cwd ≠ (s.target a).resolve r.tree.cwd
  targets : ∀ a ∈ assets, r.sinks.file ≠ some ((s.target a).resolve r.tree.cwd)
  sources : ∀ a ∈ assets, r.sinks.file ≠ some ((s.source a).resolve r.tree.cwd)
  clear : ¬ s.inPlace r.tree.cwd → ∀ a ∈ assets,
    r.tree.entry? ((s.target a).resolve r.tree.cwd) ≠ some .directory ∧
      ∀ b ∈ assets, (s.target a).resolve r.tree.cwd ∉ (s.target b).parent.waypoints r.tree.cwd

/-- Writing the first asset does not get in the way of the rest. -/
theorem Spread.tail {rest : List Processed} (h : Spread s r (asset :: rest))
    {written : Location → Prop}
    (hchange : r.Change (· ∈ (s.target asset).parent.waypoints r.tree.cwd) written r') :
    Spread s r' rest where
  apart := by
    rw [hchange.tree.cwd]
    exact (List.pairwise_cons.1 h.apart).2
  targets := by
    rw [hchange.tree.cwd, hchange.sinks]
    exact fun a ha => h.targets a (List.mem_cons_of_mem _ ha)
  sources := by
    rw [hchange.tree.cwd, hchange.sinks]
    exact fun a ha => h.sources a (List.mem_cons_of_mem _ ha)
  clear := by
    rw [hchange.tree.cwd]
    intro hplace a ha
    obtain ⟨hdir, hway⟩ := h.clear hplace a (List.mem_cons_of_mem _ ha)
    refine ⟨fun hmade => ?_, fun b hb => hway b (List.mem_cons_of_mem _ hb)⟩
    exact (hchange.tree.directories _ hmade).elim hdir (hway asset List.mem_cons_self)

/-- **Assets that were written are all where they should be**, with what was to arrive there from
the beginning; and nothing else is written but the log. -/
theorem of_writeAll_eq_ok (hs : s.Normal) {assets : List Processed} (hspread : Spread s r assets)
    (h : writeAll s assets r = (.ok (), r')) :
    (∀ q, (∀ a ∈ assets, q ≠ (s.target a).resolve r.tree.cwd) → r.sinks.file ≠ some q →
        r'.tree.fileAt? q = r.tree.fileAt? q) ∧
      ∀ a ∈ assets, r'.tree.fileAt? ((s.target a).resolve r.tree.cwd) = arriving s r.tree a := by
  induction assets generalizing r with
  | nil =>
    cases h
    exact ⟨fun _ _ _ => rfl, nofun⟩
  | cons asset rest ih =>
    rw [writeAll, bind_apply] at h
    rcases hwrite : write s asset r with ⟨_ | _, r₁⟩
    · rw [hwrite] at h
      cases h
    · rw [hwrite] at h
      dsimp only at h
      have hself : asset ∈ asset :: rest := List.mem_cons_self
      obtain ⟨hchange, hfirst⟩ := of_write_eq_ok hs
        (fun hplace => ⟨(hspread.clear hplace asset hself).1,
          (hspread.clear hplace asset hself).2 asset hself⟩)
        (hspread.targets asset hself) hwrite
      obtain ⟨hapart, -⟩ := List.pairwise_cons.1 hspread.apart
      obtain ⟨hothers, hrest⟩ := ih (hspread.tail hchange) h
      rw [hchange.tree.cwd, hchange.sinks] at hothers
      rw [hchange.tree.cwd] at hrest
      refine ⟨fun q hq hlog => ?_, fun a ha => ?_⟩
      · rw [hothers q (fun a ha => hq a (List.mem_cons_of_mem _ ha)) hlog]
        refine hchange.tree.files q fun hw => hw.elim (hq asset hself) hlog
      · rcases List.mem_cons.1 ha with rfl | ha
        · rw [hothers _ (fun b hb => (hapart b hb).1.symm) (hspread.targets a hself), hfirst]
        · -- the bytes a later asset takes from where it is read have stayed
          rw [hrest a ha, arriving, arriving]
          cases a.text with
          | some text => rfl
          | none =>
            dsimp only
            rw [hchange.tree.cwd]
            refine hchange.tree.files _ fun hw => hw.elim (hapart a ha).2 ?_
            exact hspread.sources a (List.mem_cons_of_mem _ ha)

end Build
end Localize
